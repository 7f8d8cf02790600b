import SchemaBundle.Json.Basic
import SchemaBundle.Decimal.Shortest
import SchemaBundle.Yaml.Scalar

/-!
# Writing YAML

A value is written in block style, two blanks to a level, with empty collections as `[]` and
`{}`. A text stands plain where it would read back as the same text; else it is quoted, or, if it
has several lines, written as a literal block. A sequence inside a mapping is not indented.

A `Pen` carries what is written together with what the layout depends on: the column, and
whether the line so far ends in a blank, and whether it holds only indentation and the marks
`-`, `?` and `:` of collections that start on it.
-/

namespace SchemaBundle.Yaml

open Json (Value Number)
open Decimal (FloatStyle)

/-- Doubles are written out up to sixteen places before the point and four zeros after it. -/
def floatStyle : FloatStyle :=
  ⟨-5, 16, "e", "e-"⟩

/-- The text of a number. -/
def numberText : Number → String
  | .integer value => toString value
  | .float value => floatStyle.text value

/-! ## Which style a text allows -/

/-- The ways in which a scalar is written. -/
inductive Style where
  | plain
  | singleQuoted
  | doubleQuoted
  | literal
deriving DecidableEq, Repr

/-- Whether a gap or the end comes next. -/
def gapNext : List Char → Bool
  | c :: _ => isGap c
  | [] => true

/-- Whether a text starts like the line between two documents. -/
def startsLikeMarker (text : List Char) : Bool :=
  text.take 3 == ['-', '-', '-'] || text.take 3 == ['.', '.', '.']

/-- Characters that mean something else at the start of a scalar. -/
def isIndicator (c : Char) : Bool :=
  c ∈ ['#', ',', '[', ']', '\x7b', '\x7d', '&', '*', '!', '|', '>', '\'', '"', '%', '@',
    Char.ofNat 0x60]

/-- Whether a text starts with a character that means something else there. -/
def startsWithIndicator : List Char → Bool
  | [] => false
  | c :: rest => isIndicator c || (c ∈ ['?', ':', '-'] && gapNext rest)

/-- Whether a colon before a gap, or a number sign after one, stands in a text. -/
def hasIndicatorInside (afterGap : Bool) : List Char → Bool
  | [] => false
  | c :: rest =>
    (c == ':' && gapNext rest) || (c == '#' && afterGap) || hasIndicatorInside (isGap c) rest

/-- Whether two characters with the given properties stand side by side. -/
def hasPair (first second : Char → Bool) : List Char → Bool
  | a :: b :: rest => (first a && second b) || hasPair first second (b :: rest)
  | _ => false

/-- Whether a text has several lines. -/
def isMultiline (text : List Char) : Bool :=
  text.any isBreak

/-- Whether a text can stand plain in a block. -/
def allowsPlain (text : List Char) : Bool :=
  !(startsLikeMarker text || startsWithIndicator text ||
    (match text with
      | [] => false
      | c :: rest => hasIndicatorInside (isGap c) rest) ||
    text.head? == some ' ' || text.getLast? == some ' ' || isMultiline text ||
    text.any (fun c => !isPrintable c))

/-- Whether a text can stand between single quotes. -/
def allowsSingleQuoted (text : List Char) : Bool :=
  !(hasPair isBreak (· == ' ') text || hasPair (· == ' ') isBreak text ||
    text.any (fun c => !isPrintable c))

/-- Whether a text can stand as a literal block. -/
def allowsLiteral (text : List Char) : Bool :=
  !(text.isEmpty || text.getLast? == some ' ' || hasPair (· == ' ') isBreak text ||
    text.any (fun c => !isPrintable c))

/-- Whether a text would be taken for something else if it stood plain. -/
def needsQuotes (text : List Char) : Bool :=
  Scalar.meaning text != .text || Scalar.isZeroPadded text

/-- The style of a text. -/
def style (text : List Char) : Style :=
  if '\n' ∈ text then
    if allowsLiteral text then .literal else .doubleQuoted
  else if allowsPlain text && !needsQuotes text then .plain
  else if allowsSingleQuoted text then .singleQuoted
  else .doubleQuoted

/-! ## The pen -/

/-- What is written, last character first, and where the layout stands. -/
structure Pen where
  written : List Char
  column : Nat
  /-- Whether a blank came last, or the line is new. -/
  afterBlank : Bool
  /-- Whether a further collection could start on this line. -/
  atIndent : Bool

namespace Pen

/-- Nothing is written yet. -/
def start : Pen :=
  ⟨[], 0, true, true⟩

/-- Writes characters of one line. -/
def put (text : List Char) (pen : Pen) : Pen :=
  { pen with written := text.reverse ++ pen.written, column := pen.column + text.length }

/-- Ends the line. -/
def endLine (c : Char) (pen : Pen) : Pen :=
  { pen with written := c :: pen.written, column := 0 }

/-- Goes to a column on a new line, or on this one if nothing stands in the way. -/
def indent (column : Nat) (pen : Pen) : Pen :=
  let pen :=
    if !pen.atIndent || column < pen.column || (pen.column == column && !pen.afterBlank) then
      pen.endLine '\n'
    else pen
  let pen := pen.put (List.replicate (column - pen.column) ' ')
  { pen with afterBlank := true, atIndent := true }

/-- Writes a blank unless one came last. -/
def space (pen : Pen) : Pen :=
  if pen.afterBlank then pen else pen.put [' ']

/-- Ends a scalar. -/
def endScalar (pen : Pen) : Pen :=
  { pen with afterBlank := false, atIndent := false }

/-- Writes the mark of an item, a key or a value that further collections may follow. -/
def mark (c : Char) (pen : Pen) : Pen :=
  { pen.space.put [c] with afterBlank := false }

end Pen

/-! ## Scalars -/

/-- The hexadecimal digits of a number, in capital letters, at least `width` of them. -/
def hexDigits (width n : Nat) : List Char :=
  let digits := (Nat.toDigits 16 n).map Char.toUpper
  List.replicate (width - digits.length) '0' ++ digits

/-- A character as it stands between double quotes. -/
def escapeChar (c : Char) : List Char :=
  let n := c.toNat
  if c = '"' ∨ c = '\\' then ['\\', c]
  else if isPrintable c ∧ ¬ isBreak c then [c]
  else if n = 0x00 then ['\\', '0']
  else if n = 0x07 then ['\\', 'a']
  else if n = 0x08 then ['\\', 'b']
  else if n = 0x09 then ['\\', 't']
  else if n = 0x0A then ['\\', 'n']
  else if n = 0x0B then ['\\', 'v']
  else if n = 0x0C then ['\\', 'f']
  else if n = 0x0D then ['\\', 'r']
  else if n = 0x1B then ['\\', 'e']
  else if n = 0x85 then ['\\', 'N']
  else if n = 0x2028 then ['\\', 'L']
  else if n = 0x2029 then ['\\', 'P']
  else if n ≤ 0xFF then ['\\', 'x'] ++ hexDigits 2 n
  else if n ≤ 0xFFFF then ['\\', 'u'] ++ hexDigits 4 n
  else ['\\', 'U'] ++ hexDigits 8 n

/-- Writes the characters of a scalar that keeps its line ends, with new lines indented. -/
def putLines (column : Nat) (escape : Char → List Char) (afterBreak : Bool) :
    List Char → Pen → Pen
  | [], pen => if afterBreak then pen.indent column else pen
  | c :: rest, pen =>
    if isBreak c then
      putLines column escape true rest { pen.endLine c with atIndent := true }
    else
      let pen := if afterBreak then pen.indent column else pen
      putLines column escape false rest { pen.put (escape c) with atIndent := false }

/-- Writes a text between single quotes; a quote in it is written twice. -/
def putSingleQuoted (column : Nat) (text : List Char) (pen : Pen) : Pen :=
  let pen := { pen.space.put ['\''] with afterBlank := false, atIndent := false }
  let pen := putLines column (fun c => if c = '\'' then ['\'', '\''] else [c]) false text pen
  (pen.put ['\'']).endScalar

/-- Writes a text between double quotes. -/
def putDoubleQuoted (text : List Char) (pen : Pen) : Pen :=
  (pen.space.put ('"' :: (text.flatMap escapeChar ++ ['"']))).endScalar

/-- What the header of a literal block says on the line ends that close the text. -/
def chomping (text : List Char) : List Char :=
  match text.reverse with
  | [] => ['-']
  | last :: before =>
    if !isBreak last then ['-']
    else
      match before with
      | [] => ['+']
      | c :: _ => if isBreak c then ['+'] else []

/-- Writes the lines of a literal block. -/
def putLiteralLines (column : Nat) (afterBreak : Bool) : List Char → Pen → Pen
  | [], pen => pen
  | c :: rest, pen =>
    if isBreak c then
      putLiteralLines column true rest { pen.endLine c with atIndent := true }
    else
      let pen := if afterBreak then pen.indent column else pen
      putLiteralLines column false rest { pen.put [c] with atIndent := false }

/-- Writes a text as a literal block. -/
def putLiteral (column : Nat) (text : List Char) (pen : Pen) : Pen :=
  let startsWithGap := text.head?.any fun c => c == ' ' || isBreak c
  let header := '|' :: ((if startsWithGap then ['2'] else []) ++ chomping text)
  let pen := (pen.space.put header).endLine '\n'
  putLiteralLines column true text { pen with afterBlank := true, atIndent := true }

/-- Writes a text, with further lines of it indented to a column. -/
def putText (column : Nat) (text : List Char) (pen : Pen) : Pen :=
  match style text with
  | .plain => (pen.space.put text).endScalar
  | .singleQuoted => putSingleQuoted column text pen
  | .doubleQuoted => putDoubleQuoted text pen
  | .literal => putLiteral column text pen

/-! ## Values -/

/-- The longest key, in bytes, that is written before its colon on one line. -/
def longestSimpleKey : Nat := 128

/-- Whether a key stands on one line with its value. -/
def isSimpleKey (key : String) : Bool :=
  key.utf8ByteSize ≤ longestSimpleKey && !isMultiline key.toList

/-- The column of what is inside a collection or a scalar: two more than around it. -/
def inner : Option Nat → Nat
  | none => 0
  | some column => column + 2

/-- The column of the further lines of a scalar. -/
def scalarColumn : Option Nat → Nat
  | none => 2
  | some column => column + 2

/-- Writes a key and its colon. -/
def putKey (column : Nat) (key : String) (pen : Pen) : Pen :=
  let pen := pen.indent column
  if isSimpleKey key then
    { (putText (column + 2) key.toList pen).put [':'] with afterBlank := false, atIndent := false }
  else
    ((putText (column + 2) key.toList (pen.mark '?')).indent column).mark ':'

mutual

/-- Writes a value inside a collection at a column; `inMapping` says that a key is before it. -/
def putValue (column : Option Nat) (inMapping : Bool) : Value → Pen → Pen
  | .null, pen => (pen.space.put "null".toList).endScalar
  | .bool value, pen => (pen.space.put (if value then "true" else "false").toList).endScalar
  | .number value, pen => (pen.space.put (numberText value).toList).endScalar
  | .string text, pen => putText (scalarColumn column) text.toList pen
  | .array [], pen => (pen.space.put ['[', ']']).endScalar
  | .array (item :: rest), pen =>
    let column :=
      if inMapping && !pen.atIndent then column.getD 0 else inner column
    putItems column rest (putValue (some column) false item ((pen.indent column).mark '-'))
  | .object [], pen => (pen.space.put ['\x7b', '\x7d']).endScalar
  | .object ((key, value) :: rest), pen =>
    let column := inner column
    let pen := putKey column key pen
    putEntries column rest (putValue (some column) true value pen)

/-- Writes the items after the first. -/
def putItems (column : Nat) : List Value → Pen → Pen
  | [], pen => pen
  | item :: rest, pen =>
    putItems column rest (putValue (some column) false item ((pen.indent column).mark '-'))

/-- Writes the entries after the first. -/
def putEntries (column : Nat) : List (String × Value) → Pen → Pen
  | [], pen => pen
  | (key, value) :: rest, pen =>
    let pen := putKey column key pen
    putEntries column rest (putValue (some column) true value pen)

end

/-- A value as a document of its own. -/
def write (value : Value) : String :=
  String.ofList ((putValue none false value .start).indent 0).written.reverse

end SchemaBundle.Yaml
