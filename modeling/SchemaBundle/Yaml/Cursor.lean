import SchemaBundle.Yaml.Character

/-!
# A place in a text

What is left of a text, with the line and column reached so far. All line ends of one kind or
another are made line feeds before reading, except the two separators of Unicode, which stay.
-/

namespace SchemaBundle.Yaml

/-- Makes the pair of carriage return and line feed, either alone and the next line one
character. -/
def normalizeBreaks : List Char → List Char
  | '\r' :: '\n' :: rest => '\n' :: normalizeBreaks rest
  | c :: rest => (if c == '\r' || c.toNat == 0x85 then '\n' else c) :: normalizeBreaks rest
  | [] => []

/-- The rest of a text, the number of characters before it, and its line and column. -/
structure Cursor where
  rest : List Char
  index : Nat
  line : Nat
  column : Nat

namespace Cursor

/-- The start of a text. -/
def start (text : List Char) : Cursor :=
  ⟨text, 0, 0, 0⟩

/-- The next character. -/
def next? (cursor : Cursor) : Option Char :=
  cursor.rest.head?

/-- Whether the next character has a property. -/
def nextIs (p : Char → Bool) (cursor : Cursor) : Bool :=
  cursor.next?.any p

/-- The place after the next character. -/
def advance (cursor : Cursor) : Cursor :=
  match cursor.rest with
  | [] => cursor
  | c :: rest =>
    if isBreak c then ⟨rest, cursor.index + 1, cursor.line + 1, 0⟩
    else ⟨rest, cursor.index + 1, cursor.line, cursor.column + 1⟩

/-- The place after a number of characters. -/
def skip : Nat → Cursor → Cursor
  | 0, cursor => cursor
  | count + 1, cursor => skip count cursor.advance

/-- Reads characters as long as they have a property. -/
def readWhile (p : Char → Bool) (cursor : Cursor) : List Char × Cursor :=
  let run := cursor.rest.takeWhile p
  (run, cursor.skip run.length)

/-- Skips characters as long as they have a property. -/
def skipWhile (p : Char → Bool) (cursor : Cursor) : Cursor :=
  (cursor.readWhile p).2

/-- Whether a gap or the end follows the next `count` characters. -/
def gapAfter (count : Nat) (cursor : Cursor) : Bool :=
  match cursor.rest.drop count with
  | [] => true
  | c :: _ => isGap c

/-- Whether the text is at an end or a line end. -/
def atLineEnd (cursor : Cursor) : Bool :=
  match cursor.rest with
  | [] => true
  | c :: _ => isBreak c

/-- Whether the line is one that ends or starts a document. -/
def atMarker (cursor : Cursor) : Bool :=
  cursor.column == 0 &&
    (cursor.rest.take 3 == ['-', '-', '-'] || cursor.rest.take 3 == ['.', '.', '.']) &&
    cursor.gapAfter 3

/-- Skips blanks and a comment; the line must end there, and its end is skipped as well. -/
def skipLineEnd? (cursor : Cursor) : Option Cursor :=
  let cursor := cursor.skipWhile isSpaceOrTab
  let cursor := if cursor.nextIs (· == '#') then cursor.skipWhile (!isBreak ·) else cursor
  if cursor.atLineEnd then some cursor.advance else none

end Cursor

end SchemaBundle.Yaml
