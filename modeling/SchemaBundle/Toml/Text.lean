/-!
# Texts of TOML

A text stands between quotation marks, one or three on either side. Between double ones a
backslash starts an escape, between single ones nothing is special. A text between three marks
may have several lines; a line end right after the first marks is not part of it.
-/

namespace SchemaBundle.Toml

/-- Characters that may stand in a text or a comment. -/
def isPlain (c : Char) : Bool :=
  c == '\t' || (0x20 ≤ c.toNat && c.toNat ≠ 0x7F)

/-- The value of a hexadecimal digit. -/
def hexValue? (c : Char) : Option Nat :=
  if c.isDigit then some (c.toNat - '0'.toNat)
  else if 'a' ≤ c ∧ c ≤ 'f' then some (c.toNat - 'a'.toNat + 10)
  else if 'A' ≤ c ∧ c ≤ 'F' then some (c.toNat - 'A'.toNat + 10)
  else none

/-- A character written with a number of hexadecimal digits, and what follows. -/
def hexChar? (count : Nat) (text : List Char) : Option (Char × List Char) :=
  let digits := text.take count
  if digits.length < count then none
  else
    (digits.foldlM (fun n c => (hexValue? c).map (n * 16 + ·)) 0).bind fun n =>
      if n.isValidChar then some (Char.ofNat n, text.drop count) else none

/-- Reads an escape after its backslash. -/
def escape? : List Char → Option (Char × List Char)
  | 'b' :: rest => some (Char.ofNat 0x08, rest)
  | 't' :: rest => some ('\t', rest)
  | 'n' :: rest => some ('\n', rest)
  | 'f' :: rest => some (Char.ofNat 0x0C, rest)
  | 'r' :: rest => some ('\r', rest)
  | 'e' :: rest => some (Char.ofNat 0x1B, rest)
  | '"' :: rest => some ('"', rest)
  | '\\' :: rest => some ('\\', rest)
  | 'x' :: rest => hexChar? 2 rest
  | 'u' :: rest => hexChar? 4 rest
  | 'U' :: rest => hexChar? 8 rest
  | _ => none

/-- Takes a line end off a text. -/
def newline? : List Char → Option (List Char)
  | '\n' :: rest => some rest
  | '\r' :: '\n' :: rest => some rest
  | _ => none

/-- The blanks of one line. -/
def isBlank (c : Char) : Bool :=
  c == ' ' || c == '\t'

/-- Skips the blanks of one line. -/
def skipBlanks (text : List Char) : List Char :=
  text.dropWhile isBlank

/-- Skips blanks and line ends. -/
def skipLines : Nat → List Char → List Char
  | 0, text => text
  | bound + 1, text =>
    match newline? (skipBlanks text) with
    | some rest => skipLines bound rest
    | none => skipBlanks text

/-- Reads a text of one line after its first mark; `read` are its characters, last first. -/
def lineText? (escapes : Bool) (mark : Char) :
    Nat → List Char → List Char → Option (String × List Char)
  | 0, _, _ | _, _, [] => none
  | bound + 1, read, c :: rest =>
    if c = mark then some (String.ofList read.reverse, rest)
    else if escapes ∧ c = '\\' then
      (escape? rest).bind fun (d, rest) => lineText? escapes mark bound (d :: read) rest
    else if isPlain c then lineText? escapes mark bound (c :: read) rest
    else none

/-- The marks that stand in a row at the start of a text. -/
def marksAhead (mark : Char) (text : List Char) : Nat :=
  (text.takeWhile (· == mark)).length

/--
Reads a text of several lines after its first marks. Up to two marks may stand inside, also
right before the last three. A backslash at the end of a line joins the lines.
-/
def linesText? (escapes : Bool) (mark : Char) :
    Nat → List Char → List Char → Option (String × List Char)
  | 0, _, _ | _, _, [] => none
  | bound + 1, read, c :: rest =>
    if c = mark then
      let marks := marksAhead mark (c :: rest)
      if marks < 3 then linesText? escapes mark bound (c :: read) rest
      else if marks ≤ 5 then
        some (String.ofList ((List.replicate (marks - 3) mark ++ read).reverse),
          (c :: rest).drop marks)
      else none
    else if escapes ∧ c = '\\' then
      match newline? (skipBlanks rest) with
      | some after => linesText? escapes mark bound read (skipLines bound after)
      | none => (escape? rest).bind fun (d, rest) => linesText? escapes mark bound (d :: read) rest
    else
      match newline? (c :: rest) with
      | some after => linesText? escapes mark bound ('\n' :: read) after
      | none => if isPlain c then linesText? escapes mark bound (c :: read) rest else none

/-- Reads a quoted text. -/
def quoted? (bound : Nat) (text : List Char) : Option (String × List Char) :=
  match text with
  | [] => none
  | mark :: rest =>
    if mark ≠ '"' ∧ mark ≠ '\'' then none
    else if rest.take 2 = [mark, mark] then
      let body := rest.drop 2
      linesText? (mark == '"') mark bound [] ((newline? body).getD body)
    else lineText? (mark == '"') mark bound [] rest

/-- Reads a quoted key: a text of one line. -/
def quotedKey? (bound : Nat) (text : List Char) : Option (String × List Char) :=
  match text with
  | [] => none
  | mark :: rest =>
    if mark = '"' ∨ mark = '\'' then lineText? (mark == '"') mark bound [] rest else none

end SchemaBundle.Toml
