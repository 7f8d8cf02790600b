import SchemaBundle.Json.Basic
import SchemaBundle.Decimal.Shortest

/-!
# Writing JSON

Two layouts of one format: compact, without any blank, and pretty, with each item and entry on
a line of its own, indented by two blanks a level. In a string only the quotation mark, the
backslash and the control characters are escaped.
-/

namespace SchemaBundle.Json

open Decimal (FloatStyle)

/-- Doubles are written out up to sixteen places before the point and four zeros after it. -/
def floatStyle : FloatStyle :=
  ⟨-5, 16, "e+", "e-"⟩

/-- The text of a number. -/
def Number.text : Number → String
  | .integer value => toString value
  | .float value => floatStyle.text value

/-! ## Strings -/

/-- A hexadecimal digit, in small letters. -/
def hexDigit (n : Nat) : Char :=
  Nat.digitChar n

/-- A character as it stands in a string. -/
def escapeChar (c : Char) : List Char :=
  if c = '"' then ['\\', '"']
  else if c = '\\' then ['\\', '\\']
  else if c = '\n' then ['\\', 'n']
  else if c = '\r' then ['\\', 'r']
  else if c = '\t' then ['\\', 't']
  else if c.toNat = 0x8 then ['\\', 'b']
  else if c.toNat = 0xC then ['\\', 'f']
  else if c.toNat < 0x20 then
    ['\\', 'u', '0', '0', hexDigit (c.toNat / 16), hexDigit (c.toNat % 16)]
  else [c]

/-- A string between quotation marks. -/
def quote (text : String) : List Char :=
  '"' :: (text.toList.flatMap escapeChar ++ ['"'])

/-! ## Compact -/

namespace Value

mutual

/-- A value without blanks. -/
def compactChars : Value → List Char
  | .null => "null".toList
  | .bool value => (if value then "true" else "false").toList
  | .number value => value.text.toList
  | .string text => quote text
  | .array [] => ['[', ']']
  | .array (item :: rest) => '[' :: (compactChars item ++ compactItems rest)
  | .object [] => ['\x7b', '\x7d']
  | .object ((key, value) :: rest) =>
    '\x7b' :: (quote key ++ ':' :: (compactChars value ++ compactEntries rest))

/-- The items after the first, and the end of the array. -/
def compactItems : List Value → List Char
  | [] => [']']
  | item :: rest => ',' :: (compactChars item ++ compactItems rest)

/-- The entries after the first, and the end of the object. -/
def compactEntries : List (String × Value) → List Char
  | [] => ['\x7d']
  | (key, value) :: rest =>
    ',' :: (quote key ++ ':' :: (compactChars value ++ compactEntries rest))

end

/-- A value on one line, without blanks. -/
def compact (value : Value) : String :=
  String.ofList value.compactChars

/-! ## Pretty -/

/-- A new line, indented. -/
def newLine (depth : Nat) : List Char :=
  '\n' :: List.replicate (2 * depth) ' '

mutual

/-- A value at a depth of nesting, a line to each item and entry. -/
def prettyChars (depth : Nat) : Value → List Char
  | .null => "null".toList
  | .bool value => (if value then "true" else "false").toList
  | .number value => value.text.toList
  | .string text => quote text
  | .array [] => ['[', ']']
  | .array (item :: rest) =>
    '[' :: (newLine (depth + 1) ++ (prettyChars (depth + 1) item ++ prettyItems depth rest))
  | .object [] => ['\x7b', '\x7d']
  | .object ((key, value) :: rest) =>
    '\x7b' :: (newLine (depth + 1) ++ (quote key ++
      ':' :: ' ' :: (prettyChars (depth + 1) value ++ prettyEntries depth rest)))

/-- The items after the first, and the end of the array. -/
def prettyItems (depth : Nat) : List Value → List Char
  | [] => newLine depth ++ [']']
  | item :: rest =>
    ',' :: (newLine (depth + 1) ++ (prettyChars (depth + 1) item ++ prettyItems depth rest))

/-- The entries after the first, and the end of the object. -/
def prettyEntries (depth : Nat) : List (String × Value) → List Char
  | [] => newLine depth ++ ['\x7d']
  | (key, value) :: rest =>
    ',' :: (newLine (depth + 1) ++ (quote key ++
      ':' :: ' ' :: (prettyChars (depth + 1) value ++ prettyEntries depth rest)))

end

/-- A value with a line to each item and entry. -/
def pretty (value : Value) : String :=
  String.ofList (prettyChars 0 value)

end Value

end SchemaBundle.Json
