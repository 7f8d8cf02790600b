import SchemaBundle.Yaml.Cursor
import SchemaBundle.Yaml.Token

/-!
# Anchors, tags and directives

What stands before a node or a document and is not part of its content.
-/

namespace SchemaBundle.Yaml

/-! ## Anchors -/

/-- Reads the name of an anchor or an alias after its mark. -/
def anchorName? (cursor : Cursor) : Option (String × Cursor) :=
  let (name, after) := cursor.advance.readWhile isWordChar
  let ends := after.next?.all fun c =>
    isGap c || c ∈ ['?', ':', ',', ']', '\x7d', '%', '@', Char.ofNat 0x60]
  if name.isEmpty ∨ ¬ ends then none else some (String.ofList name, after)

/-! ## Tags -/

/-- Reads the mark of a tag, letters and perhaps a second mark. -/
def tagHandle? (cursor : Cursor) : Option (List Char × Cursor) :=
  if cursor.nextIs (· == '!') then
    let (name, after) := cursor.advance.readWhile isWordChar
    if after.nextIs (· == '!') then some ('!' :: name ++ ['!'], after.advance)
    else some ('!' :: name, after)
  else none

/-- The characters of a tag's text; some only stand between angle brackets. -/
def isTagChar (bracketed : Bool) (c : Char) : Bool :=
  isWordChar c ||
    c ∈ [';', '/', '?', ':', '@', '&', '=', '+', '$', '.', '%', '!', '~', '*', '\'', '(', ')'] ||
    (bracketed && c ∈ [',', '[', ']'])

/-- A byte written as a percent sign and two hexadecimal digits. -/
def percentByte? : List Char → Option (Nat × List Char)
  | '%' :: a :: b :: rest =>
    match hexValue? a, hexValue? b with
    | some a, some b => some (a * 16 + b, rest)
    | _, _ => none
  | _ => none

/-- How many bytes a character takes, told by the first, and what the first contributes. -/
def leadByte? (byte : Nat) : Option (Nat × Nat) :=
  if byte < 0x80 then some (1, byte)
  else if byte / 32 = 6 then some (2, byte % 32)
  else if byte / 16 = 14 then some (3, byte % 16)
  else if byte / 8 = 30 then some (4, byte % 8)
  else none

/-- Reads the bytes of a character after the first. -/
def trailBytes? : Nat → Nat → List Char → Option (Nat × List Char)
  | 0, value, text => some (value, text)
  | count + 1, value, text =>
    (percentByte? text).bind fun (byte, rest) =>
      if byte / 64 = 2 then trailBytes? count (value * 64 + byte % 64) rest else none

/-- Reads a character written in bytes. -/
def percentChar? (text : List Char) : Option (Char × List Char) :=
  (percentByte? text).bind fun (byte, rest) =>
    (leadByte? byte).bind fun (count, value) =>
      (trailBytes? (count - 1) value rest).map fun (value, rest) => (Char.ofNat value, rest)

/-- Reads the text of a tag: its characters and how many were read. -/
def tagChars? (bracketed : Bool) : Nat → List Char → Option (List Char × Nat)
  | 0, _ | _, [] => some ([], 0)
  | bound + 1, c :: rest =>
    if c = '%' then
      (percentChar? (c :: rest)).bind fun (d, after) =>
        (tagChars? bracketed bound after).map fun (text, count) =>
          (d :: text, count + (rest.length + 1 - after.length))
    else if isTagChar bracketed c then
      (tagChars? bracketed bound rest).map fun (text, count) => (c :: text, count + 1)
    else some ([], 0)

/-- Reads the text of a tag at a place. -/
def tagText? (bound : Nat) (bracketed : Bool) (cursor : Cursor) :
    Option (List Char × Cursor) :=
  (tagChars? bracketed bound cursor.rest).map fun (text, count) =>
    (text, cursor.skip count)

/-- Reads a tag without looking at what follows it. -/
def tagBody? (bound : Nat) (cursor : Cursor) : Option (TagText × Cursor) :=
  if cursor.rest.take 2 = ['!', '<'] then
    (tagText? bound true (cursor.skip 2)).bind fun (suffix, after) =>
      if suffix.isEmpty ∨ ¬ after.nextIs (· == '>') then none
      else some (⟨"", String.ofList suffix⟩, after.advance)
  else
    (tagHandle? cursor).bind fun (handle, after) =>
      (tagText? bound false after).bind fun (suffix, after) =>
        if 1 < handle.length ∧ handle.getLast? = some '!' then
          if suffix.isEmpty then none
          else some (⟨String.ofList handle, String.ofList suffix⟩, after)
        else
          let suffix := handle.tail ++ suffix
          if suffix.isEmpty then some (⟨"", "!"⟩, after)
          else some (⟨"!", String.ofList suffix⟩, after)

/-- Reads a tag; a gap must follow, or a comma inside a flow collection. -/
def tag? (bound : Nat) (inFlow : Bool) (cursor : Cursor) : Option (TagText × Cursor) :=
  (tagBody? bound cursor).bind fun (tag, after) =>
    if after.gapAfter 0 ∨ (inFlow ∧ after.nextIs (· == ',')) then some (tag, after) else none

/-! ## Directives -/

/-- Reads a number of at most nine digits. -/
def versionNumber? (cursor : Cursor) : Option (Nat × Cursor) :=
  let (digits, after) := cursor.readWhile Char.isDigit
  if digits.isEmpty ∨ 9 < digits.length then none
  else some (digits.foldl (fun n c => n * 10 + (c.toNat - '0'.toNat)) 0, after)

/-- Reads the version that a document is written in. -/
def version? (cursor : Cursor) : Option (Token × Cursor) :=
  (versionNumber? (cursor.skipWhile isSpaceOrTab)).bind fun (major, after) =>
    if after.nextIs (· == '.') then
      (versionNumber? after.advance).map fun (minor, after) =>
        (.versionDirective major minor, after)
    else none

/-- Reads a handle and what it stands for. -/
def tagDefinition? (bound : Nat) (cursor : Cursor) : Option (Token × Cursor) :=
  (tagHandle? (cursor.skipWhile isSpaceOrTab)).bind fun (handle, after) =>
    if handle ≠ ['!'] ∧ (handle.length = 1 ∨ handle.getLast? ≠ some '!') then none
    else if ¬ after.nextIs isSpaceOrTab then none
    else
      (tagText? bound true (after.skipWhile isSpaceOrTab)).bind fun (expansion, after) =>
        if expansion.isEmpty ∨ ¬ after.gapAfter 0 then none
        else some (.tagDirective (String.ofList handle) (String.ofList expansion), after)

/-- Reads a directive and the rest of its line. -/
def directive? (bound : Nat) (cursor : Cursor) : Option (Token × Cursor) :=
  let (name, after) := cursor.advance.readWhile isWordChar
  if name.isEmpty ∨ ¬ after.gapAfter 0 then none
  else
    let body :=
      if name = "YAML".toList then version? after
      else if name = "TAG".toList then tagDefinition? bound after
      else none
    body.bind fun (token, after) => after.skipLineEnd?.map fun after => (token, after)

end SchemaBundle.Yaml
