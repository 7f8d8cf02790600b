import SchemaBundle.Toml.Scalar
import SchemaBundle.Toml.Text

/-!
# Reading TOML

A document is a list of statements, each on a line of its own: an entry, or the header of a
table, or of the next table of an array. Building the document keeps track of how each table
came about, since that decides what may be added to it: a table that only a longer header
mentions can still get its own header, one that a dotted key made can only get more dotted keys,
and a value written in place is finished.

The readers take a bound on the depth of their recursion. No more than two rounds pass between
one character and the next, so twice the number of characters is enough.
-/

namespace SchemaBundle.Toml

/-! ## Documents under construction -/

/-- How a table came about. -/
inductive Origin where
  | mentioned
  | dotted
  | header
deriving DecidableEq

/-- A part of a document that may still be added to. -/
inductive Node where
  | value (value : Value)
  | table (origin : Origin) (entries : List (String × Node))
  /-- An array of tables, last first. -/
  | tables (elements : List (List (String × Node)))

/-- Changes the table at the end of a path of keys; tables that are not there come about. -/
def changeAt (origin : Origin) (change : Entries Node → Option (Entries Node)) :
    List String → Entries Node → Option (Entries Node)
  | [], entries => change entries
  | key :: path, entries =>
    match Entries.find? key entries with
    | none =>
      (changeAt origin change path []).map fun inner =>
        Entries.insert key (.table origin inner) entries
    | some (.table before inner) =>
      if origin = .dotted ∧ before = .header then none
      else
        (changeAt origin change path inner).map fun inner =>
          Entries.insert key (.table before inner) entries
    | some (.tables (last :: before)) =>
      if origin = .dotted then none
      else
        (changeAt origin change path last).map fun last =>
          Entries.insert key (.tables (last :: before)) entries
    | some (.tables []) | some (.value _) => none

/-- Adds an entry. -/
def addEntry (path : List String) (key : String) (value : Node) (entries : Entries Node) :
    Option (Entries Node) :=
  changeAt .dotted (fun entries =>
    if (Entries.find? key entries).isSome then none else some (entries ++ [(key, value)]))
    path entries

/-- Starts a table. -/
def startTable (key : String) (entries : Entries Node) : Option (Entries Node) :=
  match Entries.find? key entries with
  | none => some (entries ++ [(key, .table .header [])])
  | some (.table .mentioned inner) => some (Entries.insert key (.table .header inner) entries)
  | some _ => none

/-- Starts the next table of an array. -/
def startElement (key : String) (entries : Entries Node) : Option (Entries Node) :=
  match Entries.find? key entries with
  | none => some (entries ++ [(key, .tables [[]])])
  | some (.tables elements) => some (Entries.insert key (.tables ([] :: elements)) entries)
  | some _ => none

mutual

/-- A finished part of a document. -/
def Node.finish : Node → Value
  | .value value => value
  | .table _ entries => .table (finishEntries entries)
  | .tables elements => .array (finishElements elements).reverse

/-- The finished entries of a table. -/
def finishEntries : List (String × Node) → List (String × Value)
  | [] => []
  | (key, node) :: rest => (key, node.finish) :: finishEntries rest

/-- The finished tables of an array. -/
def finishElements : List (List (String × Node)) → List Value
  | [] => []
  | entries :: rest => .table (finishEntries entries) :: finishElements rest

end

/-! ## Keys -/

/-- The characters of a key without quotes. -/
def isBareKeyChar (c : Char) : Bool :=
  c.isAlphanum || c == '_' || c == '-'

/-- Reads a key without dots. -/
def simpleKey? (bound : Nat) (text : List Char) : Option (String × List Char) :=
  match text.takeWhile isBareKeyChar with
  | [] => quotedKey? bound text
  | bare => some (String.ofList bare, text.dropWhile isBareKeyChar)

/-- Reads a key, with dots and blanks between its parts. -/
def dottedKey? : Nat → List Char → Option (List String × List Char)
  | 0, _ => none
  | bound + 1, text =>
    (simpleKey? bound text).bind fun (key, after) =>
      match skipBlanks after with
      | '.' :: rest =>
        (dottedKey? bound (skipBlanks rest)).map fun (keys, after) => (key :: keys, after)
      | _ => some ([key], after)

/-- The keys of a path apart from the last, and the last. -/
def splitLast : List String → Option (List String × String)
  | [] => none
  | [key] => some ([], key)
  | key :: rest => (splitLast rest).map fun (path, last) => (key :: path, last)

/-! ## Gaps -/

/-- Skips a comment. -/
def skipComment (text : List Char) : List Char :=
  match text with
  | '#' :: rest => rest.dropWhile isPlain
  | _ => text

/-- Skips blanks, comments and line ends inside a value. -/
def skipGap : Nat → List Char → List Char
  | 0, text => text
  | bound + 1, text =>
    let text := skipComment (skipBlanks text)
    match newline? text with
    | some rest => skipGap bound rest
    | none => text

/-- Reads the end of a line. -/
def lineEnd? (text : List Char) : Option (List Char) :=
  match skipComment (skipBlanks text) with
  | [] => some []
  | text => newline? text

/-! ## Values -/

/-- Characters that end a value without quotes. -/
def endsScalar (c : Char) : Bool :=
  c ∈ [' ', '\t', '\n', '\r', ',', ']', '\x7d', '#', '=', '"', '\'', '[', '\x7b']

/-- Reads a value without quotes. A blank may stand between a date and a time. -/
def bareScalar? (text : List Char) : Option (Value × List Char) :=
  let word := text.takeWhile (!endsScalar ·)
  let after := text.dropWhile (!endsScalar ·)
  match after with
  | ' ' :: rest =>
    if date? word = some [] ∧ rest.head?.any Char.isDigit then
      let time := rest.takeWhile (!endsScalar ·)
      (scalar? (word ++ ' ' :: time)).map fun value => (value, rest.dropWhile (!endsScalar ·))
    else (scalar? word).map fun value => (value, after)
  | _ => (scalar? word).map fun value => (value, after)

mutual

/-- Reads a value. -/
def value? : Nat → List Char → Option (Value × List Char)
  | 0, _ => none
  | bound + 1, text =>
    match text with
    | '"' :: _ | '\'' :: _ =>
      (quoted? bound text).map fun (text, after) => (.string text, after)
    | '[' :: rest => items? bound [] (skipGap bound rest)
    | '\x7b' :: rest => inlineEntries? bound [] (skipGap bound rest)
    | _ => bareScalar? text

/-- Reads the items of an array and its end; `read` are those before, last first. -/
def items? : Nat → List Value → List Char → Option (Value × List Char)
  | 0, _, _ => none
  | bound + 1, read, text =>
    match text with
    | ']' :: rest => some (.array read.reverse, rest)
    | _ =>
      (value? bound text).bind fun (item, after) =>
        match skipGap bound after with
        | ',' :: rest => items? bound (item :: read) (skipGap bound rest)
        | ']' :: rest => some (.array (item :: read).reverse, rest)
        | _ => none

/-- Reads the entries of a table written in place, and its end. -/
def inlineEntries? : Nat → Entries Node → List Char → Option (Value × List Char)
  | 0, _, _ => none
  | bound + 1, read, text =>
    match text with
    | '\x7d' :: rest => some (.table (finishEntries read), rest)
    | _ =>
      (keyValue? bound text).bind fun (path, key, value, after) =>
        (addEntry path key (.value value) read).bind fun read =>
          match skipGap bound after with
          | ',' :: rest => inlineEntries? bound read (skipGap bound rest)
          | '\x7d' :: rest => some (.table (finishEntries read), rest)
          | _ => none

/-- Reads a key, the equals sign and a value. -/
def keyValue? : Nat → List Char → Option (List String × String × Value × List Char)
  | 0, _ => none
  | bound + 1, text =>
    (dottedKey? bound text).bind fun (keys, after) =>
      match splitLast keys, skipBlanks after with
      | some (path, key), '=' :: rest =>
        (value? bound (skipBlanks rest)).map fun (value, after) => (path, key, value, after)
      | _, _ => none

end

/-! ## Documents -/

/-- A document under construction, and the path of the table that entries go to. -/
structure Draft where
  root : Entries Node
  path : List String

/-- Reads the key of a header up to its brackets. -/
def headerKey? (bound : Nat) (brackets : Nat) (text : List Char) :
    Option (List String × List Char) :=
  (dottedKey? bound (skipBlanks text)).bind fun (keys, after) =>
    let after := skipBlanks after
    if after.take brackets = List.replicate brackets ']' then some (keys, after.drop brackets)
    else none

/-- Reads a statement. -/
def statement? (bound : Nat) (draft : Draft) (text : List Char) : Option (Draft × List Char) :=
  match text with
  | '[' :: '[' :: rest =>
    (headerKey? bound 2 rest).bind fun (keys, after) =>
      (splitLast keys).bind fun (path, key) =>
        (changeAt .mentioned (startElement key) path draft.root).map fun root =>
          (⟨root, keys⟩, after)
  | '[' :: rest =>
    (headerKey? bound 1 rest).bind fun (keys, after) =>
      (splitLast keys).bind fun (path, key) =>
        (changeAt .mentioned (startTable key) path draft.root).map fun root =>
          (⟨root, keys⟩, after)
  | _ =>
    (keyValue? bound text).bind fun (path, key, value, after) =>
      (changeAt .mentioned (addEntry path key (.value value)) draft.path draft.root).map
        fun root => ({ draft with root }, after)

/-- Reads statements up to the end of the text. -/
def statements? : Nat → Draft → List Char → Option (Entries Node)
  | 0, _, _ => none
  | bound + 1, draft, text =>
    match skipGap (bound + 1) text with
    | [] => some draft.root
    | text =>
      (statement? bound draft text).bind fun (draft, after) =>
        (lineEnd? after).bind fun after => statements? bound draft after

/-- The entries of a text; nothing if it is not well formed. -/
def parse? (text : String) : Option (Entries Value) :=
  let chars :=
    match text.toList with
    | c :: rest => if c.toNat = 0xFEFF then rest else c :: rest
    | [] => []
  (statements? (2 * chars.length + 8) ⟨[], []⟩ chars).map finishEntries

end SchemaBundle.Toml
