/-!
# Places in a document

A place is the chain of keys and indexes that leads to a value from the root. Where no key is
known, because the key itself could not be read or the object broke off before one, the chain
has a gap.
-/

namespace SchemaBundle.Json

/-- One step from a value to a value inside it. -/
inductive Step where
  | key (name : String)
  | index (position : Nat)
  | unknown
deriving DecidableEq, Repr

/-- The steps from the root to a value. -/
abbrev Location := List Step

namespace Step

/-- The text of one step. -/
def text : Step → String
  | .key name => name
  | .index position => "[" ++ toString position ++ "]"
  | .unknown => "?"

/-- An index follows what precedes it directly, any other step follows a dot. -/
def separator : Step → String
  | .index _ => ""
  | .key _ | .unknown => "."

end Step

/-- The text of a place; the root is a lone dot. -/
def Location.text : Location → String
  | [] => "."
  | first :: rest => rest.foldl (fun text step => text ++ step.separator ++ step.text) first.text

/-- Whether a place names no key and no index at all. -/
def Location.isUnnamed (location : Location) : Bool :=
  location.all fun step => step == .unknown

end SchemaBundle.Json
