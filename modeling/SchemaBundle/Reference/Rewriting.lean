import SchemaBundle.Json.Basic
import SchemaBundle.Reference.Basic

/-!
# Pointing references at definitions

In a schema document the schemas are its definitions, so every pointer to a schema becomes a
pointer to the definition of the same name. Nothing else of a value changes.
-/

namespace SchemaBundle

namespace Json.Value

mutual

/-- Applies a function to every string of a value; keys stay as they are. -/
def mapStrings (f : String → String) : Value → Value
  | .string text => .string (f text)
  | .array items => .array (mapStringsOfItems f items)
  | .object entries => .object (mapStringsOfEntries f entries)
  | .null => .null
  | .bool value => .bool value
  | .number value => .number value

/-- Applies a function to every string of a list of items. -/
def mapStringsOfItems (f : String → String) : List Value → List Value
  | [] => []
  | item :: rest => mapStrings f item :: mapStringsOfItems f rest

/-- Applies a function to every string in the values of a list of entries. -/
def mapStringsOfEntries (f : String → String) : List (String × Value) → List (String × Value)
  | [] => []
  | (key, value) :: rest => (key, mapStrings f value) :: mapStringsOfEntries f rest

end

/-- A pointer to a schema as a pointer to the definition; any other text as it is. -/
def pointAtDefinition (text : String) : String :=
  match SchemaRef.parse text with
  | .ok ref => ref.definitionPointer
  | .error _ => text

/-- Points every reference of a value at the definition of its name. -/
def rewriteReferences (value : Value) : Value :=
  value.mapStrings pointAtDefinition

end Json.Value

end SchemaBundle
