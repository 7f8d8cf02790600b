import SchemaBundle.Document.Bundled
import SchemaBundle.Json.Printer
import SchemaBundle.Reference.Rewriting

/-!
# Schema documents

The schemas of a bundle as the definitions of a JSON Schema document of their own. Every pointer
in them to a schema becomes a pointer to the definition of that name.
-/

namespace SchemaBundle

open Json (Value)

/-- A schema document: its name, and its definitions in order. -/
structure JsonSchema where
  id : String
  definitions : Dict Value
deriving DecidableEq

namespace JsonSchema

/-- The schema document of a bundle. -/
def ofBundle (id : String) (bundle : Bundle) : JsonSchema :=
  ⟨id, bundle.mapValues Value.rewriteReferences⟩

/-- The schema document of the schemas in a document's components. -/
def ofDocument (id : String) (document : Value) : Except DocumentError JsonSchema :=
  match document.getDotted? "components.schemas" with
  | some (.object schemas) => .ok (ofBundle id (Dict.ofPairs schemas))
  | _ => .error .missingSchemas

/-- The document as a value. -/
def toValue (document : JsonSchema) : Value :=
  .object [("$id", .string document.id), ("definitions", document.definitions.toValue)]

/-- The text of the document. -/
def text (document : JsonSchema) : String :=
  document.toValue.pretty

end JsonSchema

end SchemaBundle
