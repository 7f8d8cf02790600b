import SchemaBundle.Json.Location
import SchemaBundle.Json.Basic
import SchemaBundle.Yaml.Reader

/-!
# The registry of shared schemas

All schemas that documents may refer to, by name and in the order of the document that defines
them, and the security schemes defined beside them.
-/

namespace SchemaBundle

open Json (Value Location)

/-- Named schemas, and the security schemes that go with them, if there are any. -/
structure Registry where
  schemas : Dict Value
  securitySchemes : Option Value
deriving DecidableEq

/-- Why a text holds no registry. -/
inductive RegistryError where
  | missingSchemas
  | badSecuritySchemes
  | unreadable (location : Location)
deriving DecidableEq, Repr

/-- The text of an error. -/
def RegistryError.message : RegistryError → String
  | .missingSchemas => "shared definitions must have a `components.schemas` mapping"
  | .badSecuritySchemes => "`components.securitySchemes` must be a mapping"
  | .unreadable _ => "failed to parse shared definitions"

namespace Registry

/-- A registry of schemas alone. -/
def ofSchemas (schemas : List (String × Value)) : Registry :=
  ⟨Dict.ofPairs schemas, none⟩

/-- The security schemes of a document's components; null counts as none. -/
def securitySchemesOf (components : Value) : Except RegistryError (Option Value) :=
  match components.get? "securitySchemes" with
  | none | some .null => .ok none
  | some (.object schemes) => .ok (some (.object schemes))
  | some _ => .error .badSecuritySchemes

/-- The registry that a document defines in its `components`. -/
def ofDocument (document : Value) : Except RegistryError Registry :=
  match document.getPath? ["components", "schemas"] with
  | some (.object schemas) =>
    (securitySchemesOf ((document.get? "components").getD .null)).map fun schemes =>
      ⟨Dict.ofPairs schemas, schemes⟩
  | _ => .error .missingSchemas

/-- The registry that a text in YAML defines. -/
def ofYaml (text : String) : Except RegistryError Registry :=
  match Yaml.parse text with
  | .ok document => ofDocument document
  | .error location => .error (.unreadable location)

/-- The schema of a name. -/
def schema? (registry : Registry) (name : String) : Option Value :=
  registry.schemas.find? name

/-- The names of the schemas, in order. -/
def names (registry : Registry) : List String :=
  registry.schemas.keys

/-- The number of schemas. -/
def size (registry : Registry) : Nat :=
  registry.schemas.size

/-- Whether there are no schemas. -/
def isEmpty (registry : Registry) : Bool :=
  registry.schemas.isEmpty

end Registry

end SchemaBundle
