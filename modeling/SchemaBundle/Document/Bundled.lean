import SchemaBundle.Resolution
import SchemaBundle.Yaml.Writer

/-!
# Bundled documents

A document that carries the schemas it needs: a bundle takes the place of whatever schemas its
components had, and security schemes may take the place of those it had. Everything else of
the document stays as it is.
-/

namespace SchemaBundle

open Json (Value)

/-- Why a document cannot be bundled, or holds no schemas. -/
inductive DocumentError where
  | notAMapping
  | badComponents
  | missingSchemas
deriving DecidableEq, Repr

/-- The text of an error. -/
def DocumentError.message : DocumentError → String
  | .notAMapping => "API document must be a mapping"
  | .badComponents => "`components` must be a mapping"
  | .missingSchemas => "document must have a `components.schemas` mapping"

/-- A bundle as an object of schemas. -/
def Dict.toValue (bundle : Bundle) : Value :=
  .object bundle.toList

namespace Document

/-- The components of a document; none at all and null count as empty. -/
def componentsOf (root : Entries Value) : Except DocumentError (Entries Value) :=
  match Entries.find? "components" root with
  | none | some .null => .ok []
  | some (.object components) => .ok components
  | some _ => .error .badComponents

/-- Components with other schemas, and with other security schemes where any are given. -/
def withSchemas (bundle : Bundle) (schemes : Option Value) (components : Entries Value) :
    Entries Value :=
  let components := Entries.insert "schemas" bundle.toValue components
  match schemes with
  | none => components
  | some schemes => Entries.insert "securitySchemes" schemes components

/-- The document with the schemas of a bundle, and with security schemes where any are given. -/
def bundled (document : Value) (bundle : Bundle) (schemes : Option Value) :
    Except DocumentError Value :=
  match document with
  | .object root =>
    (componentsOf root).map fun components =>
      .object (Entries.insert "components" (.object (withSchemas bundle schemes components)) root)
  | _ => .error .notAMapping

end Document

end SchemaBundle
