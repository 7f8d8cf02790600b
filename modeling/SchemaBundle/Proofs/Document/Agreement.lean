import SchemaBundle.Proofs.Document.Definitions
import SchemaBundle.Proofs.Document.SelfContained

/-!
# Schema documents of bundled documents

There are two ways from a bundle to a schema document: straight from its entries, or through a
document that the bundle was put into, from which the schemas are read off again under a dotted
path. Both give the same schema document, for any document with any components.

* `JsonSchema.ofDocument_bundled`: the two ways agree
-/

namespace SchemaBundle

open Json (Value)

/-- A dictionary is that of its own entries. -/
theorem Dict.ofPairs_toList {α : Type} (dict : Dict α) : Dict.ofPairs dict.toList = dict := by
  obtain ⟨entries, hnodup⟩ := dict
  simp only [Dict.ofPairs, Dict.toList, Entries.ofPairs_of_nodup hnodup]

namespace JsonSchema

variable {id : String} {document result : Value} {bundle : Bundle} {schemes : Option Value}

/-- The schemas of a document are looked up under `components`, then `schemas`. -/
theorem ofDocument_of_getPath? {schemas : Entries Value}
    (h : document.getPath? ["components", "schemas"] = some (.object schemas)) :
    ofDocument id document = .ok (ofBundle id (Dict.ofPairs schemas)) := by
  have hpath : (Value.splitAt '.' "components.schemas".toList).map String.ofList =
      ["components", "schemas"] := by decide
  unfold ofDocument Value.getDotted?
  rw [hpath, h]

/--
Where a bundle can be put into a document, the document that results has the schema document of
the bundle: a definition for each schema under its name, in the order of the bundle, with its
references rewritten. What components and schemas the document had does not matter, nor whether it
gets security schemes.
-/
theorem ofDocument_bundled (h : Document.bundled document bundle schemes = .ok result)
    (id : String) :
    ∃ schema, ofDocument id result = .ok schema ∧ schema = ofBundle id bundle ∧
      schema.definitions.keys = bundle.keys ∧
      ∀ key, schema.definitions.find? key =
        (bundle.find? key).map Value.rewriteReferences := by
  have hread : ofDocument id result = .ok (ofBundle id (Dict.ofPairs bundle.toList)) :=
    ofDocument_of_getPath? (Document.getPath?_bundled h)
  rw [Dict.ofPairs_toList] at hread
  exact ⟨ofBundle id bundle, hread, rfl, keys_definitions_ofBundle id bundle,
    fun key => Entries.find?_mapValues Value.rewriteReferences key bundle.entries⟩

/-- Pets refer to owners, which come after them. -/
def ownedPets : Bundle :=
  .ofPairs [
    ("Pet", .object [("properties", .object [
      ("owner", .object [("$ref", .string "#/components/schemas/Owner")])])]),
    ("Owner", .object [("type", .string "string")])]

/-- A document with schemas of its own, one of them under the name of another one. -/
def storeDocument : Value :=
  .object [("components", .object [
    ("schemas", .object [("Owner", .null), ("Store", .object [])]),
    ("responses", .object [])])]

theorem ofDocument_bundled_pets :
    ∃ result schema, Document.bundled storeDocument ownedPets (some (.object [])) = .ok result ∧
      ofDocument "pets" result = .ok schema ∧ schema = ofBundle "pets" ownedPets ∧
      schema.definitions.keys = ["Pet", "Owner"] := by
  have hbundled : Document.bundled storeDocument ownedPets (some (.object [])) =
      .ok (.object [("components", .object [
        ("schemas", ownedPets.toValue), ("responses", .object []),
        ("securitySchemes", .object [])])]) := by
    decide +kernel
  obtain ⟨schema, hread, heq, hkeys, -⟩ := ofDocument_bundled hbundled "pets"
  exact ⟨_, schema, hbundled, hread, heq, hkeys.trans (by decide +kernel)⟩

end JsonSchema

end SchemaBundle
