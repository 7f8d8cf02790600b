import SchemaBundle.Document.Bundled
import SchemaBundle.Proofs.Resolution.Closure
import SchemaBundle.Proofs.Yaml.SourceText

/-!
# Documents that have the schemas they need

A bundled document has the schemas that its source names between quotation marks, and all that
those refer to. It lacks a schema only if the pointer to it is written in a way that the search in
the source does not see, or stands in the security schemes, in which nothing is searched for.

* `Document.schemas_bundled`: a defined schema that a bundled document refers to is there, with
  these exceptions
* `Document.not_isSelfContained`: the exceptions occur
-/

namespace SchemaBundle

open Json (Value)

namespace Document

variable {document result : Value} {bundle : Bundle} {schemes : Option Value}

/-- The names of the schemas among the components of a document. -/
def schemaNames (document : Value) : List String :=
  match document.getPath? ["components", "schemas"] with
  | some (.object schemas) => Entries.keys schemas
  | _ => []

/-- A document has the schemas that it refers to, as far as a registry defines them. -/
def IsSelfContained (registry : Registry) (document : Value) : Prop :=
  ∀ name ∈ referencedNames document, registry.defines name = true → name ∈ schemaNames document

instance (registry : Registry) (document : Value) : Decidable (IsSelfContained registry document) :=
  inferInstanceAs (Decidable (∀ name ∈ referencedNames document, _ → _))

/-! ## What a bundled document consists of -/

theorem exists_root_of_bundled (h : bundled document bundle schemes = .ok result) :
    ∃ root components, document = .object root ∧ componentsOf root = .ok components ∧
      result = .object
        (Entries.insert "components" (.object (withSchemas bundle schemes components)) root) := by
  unfold bundled at h
  split at h
  · next root =>
    cases hcomponents : componentsOf root with
    | error e =>
      rw [hcomponents] at h
      cases h
    | ok components =>
      rw [hcomponents] at h
      cases h
      exact ⟨root, components, rfl, hcomponents, rfl⟩
  · cases h

theorem find?_withSchemas (bundle : Bundle) (schemes : Option Value)
    (components : Entries Value) :
    Entries.find? "schemas" (withSchemas bundle schemes components) = some bundle.toValue := by
  unfold withSchemas
  cases schemes with
  | none => exact Entries.find?_insert_self _ _ _
  | some schemes =>
    show Entries.find? "schemas" (Entries.insert "securitySchemes" _ _) = _
    rw [Entries.find?_insert_of_ne (by decide), Entries.find?_insert_self]

/-- Under the components of a bundled document stands the bundle, whatever stood there before. -/
theorem getPath?_bundled (h : bundled document bundle schemes = .ok result) :
    result.getPath? ["components", "schemas"] = some bundle.toValue := by
  obtain ⟨root, components, -, -, rfl⟩ := exists_root_of_bundled h
  show (Entries.find? "components" _).bind (fun value => (Value.get? "schemas" value).bind some) = _
  rw [Entries.find?_insert_self]
  show (Entries.find? "schemas" _).bind some = _
  rw [find?_withSchemas]
  rfl

/-- The schemas of a bundled document are those of the bundle. -/
theorem schemaNames_bundled (h : bundled document bundle schemes = .ok result) :
    schemaNames result = bundle.keys := by
  rw [schemaNames, getPath?_bundled h]
  rfl

theorem mem_strings_insert {key text : String} {value : Value} {entries : Entries Value}
    (h : text ∈ Value.stringsOfEntries (Entries.insert key value entries)) :
    text ∈ value.strings ∨ text ∈ Value.stringsOfEntries entries := by
  rw [Value.stringsOfEntries_eq_flatMap, List.mem_flatMap] at h
  obtain ⟨inner, hinner, htext⟩ := h
  obtain ⟨entry, he, rfl⟩ := List.mem_map.mp hinner
  rcases Entries.mem_insert he with rfl | he
  · exact Or.inl htext
  · exact Or.inr (Value.strings_subset_of_mem_entries he htext)

theorem mem_strings_componentsOf {root components : Entries Value}
    (h : componentsOf root = .ok components) {text : String}
    (ht : text ∈ Value.stringsOfEntries components) : text ∈ Value.stringsOfEntries root := by
  unfold componentsOf at h
  split at h
  · cases h
    cases ht
  · cases h
    cases ht
  · next found hfound =>
    cases h
    exact Value.strings_subset_of_mem_entries (Entries.mem_of_find? hfound) ht
  · cases h

/-- A string of a bundled document stood in it before, or in the bundle or the security schemes. -/
theorem mem_strings_bundled (h : bundled document bundle schemes = .ok result) {text : String}
    (ht : text ∈ result.strings) :
    text ∈ document.strings ∨ text ∈ bundle.toValue.strings ∨
      ∃ value, schemes = some value ∧ text ∈ value.strings := by
  obtain ⟨root, components, rfl, hcomponents, rfl⟩ := exists_root_of_bundled h
  rcases mem_strings_insert ht with ht | ht
  · have hinner : text ∈ Value.stringsOfEntries (Entries.insert "schemas" bundle.toValue
        components) ∨ ∃ value, schemes = some value ∧ text ∈ value.strings := by
      cases schemes with
      | none => exact Or.inl ht
      | some value =>
        rcases mem_strings_insert ht with ht | ht
        · exact Or.inr ⟨value, rfl, ht⟩
        · exact Or.inl ht
    rcases hinner with ht | hschemes
    · rcases mem_strings_insert ht with ht | ht
      · exact Or.inr (Or.inl ht)
      · exact Or.inl (mem_strings_componentsOf hcomponents ht)
    · exact Or.inr (Or.inr hschemes)
  · exact Or.inl ht

/-! ## What a bundled document lacks -/

/--
The schemas of a bundled document are those that its source leads to. A defined schema that the
document refers to is among them, unless the security schemes refer to it or the source writes the
pointer to it as a block or with a backslash.
-/
theorem schemas_bundled {registry : Registry} {source : String}
    (hparse : Yaml.parse source = .ok document)
    (hbundled : bundled document (registry.resolve source).bundle schemes = .ok result) :
    (∀ name, name ∈ schemaNames result ↔
      registry.Reaches ((SchemaRef.scan source).map SchemaRef.name) name ∧
        registry.defines name = true) ∧
      ∀ name ∈ referencedNames result, registry.defines name = true →
        name ∈ schemaNames result ∨
          (∃ value, schemes = some value ∧ name ∈ referencedNames value) ∨
          Yaml.WritesOtherwise source (schemasPointer ++ name) := by
  have hkeys := schemaNames_bundled hbundled
  have hclosure : ∀ name, name ∈ schemaNames result ↔
      registry.Reaches ((SchemaRef.scan source).map SchemaRef.name) name ∧
        registry.defines name = true := by
    intro name
    rw [hkeys]
    exact Registry.mem_keys_resolveNames
  refine ⟨hclosure, ?_⟩
  intro name hname hdefined
  obtain ⟨ref, rfl, hpointer⟩ := mem_referencedNames_iff.mp hname
  -- the pointer stands in the document as it was read, in the bundle or in the security schemes
  rcases mem_strings_bundled hbundled hpointer with hdocument | hbundle | ⟨value, rfl, hvalue⟩
  · rcases Yaml.mem_scan_of_parse hparse hdocument with hscan | hother
    · exact Or.inl ((hclosure _).mpr ⟨.start (List.mem_map.mpr ⟨ref, hscan, rfl⟩), hdefined⟩)
    · exact Or.inr (Or.inr hother)
  · left
    change ref.pointer ∈ Value.stringsOfEntries _ at hbundle
    rw [Value.stringsOfEntries_eq_flatMap, List.mem_flatMap] at hbundle
    obtain ⟨schema, hschema, hpointer⟩ := hbundle
    obtain ⟨⟨key, _⟩, hentry, rfl⟩ := List.mem_map.mp hschema
    have hfind := Entries.find?_of_mem (registry.resolve source).bundle.nodup hentry
    rw [hkeys]
    exact Registry.mem_keys_of_mem_referencedNames hfind
      (mem_referencedNames_iff.mpr ⟨ref, rfl, hpointer⟩) hdefined
  · exact Or.inr (Or.inl ⟨value, rfl, mem_referencedNames_iff.mpr ⟨ref, rfl, hvalue⟩⟩)

/-- A schema, and security schemes that refer to it. -/
def keyedPets : Registry where
  schemas := .ofPairs [("Pet", .object [("type", .string "string")])]
  securitySchemes :=
    some (.object [("key", .object [("x-error", .string "#/components/schemas/Pet")])])

theorem schemas_bundled_pets :
    ∃ document result, Yaml.parse "a: '#/components/schemas/Pet'\n" = .ok document ∧
      bundled document (keyedPets.resolve "a: '#/components/schemas/Pet'\n").bundle
        keyedPets.securitySchemes = .ok result ∧
      ∀ name ∈ referencedNames result, keyedPets.defines name = true →
        name ∈ schemaNames result ∨
          (∃ value, keyedPets.securitySchemes = some value ∧ name ∈ referencedNames value) ∨
          Yaml.WritesOtherwise "a: '#/components/schemas/Pet'\n" (schemasPointer ++ name) := by
  have hparse : Yaml.parse "a: '#/components/schemas/Pet'\n" =
      .ok (.object [("a", .string "#/components/schemas/Pet")]) := by
    decide +kernel
  have hbundled : bundled (.object [("a", .string "#/components/schemas/Pet")])
      (keyedPets.resolve "a: '#/components/schemas/Pet'\n").bundle keyedPets.securitySchemes =
        .ok (.object [("a", .string "#/components/schemas/Pet"), ("components", .object [
          ("schemas", .object [("Pet", .object [("type", .string "string")])]),
          ("securitySchemes",
            .object [("key", .object [("x-error", .string "#/components/schemas/Pet")])])])]) := by
    decide +kernel
  exact ⟨_, _, hparse, hbundled, (schemas_bundled hparse hbundled).2⟩

/-! ## The exceptions -/

/-- A document that refers to a schema and has none. -/
def petless : Value :=
  .object [("a", .string "#/components/schemas/Pet"),
    ("components", .object [("schemas", .object [])])]

/-- A document whose security schemes refer to a schema, and that has none. -/
def keyedPetless : Value :=
  .object [("openapi", .string "3.0.0"), ("components", .object [("schemas", .object []),
    ("securitySchemes",
      .object [("key", .object [("x-error", .string "#/components/schemas/Pet")])])])]

/-- A schema is missing where the pointer to it is written with a backslash or as a block of either
kind, and where only the security schemes refer to it. -/
theorem not_isSelfContained :
    (∀ source ∈ ["a: \"#\\/components\\/schemas\\/Pet\"\n",
        "a: |-\n  #/components/schemas/Pet\n", "a: >-\n  #/components/schemas/Pet\n"],
      ∃ document, Yaml.parse source = .ok document ∧
        bundled document (keyedPets.resolve source).bundle none = .ok petless ∧
        ¬ IsSelfContained keyedPets petless) ∧
      ∃ document, Yaml.parse "openapi: 3.0.0\n" = .ok document ∧
        bundled document (keyedPets.resolve "openapi: 3.0.0\n").bundle
          keyedPets.securitySchemes = .ok keyedPetless ∧
        ¬ IsSelfContained keyedPets keyedPetless := by
  have hwritten : ∀ source ∈ ["a: \"#\\/components\\/schemas\\/Pet\"\n",
      "a: |-\n  #/components/schemas/Pet\n", "a: >-\n  #/components/schemas/Pet\n"],
      Yaml.parse source = .ok (.object [("a", .string "#/components/schemas/Pet")]) ∧
        bundled (.object [("a", .string "#/components/schemas/Pet")])
          (keyedPets.resolve source).bundle none = .ok petless := by
    decide +kernel
  have hkeyed : Yaml.parse "openapi: 3.0.0\n" = .ok (.object [("openapi", .string "3.0.0")]) ∧
      bundled (.object [("openapi", .string "3.0.0")])
        (keyedPets.resolve "openapi: 3.0.0\n").bundle keyedPets.securitySchemes =
          .ok keyedPetless := by
    decide +kernel
  refine ⟨fun source hsource => ?_, _, hkeyed.1, hkeyed.2, by decide +kernel⟩
  obtain ⟨hparse, hbundled⟩ := hwritten source hsource
  exact ⟨_, hparse, hbundled, by decide +kernel⟩

end Document

end SchemaBundle
