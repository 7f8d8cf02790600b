import SchemaBundle.Proofs.Document.Agreement
import SchemaBundle.Proofs.Resolution.Laws

/-!
# Schema documents of shared documents

The schemas of a shared document are read in two ways: a registry takes them out of the document's
components, where it also looks for security schemes, and a schema document reads them off under a
dotted path. Both readers miss the schemas of the same documents. Where there is a registry, the
schema document of the shared document is that of the bundle of all its names. Nested references
and names that are not defined are met on the way to that bundle, but every defined name stands in
the queue from the start, so the bundle keeps the order of the document.

* `Registry.ofDocument_eq_takenFrom`: reading the components and taking them apart is the same
* `Registry.bundle_resolveNames_names`: all names of a registry give all of its schemas, in order
* `JsonSchema.ofDocument_eq_ofBundle_resolveNames`: the two ways to a schema document agree
-/

namespace SchemaBundle

open Json (Value)

/-- Taking an entry out leaves the entries of other keys alone. -/
theorem Entries.find?_erase_of_ne {α : Type} {key other : String} (h : other ≠ key)
    (entries : Entries α) : find? other (erase key entries) = find? other entries := by
  induction entries with
  | nil => rfl
  | cons entry rest ih =>
    obtain ⟨k, v⟩ := entry
    simp only [erase] at ih ⊢
    by_cases hk : k = key
    · have hother : k ≠ other := by
        rintro rfl
        exact h hk
      rw [List.filter_cons_of_neg (by simp [hk]), ih, find?, if_neg hother]
    · rw [List.filter_cons_of_pos (by simp [hk]), find?, find?, ih]

namespace Registry

variable {registry : Registry} {document : Value}

/-! ## Two ways to read a registry -/

/-- The entries of a document's components, if it has any. -/
def componentsOf? (document : Value) : Option (Entries Value) :=
  (document.get? "components").bind Value.asObject?

/--
The registry that the components of a document give up: the schemas are taken out of them, and
the security schemes out of what is left.
-/
def takenFrom (document : Value) : Except RegistryError Registry :=
  match componentsOf? document with
  | none => .error .missingSchemas
  | some components =>
    match Entries.find? "schemas" components with
    | some (.object schemas) =>
      (securitySchemesOf (.object (Entries.erase "schemas" components))).map fun schemes =>
        ⟨Dict.ofPairs schemas, schemes⟩
    | _ => .error .missingSchemas

theorem get?_of_componentsOf? {components : Entries Value}
    (h : componentsOf? document = some components) :
    document.get? "components" = some (.object components) := by
  obtain ⟨found, hfound, hobject⟩ := Option.bind_eq_some_iff.mp h
  cases found with
  | object entries => rw [hfound, Option.some.inj hobject]
  | null => cases hobject
  | bool value => cases hobject
  | number value => cases hobject
  | string text => cases hobject
  | array items => cases hobject

/-- The path to the schemas leads through the components, which must be an object. -/
theorem getPath?_schemas (document : Value) :
    document.getPath? ["components", "schemas"] =
      (componentsOf? document).bind (Entries.find? "schemas") := by
  have hpath : document.getPath? ["components", "schemas"] =
      (document.get? "components").bind (Value.get? "schemas") := by
    cases hfound : document.get? "components" <;> simp [Value.getPath?, hfound]
  rw [hpath, componentsOf?, Option.bind_assoc]
  refine Option.bind_congr fun found _ => ?_
  cases found <;> rfl

/-- The schemas are not the security schemes, so taking them out first changes nothing. -/
theorem securitySchemesOf_erase_schemas (components : Entries Value) :
    securitySchemesOf (.object (Entries.erase "schemas" components)) =
      securitySchemesOf (.object components) := by
  have hne : "securitySchemes" ≠ "schemas" := by decide
  rw [securitySchemesOf, securitySchemesOf, Value.get?, Value.get?,
    Entries.find?_erase_of_ne hne]

/-- Reading a document's components and taking them apart give the same registry or error. -/
theorem ofDocument_eq_takenFrom (document : Value) : ofDocument document = takenFrom document := by
  rw [ofDocument, takenFrom, getPath?_schemas]
  cases hcomponents : componentsOf? document with
  | none => rfl
  | some components =>
    rw [get?_of_componentsOf? hcomponents, Option.getD_some]
    cases hfound : Entries.find? "schemas" components with
    | none => simp only [Option.bind_some, hfound]
    | some found =>
      cases found <;> simp only [Option.bind_some, hfound, securitySchemesOf_erase_schemas]

/-- A registry cannot be read for want of schemas just where there is no object at their path. -/
theorem ofDocument_eq_missingSchemas :
    ofDocument document = .error .missingSchemas ↔
      ∀ schemas, document.getPath? ["components", "schemas"] ≠ some (.object schemas) := by
  unfold ofDocument
  split
  · next schemas hpath =>
    refine iff_of_false ?_ fun h => h schemas hpath
    -- bad security schemes are an error of their own
    have hschemes : securitySchemesOf ((document.get? "components").getD .null) ≠
        .error .missingSchemas := by
      unfold securitySchemesOf
      split <;> simp
    cases hread : securitySchemesOf ((document.get? "components").getD .null) with
    | ok schemes => simp [Except.map]
    | error error =>
      intro h
      rw [Except.map] at h
      exact hschemes (hread.trans (congrArg Except.error (Except.error.inj h)))
  · next hpath => exact iff_of_true rfl fun schemas h => hpath schemas h

/-- The schemas of a registry stand at their path. -/
theorem getPath?_of_ofDocument (h : ofDocument document = .ok registry) :
    ∃ schemas, document.getPath? ["components", "schemas"] = some (.object schemas) ∧
      registry.schemas = Dict.ofPairs schemas := by
  unfold ofDocument at h
  split at h
  · next schemas hpath =>
    refine ⟨schemas, hpath, ?_⟩
    cases hread : securitySchemesOf ((document.get? "components").getD .null) with
    | ok schemes =>
      rw [hread, Except.map] at h
      rw [← Except.ok.inj h]
    | error error =>
      rw [hread, Except.map] at h
      cases h
  · cases h

/-! ## All names of a registry -/

theorem schemasOf_names (registry : Registry) :
    Worklist.schemasOf registry registry.names = registry.schemas.entries := by
  have hall : ∀ entries : Entries Value, entries ⊆ registry.schemas.entries →
      Worklist.schemasOf registry (Entries.keys entries) = entries := by
    intro entries hsub
    induction entries with
    | nil => rfl
    | cons entry rest ih =>
      obtain ⟨name, schema⟩ := entry
      rw [List.cons_subset] at hsub
      have hschema : registry.schema? name = some schema :=
        Entries.find?_of_mem registry.schemas.nodup hsub.1
      rw [Entries.keys_cons, Worklist.schemasOf, List.filterMap_cons_some (b := (name, schema))
        (by rw [hschema]; rfl)]
      exact congrArg _ (ih hsub.2)
  exact hall _ (List.Subset.refl _)

/-- Resolving all names of a registry gives all of its schemas, in their order. -/
theorem bundle_resolveNames_names (registry : Registry) :
    (registry.resolveNames registry.names).bundle = registry.schemas := by
  have hclosed : ∀ name, registry.Reaches registry.names name → registry.defines name = true →
      name ∈ registry.names :=
    fun name _ hdefined => Entries.find?_isSome.mp hdefined
  have hnodup : registry.names.Nodup := registry.schemas.nodup
  refine Dict.ext ?_
  rw [entries_resolveNames_of_closed hnodup hclosed, schemasOf_names]

end Registry

namespace JsonSchema

variable {id : String} {document : Value}

theorem exists_ofDocument_eq_error :
    (∃ error, ofDocument id document = .error error) ↔
      ∀ schemas, document.getPath? ["components", "schemas"] ≠ some (.object schemas) := by
  constructor
  · rintro ⟨error, herror⟩ schemas hpath
    rw [ofDocument_of_getPath? hpath] at herror
    cases herror
  · intro hpath
    refine ⟨.missingSchemas, ?_⟩
    unfold ofDocument Value.getDotted?
    split
    · next schemas hdotted => exact absurd hdotted (hpath schemas)
    · rfl

/--
A document has no schema document just where it has no registry for want of schemas. Where it has
a registry, its schema document is that of the bundle of all names of the registry: one definition
for each schema, in the order of the document.
-/
theorem ofDocument_eq_ofBundle_resolveNames (id : String) (document : Value) :
    ((∃ error, ofDocument id document = .error error) ↔
      Registry.ofDocument document = .error .missingSchemas) ∧
    ∀ registry, Registry.ofDocument document = .ok registry →
      ofDocument id document =
          .ok (ofBundle id (registry.resolveNames registry.names).bundle) ∧
        (ofBundle id (registry.resolveNames registry.names).bundle).definitions.keys =
          registry.names := by
  refine ⟨?_, fun registry hregistry => ⟨?_, ?_⟩⟩
  · rw [exists_ofDocument_eq_error, Registry.ofDocument_eq_missingSchemas]
  · obtain ⟨schemas, hpath, hschemas⟩ := Registry.getPath?_of_ofDocument hregistry
    rw [ofDocument_of_getPath? hpath, Registry.bundle_resolveNames_names, hschemas]
  · rw [keys_definitions_ofBundle, Registry.bundle_resolveNames_names, Registry.names]

/-- Visits refer to pets, pets and owners to each other, and owners to a vet that is not there. -/
def practiceDocument : Value :=
  .object [("components", .object [
    ("schemas", .object [
      ("Visit", .array [.string "#/components/schemas/Pet"]),
      ("Owner", .array [.string "#/components/schemas/Vet", .string "#/components/schemas/Pet"]),
      ("Pet", .array [.string "#/components/schemas/Owner"])]),
    ("securitySchemes", .null)])]

theorem ofDocument_eq_ofBundle_resolveNames_practice :
    ∃ registry, Registry.ofDocument practiceDocument = .ok registry ∧
      ofDocument "practice" practiceDocument =
        .ok (ofBundle "practice" (registry.resolveNames registry.names).bundle) ∧
      registry.names = ["Visit", "Owner", "Pet"] := by
  have hregistry : Registry.ofDocument practiceDocument = .ok (.ofSchemas [
      ("Visit", .array [.string "#/components/schemas/Pet"]),
      ("Owner", .array [.string "#/components/schemas/Vet", .string "#/components/schemas/Pet"]),
      ("Pet", .array [.string "#/components/schemas/Owner"])]) := by
    decide +kernel
  obtain ⟨-, hagree⟩ := ofDocument_eq_ofBundle_resolveNames "practice" practiceDocument
  exact ⟨_, hregistry, (hagree _ hregistry).1, by decide +kernel⟩

end JsonSchema

end SchemaBundle
