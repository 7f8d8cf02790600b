import SchemaBundle.Document.JsonSchema
import SchemaBundle.Proofs.Resolution.Closure
import SchemaBundle.Proofs.TypeScript.Failure

/-!
# References in schema documents

The schema document of a bundle has a definition for each schema, in which every pointer to a
schema points at the definition of its name. If the bundle was resolved strictly, that definition
is there, and the emission of types can miss only a name to which a schema pointed as a definition
before: such pointers are no references for resolving.

* `JsonSchema.definitions_of_strict`: strict bundles give documents without loose ends
-/

namespace SchemaBundle

open Json (Value)

namespace JsonSchema

variable {id : String} {bundle : Bundle} {key : String} {definition : Value}

theorem keys_definitions_ofBundle (id : String) (bundle : Bundle) :
    (ofBundle id bundle).definitions.keys = bundle.keys :=
  Entries.keys_mapValues _ _

/-- Each definition is a schema of the bundle with its references rewritten. -/
theorem find?_definitions_ofBundle :
    (ofBundle id bundle).definitions.find? key = some definition ↔
      ∃ schema, bundle.find? key = some schema ∧ definition = schema.rewriteReferences := by
  show Entries.find? key (Entries.mapValues Value.rewriteReferences bundle.entries) = _ ↔ _
  rw [Entries.find?_mapValues, Option.map_eq_some_iff]
  constructor
  · rintro ⟨schema, hs, hd⟩
    exact ⟨schema, hs, hd.symm⟩
  · rintro ⟨schema, hs, hd⟩
    exact ⟨schema, hs, hd.symm⟩

/-- A string of a definition that points at a definition did so before, or pointed at a schema. -/
theorem mem_strings_of_definitionPointer {schema : Value} {ref : SchemaRef}
    (h : ref.definitionPointer ∈ schema.rewriteReferences.strings) :
    ref.definitionPointer ∈ schema.strings ∨ ref.pointer ∈ schema.strings := by
  obtain ⟨path, hp⟩ := Value.mem_strings_iff.mp h
  rw [Value.stringAt?_rewriteReferences] at hp
  obtain ⟨text, ht, hpoint⟩ := Option.map_eq_some_iff.mp hp
  by_cases href : ∃ other : SchemaRef, text = other.pointer
  · obtain ⟨other, rfl⟩ := href
    rw [Value.pointAtDefinition_pointer] at hpoint
    have hname : other = ref := SchemaRef.ext (String.append_right_inj _ |>.mp hpoint)
    rw [← hname]
    exact Or.inr (Value.mem_strings_of_stringAt? ht)
  · rw [Value.pointAtDefinition_of_ne fun other ho => href ⟨other, ho⟩] at hpoint
    rw [← hpoint]
    exact Or.inl (Value.mem_strings_of_stringAt? ht)

/-- No string of a rewritten schema points at a schema. -/
theorem pointer_notMem_strings (schema : Value) (ref : SchemaRef) :
    ref.pointer ∉ schema.rewriteReferences.strings := by
  intro h
  obtain ⟨path, hp⟩ := Value.mem_strings_iff.mp h
  rw [Value.stringAt?_rewriteReferences] at hp
  obtain ⟨text, _, hpoint⟩ := Option.map_eq_some_iff.mp hp
  exact Value.pointAtDefinition_ne_pointer text ref hpoint

/--
Where a text resolves strictly, each string of a definition stood in the schema at the same path;
either it was no pointer to a schema and is unchanged, or it was one and now points at a
definition that the document has. Strict emission fails for an unknown name only if a schema of
the bundle had a string that points at the definition of that name.
-/
theorem definitions_of_strict {registry : Registry} {source : String} {bundle : Bundle}
    (h : (registry.resolve source).strict = .ok bundle) (id root : String) :
    (∀ key definition, (ofBundle id bundle).definitions.find? key = some definition →
      ∃ schema, bundle.find? key = some schema ∧
        ∀ path after, definition.stringAt? path = some after →
          ∃ before, schema.stringAt? path = some before ∧
            ((after = before ∧ ∀ ref : SchemaRef, before ≠ ref.pointer) ∨
              ∃ ref : SchemaRef, before = ref.pointer ∧ after = ref.definitionPointer ∧
                ref.name ∈ (ofBundle id bundle).definitions.keys)) ∧
      ∀ name, TypeScript.emit (ofBundle id bundle).definitions root true =
          .error (.unknownRef name) →
        ∃ key schema path, bundle.find? key = some schema ∧
          schema.stringAt? path = some (definitionsPointer ++ name) := by
  -- a strict bundle has whatever its schemas point at
  have hclosed : ∀ key schema (ref : SchemaRef), bundle.find? key = some schema →
      ref.pointer ∈ schema.strings → ref.name ∈ bundle.keys := by
    intro key schema ref hs hp
    exact Registry.mem_keys_of_strict h hs (mem_referencedNames_iff.mpr ⟨ref, rfl, hp⟩)
  constructor
  · intro key definition hd
    obtain ⟨schema, hs, rfl⟩ := find?_definitions_ofBundle.mp hd
    refine ⟨schema, hs, ?_⟩
    intro path after ha
    rw [Value.stringAt?_rewriteReferences] at ha
    obtain ⟨before, hb, rfl⟩ := Option.map_eq_some_iff.mp ha
    refine ⟨before, hb, ?_⟩
    by_cases href : ∃ ref : SchemaRef, before = ref.pointer
    · obtain ⟨ref, rfl⟩ := href
      refine Or.inr ⟨ref, rfl, Value.pointAtDefinition_pointer ref, ?_⟩
      rw [keys_definitions_ofBundle]
      exact hclosed key schema ref hs (Value.mem_strings_of_stringAt? hb)
    · have hne : ∀ ref : SchemaRef, before ≠ ref.pointer := fun ref hr => href ⟨ref, hr⟩
      exact Or.inl ⟨Value.pointAtDefinition_of_ne hne, hne⟩
  · intro name he
    -- the string pointed at the definition before rewriting, or at a schema, which would be there
    obtain ⟨_, hmissing, key, definition, hd, ref, rfl, hstring⟩ :=
      TypeScript.exists_string_of_unknownRef he
    rw [keys_definitions_ofBundle] at hmissing
    obtain ⟨schema, hs, rfl⟩ := find?_definitions_ofBundle.mp hd
    rcases hstring with hstring | hstring
    · rcases mem_strings_of_definitionPointer hstring with hbefore | hbefore
      · obtain ⟨path, hp⟩ := Value.mem_strings_iff.mp hbefore
        exact ⟨key, schema, path, hs, hp⟩
      · exact absurd (hclosed key schema ref hs hbefore) hmissing
    · exact absurd hstring (pointer_notMem_strings schema ref)

/-- Pets have owners, which are defined, and come in litters, at which they point as a
definition. -/
def petSchemas : Registry :=
  .ofSchemas [
    ("Pet", .object [
      ("properties", .object [
        ("owner", .object [("$ref", .string "#/components/schemas/Owner")]),
        ("litter", .object [("$ref", .string "#/definitions/Litter")])]),
      ("type", .string "object")]),
    ("Owner", .object [("type", .string "string")])]

theorem definitions_of_strict_pets :
    (petSchemas.resolve "$ref: '#/components/schemas/Pet'").strict = .ok petSchemas.schemas ∧
      TypeScript.emit (ofBundle "pets" petSchemas.schemas).definitions "pets" true =
        .error (.unknownRef "Litter") ∧
      ∃ key schema path, petSchemas.schemas.find? key = some schema ∧
        schema.stringAt? path = some (definitionsPointer ++ "Litter") := by
  have hstrict : (petSchemas.resolve "$ref: '#/components/schemas/Pet'").strict =
      .ok petSchemas.schemas := by decide +kernel
  have hemit : TypeScript.emit (ofBundle "pets" petSchemas.schemas).definitions "pets" true =
      .error (.unknownRef "Litter") := by decide +kernel
  exact ⟨hstrict, hemit, (definitions_of_strict hstrict "pets" "pets").2 "Litter" hemit⟩

end JsonSchema

end SchemaBundle
