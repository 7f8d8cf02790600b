import SchemaBundle.Proofs.Build.Worker
import SchemaBundle.Proofs.TypeScript.Spelling

/-!
# The types of a bundle

A build makes the types of an API from the definitions of its schema document, in which references
point at definitions. Where nothing but the key for references points at schemas, they are the types
of the bundle itself.

* `Build.emit_respelled`: emission before and after references have been pointed at definitions
-/

namespace SchemaBundle

open Json (Value)
open TypeScript (emit)

namespace Build

/-- The types that are found for an API are those of the definitions that its bundle becomes. -/
theorem types_of_artifacts {config : Config} {registry : Registry} {api : Config.Api}
    {name source : String} {found : Artifacts}
    (h : artifacts config registry api name source = .ok found) :
    emit ((registry.resolve source).bundle.mapValues Value.rewriteReferences) name config.strict =
      .ok found.types := by
  unfold artifacts at h
  obtain ⟨bundle, hbundle, h⟩ := exists_of_bind_eq_ok h
  obtain ⟨_, _, h⟩ := exists_of_bind_eq_ok h
  obtain ⟨_, _, h⟩ := exists_of_bind_eq_ok h
  obtain ⟨types, htypes, h⟩ := exists_of_bind_eq_ok h
  cases h
  rw [← eq_of_bundleOf hbundle]
  show emit (JsonSchema.ofBundle name bundle).definitions name config.strict = .ok types
  cases hemit : emit (JsonSchema.ofBundle name bundle).definitions name config.strict with
  | error error =>
    rw [hemit] at htypes
    cases htypes
  | ok text =>
    rw [hemit] at htypes
    cases htypes
    rfl

/--
If nothing but the key for references points at schemas in some definitions, emission succeeds on
them exactly if it succeeds when every reference points at a definition instead, and the text is the
same. So what a build finds for the types of an API with these definitions as its bundle is the text
for the bundle itself.
-/
theorem emit_respelled {definitions : Dict Value}
    (h : ∀ key schema, definitions.find? key = some schema → schema.KeysReferences) :
    (∀ root strict text,
      emit (definitions.mapValues Value.rewriteReferences) root strict = .ok text ↔
        emit definitions root strict = .ok text) ∧
      ∀ config registry api name source found,
        (registry.resolve source).bundle = definitions →
          artifacts config registry api name source = .ok found →
            emit definitions name config.strict = .ok found.types := by
  have hsame := TypeScript.emit_rewriteReferences_eq_ok h
  refine ⟨hsame, fun config registry api name source found hbundle hfound => ?_⟩
  rw [← hsame, ← hbundle]
  exact types_of_artifacts hfound

/-- A dog that refers to what every pet has, and has the same as one of its constants. -/
def pets : Dict Value :=
  .ofPairs [
    ("Dog", .object [
      ("allOf", .array [.object [("$ref", .string "#/components/schemas/Pet")]]),
      ("properties", .object [("kind", .object [
        ("enum", .array [.object [("$ref", .string "#/components/schemas/Pet")]])])])]),
    ("Pet", .object [("type", .string "object")])]

/-- A configuration with one API. -/
def petShop : Config :=
  { definitions := ⟨"shared.yaml"⟩, output := ⟨"out"⟩, strict := true,
    apis := [⟨"dogs", ⟨"dogs.yaml"⟩, false⟩], site := none }

theorem emit_respelled_pets :
    (∃ text, emit (pets.mapValues Value.rewriteReferences) "dogs" true = .ok text ∧
      emit pets "dogs" true = .ok text) ∧
    ∃ found, artifacts petShop ⟨pets, none⟩ ⟨"dogs", ⟨"dogs.yaml"⟩, false⟩ "dogs"
        "dog: '#/components/schemas/Dog'\n" = .ok found ∧
      emit pets "dogs" true = .ok found.types := by
  have hloose : ∀ entry ∈ pets.entries, ∀ text ∈ entry.2.looseStrings,
      (SchemaRef.parse text).toOption = none := by decide +kernel
  have hkeys : ∀ key schema, pets.find? key = some schema → schema.KeysReferences := by
    intro key schema hfind text htext ref hparse
    have hnone := hloose _ (Entries.mem_of_find? hfind) text htext
    rw [hparse] at hnone
    cases hnone
  obtain ⟨hsame, htypes⟩ := emit_respelled hkeys
  constructor
  · have hsome : (emit pets "dogs" true).toOption.isSome = true := by decide +kernel
    cases hemit : emit pets "dogs" true with
    | error error => simp [hemit, Except.toOption] at hsome
    | ok text => exact ⟨text, (hsame "dogs" true text).mpr hemit, rfl⟩
  · have hbundle : ((⟨pets, none⟩ : Registry).resolve "dog: '#/components/schemas/Dog'\n").bundle =
        pets := by decide +kernel
    have hsome : (artifacts petShop ⟨pets, none⟩ ⟨"dogs", ⟨"dogs.yaml"⟩, false⟩ "dogs"
        "dog: '#/components/schemas/Dog'\n").toOption.isSome = true := by decide +kernel
    cases hfound : artifacts petShop ⟨pets, none⟩ ⟨"dogs", ⟨"dogs.yaml"⟩, false⟩ "dogs"
        "dog: '#/components/schemas/Dog'\n" with
    | error failure => simp [hfound, Except.toOption] at hsome
    | ok found => exact ⟨found, rfl, htypes petShop _ _ "dogs" _ found hbundle hfound⟩

end Build

end SchemaBundle
