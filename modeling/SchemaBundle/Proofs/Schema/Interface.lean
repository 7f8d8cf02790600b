import SchemaBundle.Proofs.Dict
import SchemaBundle.TypeScript.Emission

/-!
# Interfaces

A schema that is declared as an interface is read as a plain object: its form is that of an object
with the properties that it mentions and nothing said about further ones, and null is not allowed.

* `Json.Value.schema_of_isInterface`: how a schema that can be an interface is read
-/

namespace SchemaBundle

open Json (Value)
open TypeScript (mentionedProperties)

namespace Json.Value

@[simp] theorem value_reading (value : Value) : value.reading.value = value := by
  cases value <;> rfl

/-- The entries of an object are read one by one. -/
theorem find?_readingsOfEntries (key : String) (entries : Entries Value) :
    Entries.find? key (readingsOfEntries entries) = (Entries.find? key entries).map reading := by
  induction entries with
  | nil => rfl
  | cons entry rest ih =>
    obtain ⟨k, v⟩ := entry
    by_cases hk : k = key <;> simp [readingsOfEntries, Entries.find?, hk, ih]

theorem value?_readingsOfEntries (key : String) (entries : Entries Value) :
    Fields.value? (readingsOfEntries entries) key = Entries.find? key entries := by
  unfold Fields.value?
  rw [find?_readingsOfEntries, Option.map_map]
  cases Entries.find? key entries <;> simp

theorem has_readingsOfEntries (key : String) (entries : Entries Value) :
    Fields.has (readingsOfEntries entries) key = (Entries.find? key entries).isSome := by
  unfold Fields.has
  rw [find?_readingsOfEntries, Option.isSome_map]

/-- Where no key counts more, the key for the type decides the form. -/
theorem form_of_plain {entries : Entries Value}
    (h : compositeKeys.any (fun key => (Entries.find? key entries).isSome) = false) :
    Fields.form (readingsOfEntries entries) = Fields.typeForm (readingsOfEntries entries) := by
  simp only [compositeKeys, List.any_cons, List.any_nil, Bool.or_false, Bool.or_eq_false_iff,
    Option.isSome_eq_false_iff, Option.isNone_iff_eq_none] at h
  obtain ⟨href, hconst, henum, hall, hone, hany⟩ := h
  have hvalue (key : String) := value?_readingsOfEntries key entries
  have hfind (key : String) := find?_readingsOfEntries key entries
  simp [Fields.form, Fields.values?, Fields.schemas?, Fields.variants?, Fields.has, hvalue, hfind,
    href, hconst, henum, hall, hone, hany]

/-- What further properties are is left open where the object is not said to allow them. -/
theorem further_of_unmentioned {entries : Entries Value}
    (h : (match Entries.find? "additionalProperties" entries with
      | some (.bool true) | some (.object _) => true
      | _ => false) = false) :
    Fields.further (readingsOfEntries entries) = .unmentioned := by
  unfold Fields.further
  rw [find?_readingsOfEntries]
  cases hfurther : Entries.find? "additionalProperties" entries with
  | none => rfl
  | some value =>
    rw [hfurther] at h
    simp only [Option.map_some, value_reading]
    split <;> simp_all

/--
A schema that can be an interface is read as an object with the properties that it mentions, that
allows neither null nor further properties.
-/
theorem schema_of_isInterface {value : Value} (h : value.isInterface = true) :
    value.schema.nullable = false ∧
      ((∃ items, value.schema.form =
          .kind .object items (.mk (mentionedProperties value) .unmentioned)) ∨
        value.schema.form = .object (.mk (mentionedProperties value) .unmentioned)) := by
  cases value with
  | object entries =>
    simp only [isInterface, isInterfaceOf, Bool.and_eq_true, Bool.not_eq_true'] at h
    obtain ⟨⟨⟨hcomposite, hnullable⟩, hobject⟩, hfurther⟩ := h
    have hshape : Fields.shape (readingsOfEntries entries) =
        .mk (mentionedProperties (.object entries)) .unmentioned := by
      unfold Fields.shape
      rw [further_of_unmentioned hfurther]
      rfl
    refine ⟨?_, ?_⟩
    · show (Fields.value? (readingsOfEntries entries) "nullable" == some (.bool true)) = false
      rw [value?_readingsOfEntries]
      exact hnullable
    · show (∃ items, Fields.form (readingsOfEntries entries) = _) ∨
        Fields.form (readingsOfEntries entries) = _
      rw [form_of_plain hcomposite, ← hshape]
      unfold Fields.typeForm
      rw [value?_readingsOfEntries]
      -- the type is named as an object, or only the properties say that it is one
      cases htype : Entries.find? "type" entries with
      | none =>
        rw [htype] at hobject
        right
        simp only [Fields.hasShape, has_readingsOfEntries]
        rw [if_pos hobject]
      | some type =>
        rw [htype] at hobject
        left
        cases type with
        | string name =>
          simp only [beq_iff_eq] at hobject
          rw [hobject]
          exact ⟨_, rfl⟩
        | _ => simp at hobject
  | _ => simp [isInterface] at h

end Json.Value

end SchemaBundle
