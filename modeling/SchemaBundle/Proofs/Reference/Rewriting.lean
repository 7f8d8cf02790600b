import Mathlib.Data.List.Forall2
import SchemaBundle.Proofs.Json.Strings

/-!
# Pointing references at definitions, and back

Pointing references at definitions changes the strings of a value that point at schemas, and those
only, so that the value keeps its shape and no string points at a schema any more. What each string
refers to stays what it was. Where no string pointed at a definition before, the change can be
undone.

* `Json.Value.Alike`: two values that differ in their strings alone
* `Json.Value.mapStrings_mapStrings`: two changes of the strings make one
* `Json.Value.pointsAtDefinition_pointAtDefinition`: which texts change, and into what
* `Json.Value.referredName?_pointAtDefinition`: a text refers to what it referred to
-/

namespace SchemaBundle

namespace Json.Value

/-- Two values are the same tree but for their strings, which are related one by one: objects have
the same keys in the same order, arrays the same length. -/
inductive Alike (related : String → String → Prop) : Value → Value → Prop
  | null : Alike related .null .null
  | bool (value : Bool) : Alike related (.bool value) (.bool value)
  | number (value : Number) : Alike related (.number value) (.number value)
  | string {a b : String} : related a b → Alike related (.string a) (.string b)
  | array {a b : List Value} :
    List.Forall₂ (Alike related) a b → Alike related (.array a) (.array b)
  | object {a b : List (String × Value)} : Entries.keys a = Entries.keys b →
    List.Forall₂ (Alike related) (a.map Prod.snd) (b.map Prod.snd) →
      Alike related (.object a) (.object b)

variable {f g : String → String} {related : String → String → Prop}

/-! ## Changing strings -/

theorem mapStringsOfEntries_eq_mapValues (f : String → String)
    (entries : List (String × Value)) :
    mapStringsOfEntries f entries = Entries.mapValues (mapStrings f) entries := by
  induction entries with
  | nil => rfl
  | cons entry rest ih => rw [mapStringsOfEntries, ih]; rfl

theorem keys_mapStringsOfEntries (f : String → String) (entries : List (String × Value)) :
    Entries.keys (mapStringsOfEntries f entries) = Entries.keys entries := by
  rw [mapStringsOfEntries_eq_mapValues, Entries.keys_mapValues]

mutual

/-- Changing the strings of a value keeps its shape. -/
theorem alike_mapStrings (h : ∀ text, related text (f text)) :
    ∀ value : Value, Alike related value (value.mapStrings f)
  | .null => .null
  | .bool value => .bool value
  | .number value => .number value
  | .string text => .string (h text)
  | .array items => .array (alike_mapStringsOfItems h items)
  | .object entries =>
    .object (keys_mapStringsOfEntries f entries).symm (alike_mapStringsOfEntries h entries)

theorem alike_mapStringsOfItems (h : ∀ text, related text (f text)) :
    ∀ items : List Value, List.Forall₂ (Alike related) items (mapStringsOfItems f items)
  | [] => .nil
  | item :: rest => .cons (alike_mapStrings h item) (alike_mapStringsOfItems h rest)

theorem alike_mapStringsOfEntries (h : ∀ text, related text (f text)) :
    ∀ entries : List (String × Value), List.Forall₂ (Alike related) (entries.map Prod.snd)
      ((mapStringsOfEntries f entries).map Prod.snd)
  | [] => .nil
  | (_, value) :: rest => .cons (alike_mapStrings h value) (alike_mapStringsOfEntries h rest)

end

mutual

/-- The strings of a changed value are the changed strings, in the same order. -/
theorem strings_mapStrings (f : String → String) : ∀ value : Value,
    (value.mapStrings f).strings = value.strings.map f
  | .null | .bool _ | .number _ | .string _ => rfl
  | .array items => stringsOfItems_mapStrings f items
  | .object entries => stringsOfEntries_mapStrings f entries

theorem stringsOfItems_mapStrings (f : String → String) : ∀ items : List Value,
    stringsOfItems (mapStringsOfItems f items) = (stringsOfItems items).map f
  | [] => rfl
  | item :: rest => by
    rw [mapStringsOfItems, stringsOfItems, stringsOfItems, List.map_append,
      strings_mapStrings f item, stringsOfItems_mapStrings f rest]

theorem stringsOfEntries_mapStrings (f : String → String) : ∀ entries : List (String × Value),
    stringsOfEntries (mapStringsOfEntries f entries) = (stringsOfEntries entries).map f
  | [] => rfl
  | (_, value) :: rest => by
    rw [mapStringsOfEntries, stringsOfEntries, stringsOfEntries, List.map_append,
      strings_mapStrings f value, stringsOfEntries_mapStrings f rest]

end

mutual

/-- Two changes make one. -/
theorem mapStrings_mapStrings (f g : String → String) : ∀ value : Value,
    (value.mapStrings f).mapStrings g = value.mapStrings (g ∘ f)
  | .null | .bool _ | .number _ | .string _ => rfl
  | .array items => by
    rw [mapStrings, mapStrings, mapStrings, mapStringsOfItems_mapStrings f g items]
  | .object entries => by
    rw [mapStrings, mapStrings, mapStrings, mapStringsOfEntries_mapStrings f g entries]

theorem mapStringsOfItems_mapStrings (f g : String → String) : ∀ items : List Value,
    mapStringsOfItems g (mapStringsOfItems f items) = mapStringsOfItems (g ∘ f) items
  | [] => rfl
  | item :: rest => by
    rw [mapStringsOfItems, mapStringsOfItems, mapStringsOfItems, mapStrings_mapStrings f g item,
      mapStringsOfItems_mapStrings f g rest]

theorem mapStringsOfEntries_mapStrings (f g : String → String) :
    ∀ entries : List (String × Value),
      mapStringsOfEntries g (mapStringsOfEntries f entries) = mapStringsOfEntries (g ∘ f) entries
  | [] => rfl
  | (_, value) :: rest => by
    rw [mapStringsOfEntries, mapStringsOfEntries, mapStringsOfEntries,
      mapStrings_mapStrings f g value, mapStringsOfEntries_mapStrings f g rest]

end

mutual

/-- A change that leaves every string of a value alone leaves the value alone. -/
theorem mapStrings_eq_self : ∀ value : Value, (∀ text ∈ value.strings, f text = text) →
    value.mapStrings f = value
  | .null, _ | .bool _, _ | .number _, _ => rfl
  | .string text, h => congrArg Value.string (h text (List.mem_singleton.mpr rfl))
  | .array items, h => by rw [mapStrings, mapStringsOfItems_eq_self items h]
  | .object entries, h => by rw [mapStrings, mapStringsOfEntries_eq_self entries h]

theorem mapStringsOfItems_eq_self : ∀ items : List Value,
    (∀ text ∈ stringsOfItems items, f text = text) → mapStringsOfItems f items = items
  | [], _ => rfl
  | item :: rest, h => by
    rw [mapStringsOfItems,
      mapStrings_eq_self item fun text ht => h text (List.mem_append_left _ ht),
      mapStringsOfItems_eq_self rest fun text ht => h text (List.mem_append_right _ ht)]

theorem mapStringsOfEntries_eq_self : ∀ entries : List (String × Value),
    (∀ text ∈ stringsOfEntries entries, f text = text) → mapStringsOfEntries f entries = entries
  | [], _ => rfl
  | (_, value) :: rest, h => by
    rw [mapStringsOfEntries,
      mapStrings_eq_self value fun text ht => h text (List.mem_append_left _ ht),
      mapStringsOfEntries_eq_self rest fun text ht => h text (List.mem_append_right _ ht)]

end

theorem rewriteReferences_array (items : List Value) :
    (Value.array items).rewriteReferences = .array (items.map rewriteReferences) :=
  congrArg Value.array (mapStringsOfItems_eq_map pointAtDefinition items)

theorem rewriteReferences_object (entries : List (String × Value)) :
    (Value.object entries).rewriteReferences =
      .object (Entries.mapValues rewriteReferences entries) :=
  congrArg Value.object (mapStringsOfEntries_eq_mapValues pointAtDefinition entries)

/-! ## Pointing back at schemas -/

/-- A pointer to a definition as a pointer to the schema; any other text as it is. -/
def pointAtSchema (text : String) : String :=
  match SchemaRef.parseDefinition text with
  | .ok ref => ref.pointer
  | .error _ => text

/-- The name of what a text refers to: as a pointer to a definition, else as one to a schema. -/
def referredName? (text : String) : Option String :=
  ((SchemaRef.parseDefinition text).toOption <|> (SchemaRef.parse text).toOption).map
    SchemaRef.name

/-- A text becomes what it is when it points at definitions: a pointer to a schema becomes that to
the definition of its name, and nothing else changes. -/
def PointsAtDefinition (before after : String) : Prop :=
  (∀ ref, SchemaRef.parse before = .ok ref → after = ref.definitionPointer) ∧
    (after ≠ before ↔ ∃ ref, SchemaRef.parse before = .ok ref)

/-- A text is a pointer to a schema, or is none and stays as it is. -/
theorem pointAtDefinition_cases (text : String) :
    (∃ ref : SchemaRef, text = ref.pointer ∧ pointAtDefinition text = ref.definitionPointer) ∨
      (∀ ref : SchemaRef, text ≠ ref.pointer) ∧ pointAtDefinition text = text := by
  by_cases h : ∃ ref : SchemaRef, text = ref.pointer
  · obtain ⟨ref, rfl⟩ := h
    exact Or.inl ⟨ref, rfl, pointAtDefinition_pointer ref⟩
  · have hne : ∀ ref : SchemaRef, text ≠ ref.pointer := fun ref heq => h ⟨ref, heq⟩
    exact Or.inr ⟨hne, pointAtDefinition_of_ne hne⟩

theorem pointsAtDefinition_pointAtDefinition (text : String) :
    PointsAtDefinition text (pointAtDefinition text) := by
  simp only [PointsAtDefinition, SchemaRef.parse_eq_ok]
  rcases pointAtDefinition_cases text with ⟨ref, rfl, hpoints⟩ | ⟨hne, hsame⟩
  · refine ⟨fun other heq => ?_, fun _ => ⟨ref, rfl⟩, fun _ => ?_⟩
    · rw [hpoints, SchemaRef.ext ((String.append_right_inj _).mp heq)]
    · rw [hpoints]
      exact definitionPointer_ne_pointer ref ref
  · exact ⟨fun ref heq => absurd heq (hne ref), fun h => absurd hsame h,
      fun ⟨ref, heq⟩ => absurd heq (hne ref)⟩

theorem pointAtDefinition_idempotent (text : String) :
    pointAtDefinition (pointAtDefinition text) = pointAtDefinition text :=
  pointAtDefinition_of_ne (pointAtDefinition_ne_pointer text)

theorem parseDefinition_pointer (ref : SchemaRef) :
    (SchemaRef.parseDefinition ref.pointer).toOption = none := by
  cases hparse : SchemaRef.parseDefinition ref.pointer with
  | error error => rfl
  | ok other =>
    exact absurd (SchemaRef.parseDefinition_eq_ok.mp hparse).symm
      (definitionPointer_ne_pointer other ref)

/-- What a text refers to does not change with where it points. -/
theorem referredName?_pointAtDefinition (text : String) :
    referredName? (pointAtDefinition text) = referredName? text := by
  rcases pointAtDefinition_cases text with ⟨ref, rfl, hpoints⟩ | ⟨-, hsame⟩
  · have hdefinition : SchemaRef.parseDefinition ref.definitionPointer = .ok ref :=
      SchemaRef.parseDefinition_eq_ok.mpr rfl
    rw [hpoints, referredName?, referredName?, hdefinition, parseDefinition_pointer,
      SchemaRef.parse_pointer]
    rfl
  · rw [hsame]

/-- Where a text did not point at a definition before, it points back at what it pointed at. -/
theorem pointAtSchema_pointAtDefinition {text : String}
    (h : ∀ ref, SchemaRef.parseDefinition text ≠ .ok ref) :
    pointAtSchema (pointAtDefinition text) = text := by
  rcases pointAtDefinition_cases text with ⟨ref, rfl, hpoints⟩ | ⟨-, hsame⟩
  · rw [hpoints, pointAtSchema, SchemaRef.parseDefinition_eq_ok.mpr rfl]
  · rw [hsame, pointAtSchema]
    split
    · next ref hparse => exact absurd hparse (h ref)
    · rfl

end Json.Value

end SchemaBundle
