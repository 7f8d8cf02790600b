import SchemaBundle.Reference.Rewriting
import SchemaBundle.Reference.Visitor

/-!
# The strings of a value

The strings of a value in the order of the document, and the string at a path, which tells two
strings with one text apart. Keys are not among them. The references of a value are the strings
that read as pointers, and pointing references at definitions changes strings in their places and
nothing else.

* `Json.Value.references_eq_filterMap`: references are the strings that read as pointers
* `Json.Value.mem_strings_iff`: a string of a value stands at a path
* `Json.Value.stringAt?_rewriteReferences`: what rewriting does at a path
-/

namespace SchemaBundle

namespace Json.Value

mutual

/-- The strings of a value, from left to right. -/
def strings : Value → List String
  | .string text => [text]
  | .array items => stringsOfItems items
  | .object entries => stringsOfEntries entries
  | .null | .bool _ | .number _ => []

/-- The strings of a list of items. -/
def stringsOfItems : List Value → List String
  | [] => []
  | item :: rest => strings item ++ stringsOfItems rest

/-- The strings in the values of a list of entries. -/
def stringsOfEntries : List (String × Value) → List String
  | [] => []
  | (_, value) :: rest => strings value ++ stringsOfEntries rest

end

theorem stringsOfItems_eq_flatMap (items : List Value) :
    stringsOfItems items = items.flatMap strings := by
  induction items with
  | nil => rfl
  | cons item rest ih => simp [stringsOfItems, ih]

theorem stringsOfEntries_eq_flatMap (entries : List (String × Value)) :
    stringsOfEntries entries = (entries.map Prod.snd).flatMap strings := by
  induction entries with
  | nil => rfl
  | cons entry rest ih => simp [stringsOfEntries, ih]

theorem strings_subset_of_mem_entries {key : String} {value : Value}
    {entries : List (String × Value)} (h : (key, value) ∈ entries) :
    value.strings ⊆ stringsOfEntries entries := by
  intro text ht
  rw [stringsOfEntries_eq_flatMap]
  exact List.mem_flatMap.mpr ⟨value, List.mem_map.mpr ⟨(key, value), h, rfl⟩, ht⟩

/-- The strings of a collection are those of what is directly inside it. -/
theorem strings_eq_flatMap_children (value : Value) (h : ∀ text, value ≠ .string text) :
    value.strings = (Visitor.children value).flatMap strings := by
  cases value with
  | string text => exact absurd rfl (h text)
  | array items => exact stringsOfItems_eq_flatMap items
  | object entries => exact stringsOfEntries_eq_flatMap entries
  | _ => rfl

/-! ## Strings and references -/

mutual

/-- The references of a value are its strings that read as pointers, in the same order. -/
theorem references_eq_filterMap : ∀ value : Value,
    value.references = value.strings.filterMap refOfString?
  | .string text => by
    rw [references, strings, List.filterMap_cons, List.filterMap_nil]
    cases refOfString? text <;> rfl
  | .array items => referencesOfItems_eq_filterMap items
  | .object entries => referencesOfEntries_eq_filterMap entries
  | .null | .bool _ | .number _ => rfl

theorem referencesOfItems_eq_filterMap : ∀ items : List Value,
    referencesOfItems items = (stringsOfItems items).filterMap refOfString?
  | [] => rfl
  | item :: rest => by
    rw [referencesOfItems, stringsOfItems, List.filterMap_append, references_eq_filterMap item,
      referencesOfItems_eq_filterMap rest]

theorem referencesOfEntries_eq_filterMap : ∀ entries : List (String × Value),
    referencesOfEntries entries = (stringsOfEntries entries).filterMap refOfString?
  | [] => rfl
  | (_, value) :: rest => by
    rw [referencesOfEntries, stringsOfEntries, List.filterMap_append,
      references_eq_filterMap value, referencesOfEntries_eq_filterMap rest]

end

theorem refOfString?_eq_some {text : String} {ref : SchemaRef} :
    refOfString? text = some ref ↔ text = ref.pointer := by
  rw [← SchemaRef.parse_eq_ok, refOfString?]
  cases SchemaRef.parse text <;> simp [Except.toOption]

theorem mem_references {value : Value} {ref : SchemaRef} :
    ref ∈ value.references ↔ ref.pointer ∈ value.strings := by
  rw [references_eq_filterMap, List.mem_filterMap]
  constructor
  · rintro ⟨text, ht, hr⟩
    rw [← refOfString?_eq_some.mp hr]
    exact ht
  · intro h
    exact ⟨ref.pointer, h, refOfString?_eq_some.mpr rfl⟩

/-! ## Paths -/

/-- The string at the end of a path of positions, if there is one there. -/
def stringAt? : List Nat → Value → Option String
  | [], .string text => some text
  | [], _ => none
  | position :: path, value =>
    (Visitor.children value)[position]?.bind (stringAt? path)

theorem size_lt_of_mem_children {child value : Value} (h : child ∈ Visitor.children value) :
    child.size < value.size :=
  Nat.lt_of_le_of_lt (size_le_sizeItems h) (Visitor.sizeItems_children_lt value)

theorem mem_strings_of_stringAt? {path : List Nat} {value : Value} {text : String}
    (h : value.stringAt? path = some text) : text ∈ value.strings := by
  induction path generalizing value with
  | nil =>
    cases value <;> simp [stringAt?] at h
    simp [strings, h]
  | cons position path ih =>
    obtain ⟨child, hc, ht⟩ := Option.bind_eq_some_iff.mp h
    have hmem : child ∈ Visitor.children value := List.mem_of_getElem? hc
    have hcollection : ∀ text, value ≠ .string text := by
      rintro text rfl
      simp [Visitor.children] at hmem
    rw [strings_eq_flatMap_children value hcollection]
    exact List.mem_flatMap.mpr ⟨child, hmem, ih ht⟩

theorem exists_stringAt?_of_mem_strings {text : String} (value : Value)
    (h : text ∈ value.strings) : ∃ path, value.stringAt? path = some text := by
  by_cases hstring : ∃ content, value = .string content
  · obtain ⟨content, rfl⟩ := hstring
    simp only [strings, List.mem_singleton] at h
    exact ⟨[], by rw [h]; rfl⟩
  · rw [strings_eq_flatMap_children value fun content hc => hstring ⟨content, hc⟩] at h
    obtain ⟨child, hchild, ht⟩ := List.mem_flatMap.mp h
    have hlt := size_lt_of_mem_children hchild
    obtain ⟨path, hp⟩ := exists_stringAt?_of_mem_strings child ht
    obtain ⟨position, hposition⟩ := List.getElem?_of_mem hchild
    exact ⟨position :: path, by rw [stringAt?, hposition]; exact hp⟩
termination_by value.size

/-- The strings of a value are the texts that stand at its paths. -/
theorem mem_strings_iff {value : Value} {text : String} :
    text ∈ value.strings ↔ ∃ path, value.stringAt? path = some text :=
  ⟨exists_stringAt?_of_mem_strings value, fun ⟨_, h⟩ => mem_strings_of_stringAt? h⟩

/-! ## Changing strings -/

theorem mapStringsOfItems_eq_map (f : String → String) (items : List Value) :
    mapStringsOfItems f items = items.map (mapStrings f) := by
  induction items with
  | nil => rfl
  | cons item rest ih => rw [mapStringsOfItems, ih, List.map_cons]

theorem snd_mapStringsOfEntries (f : String → String) (entries : List (String × Value)) :
    (mapStringsOfEntries f entries).map Prod.snd = (entries.map Prod.snd).map (mapStrings f) := by
  induction entries with
  | nil => rfl
  | cons entry rest ih => simp [mapStringsOfEntries, ih]

theorem children_mapStrings (f : String → String) (value : Value) :
    Visitor.children (value.mapStrings f) = (Visitor.children value).map (mapStrings f) := by
  cases value with
  | array items => exact mapStringsOfItems_eq_map f items
  | object entries => exact snd_mapStringsOfEntries f entries
  | _ => rfl

/-- Changing the strings of a value changes each in its place. -/
theorem stringAt?_mapStrings (f : String → String) (path : List Nat) (value : Value) :
    (value.mapStrings f).stringAt? path = (value.stringAt? path).map f := by
  induction path generalizing value with
  | nil => cases value <;> rfl
  | cons position path ih =>
    rw [stringAt?, stringAt?, children_mapStrings, List.getElem?_map]
    cases (Visitor.children value)[position]? with
    | none => rfl
    | some child => exact ih child

/-! ## Pointing references at definitions -/

/-- No text points both at a schema and at a definition. -/
theorem definitionPointer_ne_pointer (ref other : SchemaRef) :
    ref.definitionPointer ≠ other.pointer := by
  intro h
  have hlist := congrArg String.toList h
  simp [SchemaRef.definitionPointer, SchemaRef.pointer, definitionsPointer, schemasPointer]
    at hlist

theorem pointAtDefinition_pointer (ref : SchemaRef) :
    pointAtDefinition ref.pointer = ref.definitionPointer := by
  rw [pointAtDefinition, SchemaRef.parse_pointer]

theorem pointAtDefinition_of_ne {text : String} (h : ∀ ref : SchemaRef, text ≠ ref.pointer) :
    pointAtDefinition text = text := by
  unfold pointAtDefinition
  split
  · next ref hr => exact absurd (SchemaRef.parse_eq_ok.mp hr) (h ref)
  · rfl

/-- No string points at a schema any more. -/
theorem pointAtDefinition_ne_pointer (text : String) (ref : SchemaRef) :
    pointAtDefinition text ≠ ref.pointer := by
  by_cases h : ∃ other : SchemaRef, text = other.pointer
  · obtain ⟨other, rfl⟩ := h
    rw [pointAtDefinition_pointer]
    exact definitionPointer_ne_pointer other ref
  · rw [pointAtDefinition_of_ne fun other ho => h ⟨other, ho⟩]
    exact fun hr => h ⟨ref, hr⟩

theorem stringAt?_rewriteReferences (path : List Nat) (value : Value) :
    value.rewriteReferences.stringAt? path = (value.stringAt? path).map pointAtDefinition :=
  stringAt?_mapStrings pointAtDefinition path value

end Json.Value

end SchemaBundle
