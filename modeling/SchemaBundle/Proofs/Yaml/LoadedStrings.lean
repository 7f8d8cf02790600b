import SchemaBundle.Proofs.Dict
import SchemaBundle.Proofs.Json.Strings
import SchemaBundle.Proofs.Yaml.EventScalars
import SchemaBundle.Yaml.Reader

/-!
# The strings of a loaded value

Every string of the value that a text is loaded as is the text of a scalar of its document, however
it was reached: through aliases, in items or in entries that others replaced.

* `Loader.Gives`: what every value that is loaded has
* `Document.strings_value`: the strings of a value that is loaded
* `exists_token_of_parse`: the tokens that they come from
-/

namespace SchemaBundle.Yaml

open Json (Value Location)

theorem map_eq_ok {α β ε : Type} {f : α → β} {result : Except ε α} {b : β} :
    result.map f = .ok b ↔ ∃ a, result = .ok a ∧ f a = b := by
  cases result <;> simp [Except.map]

theorem within_eq_ok {α : Type} {step : Json.Step} {result : Except Location α} {a : α} :
    within step result = .ok a ↔ result = .ok a := by
  cases result with
  | error location => exact ⟨(by cases ·), (by cases ·)⟩
  | ok b => exact Iff.rfl

/-- What is loaded, wherever loading starts, has a property. -/
def Loader.Gives {α : Type} (load : Loader α) (p : α → Prop) : Prop :=
  ∀ progress a after, load progress = .ok (a, after) → p a

namespace Document

variable {document : Document} {α : Type} {p : α → Prop}

theorem gives_throughAlias {load : Event → Loader α}
    (h : ∀ event ∈ document.events, (load event).Gives p) :
    (document.throughAlias load).Gives p := by
  have hmem : ∀ {progress : Progress} {event : Event}, document.event? progress = some event →
      event ∈ document.events := fun he => Array.mem_of_getElem? he
  intro progress a after hload
  unfold throughAlias at hload
  split at hload
  · cases hload
  · split at hload
    · cases hload
    · split at hload
      · cases hload
      · next target _ event hevent =>
        -- an alias leads to an event of the same document
        obtain ⟨⟨b, place⟩, hb, heq⟩ := map_eq_ok.mp hload
        cases heq
        exact h event (hmem hevent) _ _ _ hb
  · next event _ hevent =>
    exact h event (hmem hevent) _ _ _ hload

theorem gives_items {item : Loader α} (h : item.Gives p) (bound : Nat) {read : List α}
    (hread : ∀ a ∈ read, p a) :
    Loader.Gives (document.items item bound read) fun all => ∀ a ∈ all, p a := by
  induction bound generalizing read with
  | zero =>
    intro progress all after hload
    cases hload
  | succ bound ih =>
    intro progress all after hload
    unfold items at hload
    split at hload
    · cases hload
    · cases hload
      exact fun a ha => hread a (List.mem_reverse.mp ha)
    · split at hload
      · cases hload
      · next value place hitem =>
        refine ih ?_ _ _ _ hload
        intro a ha
        rcases List.mem_cons.mp ha with rfl | ha
        · exact h _ _ _ (within_eq_ok.mp hitem)
        · exact hread a ha

theorem gives_entries {value : Loader α} (h : value.Gives p) (bound : Nat) {read : Entries α}
    (hread : ∀ entry ∈ read, p entry.2) :
    Loader.Gives (document.entries value bound read) fun all => ∀ entry ∈ all, p entry.2 := by
  induction bound generalizing read with
  | zero =>
    intro progress all after hload
    cases hload
  | succ bound ih =>
    intro progress all after hload
    unfold entries at hload
    split at hload
    · cases hload
      exact hread
    · split at hload
      · cases hload
      · split at hload
        · cases hload
        · next name _ _ entry place hentry =>
          refine ih ?_ _ _ _ hload
          intro other ho
          rcases Entries.mem_insert ho with rfl | ho
          · exact h _ _ _ (within_eq_ok.mp hentry)
          · exact hread other ho

/-- A text is that of a scalar of the document. -/
def Spells (document : Document) (text : String) : Prop :=
  ∃ properties writing, Event.scalar properties text writing ∈ document.events

end Document

/-! ## Scalars -/

/-- A number has no strings in it. -/
theorem strings_wholeNumber? {n : Int} {value : Value} (h : wholeNumber? n = some value) :
    value.strings = [] := by
  unfold wholeNumber? at h
  split at h <;> cases h
  rfl

theorem strings_plainValue? {text : String} {value : Value} (h : plainValue? text = some value) :
    ∀ s ∈ value.strings, s = text := by
  intro s hs
  unfold plainValue? at h
  split at h
  · cases h
    cases hs
  · cases h
    cases hs
  · cases h
    cases hs
  · rw [strings_wholeNumber? h] at hs
    cases hs
  · cases h
    cases hs
  · cases h
    exact List.mem_singleton.mp hs

theorem strings_taggedValue? {tag text : String} {value : Value}
    (h : taggedValue? tag text = some value) : ∀ s ∈ value.strings, s = text := by
  intro s hs
  unfold taggedValue? at h
  split at h
  · cases h
  · split at h
    · obtain ⟨b, _, rfl⟩ := Option.map_eq_some_iff.mp h
      cases hs
    · split at h
      · obtain ⟨n, _, hn⟩ := Option.bind_eq_some_iff.mp h
        rw [strings_wholeNumber? hn] at hs
        cases hs
      · split at h
        · split at h
          · cases h
            cases hs
          · obtain ⟨x, _, rfl⟩ := Option.map_eq_some_iff.mp h
            cases hs
        · split at h
          · split at h <;> cases h
            cases hs
          · cases h
            exact List.mem_singleton.mp hs

/-- The value of a scalar has no string in it but its text. -/
theorem strings_scalarValue? {tag : Option String} {text : String} {writing : Writing}
    {value : Value} (h : scalarValue? tag text writing = some value) :
    ∀ s ∈ value.strings, s = text := by
  unfold scalarValue? at h
  split at h
  · exact strings_taggedValue? h
  · split at h
    · exact strings_plainValue? h
    · cases h
      exact fun s hs => List.mem_singleton.mp hs

/-! ## Values -/

namespace Document

variable {document : Document}

theorem strings_node {inner : Option (Loader Value)} {event : Event}
    (hmem : event ∈ document.events)
    (hinner : ∀ load, inner = some load →
      load.Gives fun value => ∀ s ∈ value.strings, document.Spells s) :
    (document.node inner event).Gives fun value => ∀ s ∈ value.strings, document.Spells s := by
  intro progress value after hload
  unfold node at hload
  simp only at hload
  split at hload
  · next properties text writing =>
    split at hload
    · next loaded hscalar =>
      cases hload
      intro s hs
      rw [strings_scalarValue? hscalar s hs]
      exact ⟨properties, writing, hmem⟩
    · cases hload
  · next properties load =>
    split at hload
    · cases hload
    · obtain ⟨⟨items, place⟩, hitems, heq⟩ := map_eq_ok.mp hload
      cases heq
      intro s hs
      rw [Value.strings, Value.stringsOfItems_eq_flatMap, List.mem_flatMap] at hs
      obtain ⟨item, hi, hs⟩ := hs
      exact gives_items (hinner load rfl) _ (fun _ h => by cases h) _ _ _ hitems item hi s hs
  · next properties load =>
    split at hload
    · cases hload
    · obtain ⟨⟨entries, place⟩, hentries, heq⟩ := map_eq_ok.mp hload
      cases heq
      intro s hs
      rw [Value.strings, Value.stringsOfEntries_eq_flatMap, List.mem_flatMap] at hs
      obtain ⟨value, hv, hs⟩ := hs
      obtain ⟨entry, he, rfl⟩ := List.mem_map.mp hv
      exact gives_entries (hinner load rfl) _ (fun _ h => by cases h) _ _ _ hentries entry he s hs
  · cases hload

/-- The strings of a value that is loaded are texts of scalars. -/
theorem strings_value (document : Document) (depth : Nat) :
    (document.value depth).Gives fun value => ∀ s ∈ value.strings, document.Spells s := by
  induction depth with
  | zero =>
    refine gives_throughAlias fun event hmem => strings_node hmem ?_
    intro load hload
    cases hload
  | succ depth ih =>
    refine gives_throughAlias fun event hmem => strings_node hmem ?_
    intro load hload
    cases hload
    exact ih

end Document

/-- A string of the value of a text is the text of one of its scalars, or empty. -/
theorem exists_token_of_parse {source : String} {value : Value} (h : parse source = .ok value)
    {text : String} (htext : text ∈ value.strings) :
    text = "" ∨ ∃ writing, Token.scalar text writing ∈ tokens source := by
  unfold parse Document.load at h
  simp only at h
  split at h
  · split at h
    · cases h
    · next loaded progress hload =>
      split at h
      · cases h
        obtain ⟨properties, writing, hmem⟩ :=
          Document.strings_value _ _ _ _ _ hload text htext
        rcases Document.from_of_mem_events hmem with htoken | ⟨hempty, _⟩
        · exact Or.inr ⟨writing, htoken⟩
        · exact Or.inl hempty
      · cases h
  · cases h
    cases htext

end SchemaBundle.Yaml
