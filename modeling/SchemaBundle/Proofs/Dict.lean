import SchemaBundle.Dict

/-!
# Laws of ordered dictionaries

Looking up a key finds an entry that is there, and a key that is not there is written at the end.
-/

namespace SchemaBundle

namespace Entries

variable {α β : Type}

theorem mem_of_find? {key : String} {value : α} {entries : Entries α}
    (h : find? key entries = some value) : (key, value) ∈ entries := by
  induction entries with
  | nil => simp [find?] at h
  | cons entry rest ih =>
    obtain ⟨k, v⟩ := entry
    by_cases hk : k = key
    · subst hk
      simp only [find?, ↓reduceIte, Option.some.injEq] at h
      rw [h]
      exact List.mem_cons_self
    · simp only [find?, if_neg hk] at h
      exact List.mem_cons_of_mem _ (ih h)

/-- In entries without repeats every entry is found under its key. -/
theorem find?_of_mem {key : String} {value : α} {entries : Entries α}
    (hnodup : (keys entries).Nodup) (h : (key, value) ∈ entries) :
    find? key entries = some value := by
  induction entries with
  | nil => simp at h
  | cons entry rest ih =>
    obtain ⟨k, v⟩ := entry
    rw [keys_cons, List.nodup_cons] at hnodup
    rcases List.mem_cons.mp h with heq | h
    · cases heq
      simp [find?]
    · have hne : k ≠ key := by
        rintro rfl
        exact hnodup.1 (List.mem_map.mpr ⟨(k, value), h, rfl⟩)
      simp only [find?, if_neg hne]
      exact ih hnodup.2 h

/-- The values of the keys, looked up one by one, are the values in order. -/
theorem map_find?_keys {entries : Entries α} (hnodup : (keys entries).Nodup) (default : α) :
    (keys entries).map (fun key => (find? key entries).getD default) = entries.map Prod.snd := by
  rw [keys, List.map_map]
  refine List.map_congr_left fun entry he => ?_
  simp [find?_of_mem hnodup he]

theorem find?_eq_none {key : String} {entries : Entries α} :
    find? key entries = none ↔ key ∉ keys entries := by
  rw [← find?_isSome]
  simp

/-- Writing a key that is not there appends it. -/
theorem insert_of_notMem {key : String} {entries : Entries α} (h : key ∉ keys entries)
    (value : α) : insert key value entries = entries ++ [(key, value)] := by
  induction entries with
  | nil => rfl
  | cons entry rest ih =>
    obtain ⟨k, v⟩ := entry
    simp only [keys_cons, List.mem_cons, not_or] at h
    simp [insert, Ne.symm h.1, ih h.2]

/-- What is there after writing a key was there before, or is what was written. -/
theorem mem_insert {key : String} {value : α} {entries : Entries α} {entry : String × α}
    (h : entry ∈ insert key value entries) : entry = (key, value) ∨ entry ∈ entries := by
  induction entries with
  | nil => exact Or.inl (List.mem_singleton.mp h)
  | cons first rest ih =>
    obtain ⟨k, v⟩ := first
    by_cases hk : k = key
    · subst hk
      simp only [insert, ↓reduceIte] at h
      rcases List.mem_cons.mp h with h | h
      · exact Or.inl h
      · exact Or.inr (List.mem_cons_of_mem _ h)
    · simp only [insert, if_neg hk] at h
      rcases List.mem_cons.mp h with h | h
      · exact Or.inr (h ▸ List.mem_cons_self)
      · rcases ih h with h | h
        · exact Or.inl h
        · exact Or.inr (List.mem_cons_of_mem _ h)

theorem find?_mapValues (f : α → β) (key : String) (entries : Entries α) :
    find? key (mapValues f entries) = (find? key entries).map f := by
  induction entries with
  | nil => rfl
  | cons entry rest ih =>
    obtain ⟨k, v⟩ := entry
    simp only [mapValues] at ih
    by_cases hk : k = key <;> simp [mapValues, find?, hk, ih]

theorem mem_keys_insert {key other : String} {value : α} {entries : Entries α} :
    other ∈ keys (insert key value entries) ↔ other = key ∨ other ∈ keys entries := by
  rw [keys_insert]
  split
  · next hin =>
    constructor
    · exact Or.inr
    · rintro (rfl | h)
      · exact hin
      · exact h
  · rw [List.mem_append, List.mem_singleton]
    exact Or.comm

/-- Writing a key again replaces what was written. -/
theorem insert_insert (key : String) (first second : α) (entries : Entries α) :
    insert key second (insert key first entries) = insert key second entries := by
  induction entries with
  | nil => simp [insert]
  | cons entry rest ih =>
    obtain ⟨k, v⟩ := entry
    by_cases hk : k = key <;> simp [insert, hk, ih]

/-- A key that is there keeps its place, whether another is written before or after it. -/
theorem insert_comm {key other : String} (hne : key ≠ other) {entries : Entries α}
    (h : key ∈ keys entries) (a b : α) :
    insert key a (insert other b entries) = insert other b (insert key a entries) := by
  induction entries with
  | nil => simp at h
  | cons entry rest ih =>
    obtain ⟨k, v⟩ := entry
    by_cases hk : k = key
    · subst hk
      simp [insert, hne]
    · by_cases ho : k = other
      · subst ho
        simp [insert, hk]
      · have hrest : key ∈ keys rest := by simpa [Ne.symm hk] using h
        simp [insert, hk, ho, ih hrest]

/-- Writing a key leaves the entries of other keys alone. -/
theorem filter_insert {p : String → Bool} {key : String} (h : p key = false) (value : α)
    (entries : Entries α) :
    (insert key value entries).filter (fun entry => p entry.1) =
      entries.filter fun entry => p entry.1 := by
  induction entries with
  | nil => simp [insert, h]
  | cons entry rest ih =>
    obtain ⟨k, v⟩ := entry
    by_cases hk : k = key
    · subst hk
      simp [insert, h]
    · simp [insert, hk, List.filter_cons, ih]

/-- Pairs without repeats of a key are written as they stand. -/
theorem ofPairs_of_nodup {pairs : List (String × α)} (h : (keys pairs).Nodup) :
    ofPairs pairs = pairs := by
  have hfold : ∀ (pairs : List (String × α)) (entries : Entries α),
      (keys (entries ++ pairs)).Nodup →
        pairs.foldl (fun entries pair => insert pair.1 pair.2 entries) entries =
          entries ++ pairs := by
    intro pairs
    induction pairs with
    | nil => simp
    | cons pair rest ih =>
      intro entries hnodup
      have hnew : pair.1 ∉ keys entries := by
        rw [keys, List.map_append, List.map_cons, List.nodup_append] at hnodup
        exact fun hin => hnodup.2.2 pair.1 hin pair.1 List.mem_cons_self rfl
      have hstep : entries ++ pair :: rest = entries ++ [pair] ++ rest := by simp
      rw [List.foldl_cons, insert_of_notMem hnew, hstep]
      exact ih _ (hstep ▸ hnodup)
  exact hfold pairs [] h

/-- The keys of pairs written one after another are those of the pairs. -/
theorem mem_keys_ofPairs {key : String} {pairs : List (String × α)} :
    key ∈ keys (ofPairs pairs) ↔ key ∈ keys pairs := by
  have hfold : ∀ (pairs : List (String × α)) (entries : Entries α),
      key ∈ keys (pairs.foldl (fun entries pair => insert pair.1 pair.2 entries) entries) ↔
        key ∈ keys entries ∨ key ∈ keys pairs := by
    intro pairs
    induction pairs with
    | nil => intro entries; simp
    | cons pair pairs ih =>
      intro entries
      rw [List.foldl_cons, ih, mem_keys_insert, keys_cons, List.mem_cons]
      constructor
      · rintro ((h | h) | h)
        · exact Or.inr (Or.inl h)
        · exact Or.inl h
        · exact Or.inr (Or.inr h)
      · rintro (h | h | h)
        · exact Or.inl (Or.inr h)
        · exact Or.inl (Or.inl h)
        · exact Or.inr h
  exact (hfold pairs []).trans (by simp)

end Entries

end SchemaBundle
