/-!
# Ordered dictionaries

A dictionary keeps its entries in the order in which their keys first came. Writing a key
that is there replaces the value in place; writing a new key appends it. `Entries` are plain
lists of pairs, as they stand inside a document; `Dict` adds that no key occurs twice.
-/

namespace SchemaBundle

/-- Keys with their values, in order. -/
abbrev Entries (α : Type) := List (String × α)

namespace Entries

variable {α β : Type}

/-- The keys, in order. -/
def keys (entries : Entries α) : List String :=
  entries.map Prod.fst

/-- The value of a key: that of its first entry. -/
def find? (key : String) : Entries α → Option α
  | [] => none
  | (k, v) :: rest => if k = key then some v else find? key rest

/-- Replaces the value of a key in place, or appends the key. -/
def insert (key : String) (value : α) : Entries α → Entries α
  | [] => [(key, value)]
  | (k, v) :: rest => if k = key then (k, value) :: rest else (k, v) :: insert key value rest

/-- The entries without a key. -/
def erase (key : String) (entries : Entries α) : Entries α :=
  entries.filter fun entry => entry.1 ≠ key

/-- Writes pairs one after another. -/
def ofPairs (pairs : List (String × α)) : Entries α :=
  pairs.foldl (fun entries (key, value) => insert key value entries) []

/-- Applies a function to every value. -/
def mapValues (f : α → β) (entries : Entries α) : Entries β :=
  entries.map fun (key, value) => (key, f value)

@[simp] theorem keys_nil : keys ([] : Entries α) = [] := rfl

@[simp] theorem keys_cons (key : String) (value : α) (rest : Entries α) :
    keys ((key, value) :: rest) = key :: keys rest := rfl

@[simp] theorem keys_mapValues (f : α → β) (entries : Entries α) :
    keys (mapValues f entries) = keys entries := by
  simp [keys, mapValues, Function.comp_def]

/-- A key has a value exactly when it is among the keys. -/
theorem find?_isSome {key : String} {entries : Entries α} :
    (find? key entries).isSome = true ↔ key ∈ keys entries := by
  induction entries with
  | nil => simp [find?]
  | cons entry rest ih =>
    obtain ⟨k, v⟩ := entry
    by_cases h : k = key
    · simp [find?, h]
    · simp [find?, h, ih, Ne.symm h]

/-- Writing a key does not move the others and appends the key only if it is new. -/
theorem keys_insert (key : String) (value : α) (entries : Entries α) :
    keys (insert key value entries) =
      if key ∈ keys entries then keys entries else keys entries ++ [key] := by
  induction entries with
  | nil => simp [insert]
  | cons entry rest ih =>
    obtain ⟨k, v⟩ := entry
    by_cases h : k = key
    · simp [insert, h]
    · by_cases hk : key ∈ keys rest <;> simp [insert, h, ih, hk, Ne.symm h]

theorem find?_insert_self (key : String) (value : α) (entries : Entries α) :
    find? key (insert key value entries) = some value := by
  induction entries with
  | nil => simp [insert, find?]
  | cons entry rest ih =>
    obtain ⟨k, v⟩ := entry
    by_cases h : k = key <;> simp [insert, find?, h, ih]

theorem find?_insert_of_ne {key other : String} (h : other ≠ key) (value : α)
    (entries : Entries α) : find? other (insert key value entries) = find? other entries := by
  induction entries with
  | nil => simp [insert, find?, Ne.symm h]
  | cons entry rest ih =>
    obtain ⟨k, v⟩ := entry
    by_cases hk : k = key
    · subst hk; simp [insert, find?, Ne.symm h]
    · by_cases ho : k = other
      · subst ho; simp [insert, find?, hk]
      · simp [insert, find?, hk, ho, ih]

theorem nodup_insert (key : String) (value : α) {entries : Entries α}
    (h : (keys entries).Nodup) : (keys (insert key value entries)).Nodup := by
  rw [keys_insert]
  split
  · exact h
  · rename_i hk
    rw [List.nodup_append]
    refine ⟨h, by simp, ?_⟩
    intro a ha b hb hab
    simp only [List.mem_singleton] at hb
    exact hk (hb ▸ hab ▸ ha)

theorem nodup_ofPairs (pairs : List (String × α)) : (keys (ofPairs pairs)).Nodup := by
  have step : ∀ (ps : List (String × α)) (entries : Entries α), (keys entries).Nodup →
      (keys (ps.foldl (fun entries (key, value) => insert key value entries) entries)).Nodup := by
    intro ps
    induction ps with
    | nil => intro entries h; exact h
    | cons p ps ih => intro entries h; exact ih _ (nodup_insert _ _ h)
  exact step pairs [] (by simp)

end Entries

/-- Entries no two of which have one key. -/
structure Dict (α : Type) where
  entries : Entries α
  nodup : (Entries.keys entries).Nodup

namespace Dict

variable {α β : Type}

/-- The dictionary without entries. -/
def empty : Dict α :=
  ⟨[], by simp⟩

instance : EmptyCollection (Dict α) := ⟨empty⟩

instance : Inhabited (Dict α) := ⟨empty⟩

/-- The dictionary of pairs written one after another: of one key the last value counts. -/
def ofPairs (pairs : List (String × α)) : Dict α :=
  ⟨Entries.ofPairs pairs, Entries.nodup_ofPairs pairs⟩

/-- The entries, in order. -/
def toList (dict : Dict α) : List (String × α) :=
  dict.entries

/-- The keys, in order. -/
def keys (dict : Dict α) : List String :=
  Entries.keys dict.entries

/-- The number of entries. -/
def size (dict : Dict α) : Nat :=
  dict.entries.length

/-- Whether there are no entries. -/
def isEmpty (dict : Dict α) : Bool :=
  dict.entries.isEmpty

/-- The value of a key. -/
def find? (dict : Dict α) (key : String) : Option α :=
  Entries.find? key dict.entries

/-- Whether a key has a value. -/
def contains (dict : Dict α) (key : String) : Bool :=
  (dict.find? key).isSome

/-- Replaces the value of a key in place, or appends the key. -/
def insert (dict : Dict α) (key : String) (value : α) : Dict α :=
  ⟨Entries.insert key value dict.entries, Entries.nodup_insert key value dict.nodup⟩

/-- Applies a function to every value. -/
def mapValues (f : α → β) (dict : Dict α) : Dict β :=
  ⟨Entries.mapValues f dict.entries, by simpa using dict.nodup⟩

/-- Two dictionaries are equal when their entries are. -/
@[ext] theorem ext {a b : Dict α} (h : a.entries = b.entries) : a = b := by
  cases a; cases b; cases h; rfl

instance [DecidableEq α] : DecidableEq (Dict α) := fun a b =>
  decidable_of_iff (a.entries = b.entries) ⟨ext, fun h => h ▸ rfl⟩

/-- Whether two dictionaries hold the same entries, in whatever order. -/
def sameEntries [DecidableEq α] (a b : Dict α) : Bool :=
  a.size == b.size && a.entries.all fun (key, value) => b.find? key = some value

theorem find?_insert_self (dict : Dict α) (key : String) (value : α) :
    (dict.insert key value).find? key = some value :=
  Entries.find?_insert_self key value dict.entries

theorem find?_insert_of_ne (dict : Dict α) {key other : String} (h : other ≠ key) (value : α) :
    (dict.insert key value).find? other = dict.find? other :=
  Entries.find?_insert_of_ne h value dict.entries

end Dict

end SchemaBundle
