import Mathlib.Data.List.Lex
import Mathlib.Data.List.Sort
import Mathlib.Logic.Function.Iterate
import SchemaBundle.Proofs.Json.Strings

/-!
# Walks in the order of the document

A walk stops at each reference and is taken up again later; all that it keeps in between is the
stack of the values still to be visited. The references of these values, from left to right, are
what all later steps will find: every step takes the first of them off. So each step finds what
stands at its place in the list that is defined by recursion on the value, and a walk through the
whole value finds the string at each path once, in the order of the paths. Keys are on no path.

* `Json.Value.leaves`: the strings of a value with their paths, in the order of the document
* `Visitor.next?_iterate`: what a walk finds after any number of steps
* `Visitor.walk_inOrder`: what a walk through a whole value finds
-/

namespace SchemaBundle

open Json (Value)

/-! ## Strings and their paths -/

namespace Json.Value

mutual

/-- The strings of a value, each with the path of positions to it, from left to right. -/
def leaves : Value → List (List Nat × String)
  | .string text => [([], text)]
  | .array items => leavesOfItems 0 items
  | .object entries => leavesOfEntries 0 entries
  | .null | .bool _ | .number _ => []

/-- The strings of items, of which the first has the given position. -/
def leavesOfItems (position : Nat) : List Value → List (List Nat × String)
  | [] => []
  | item :: rest =>
    (leaves item).map (Prod.map (position :: ·) id) ++ leavesOfItems (position + 1) rest

/-- The strings in the values of entries, of which the first has the given position. -/
def leavesOfEntries (position : Nat) : List (String × Value) → List (List Nat × String)
  | [] => []
  | (_, value) :: rest =>
    (leaves value).map (Prod.map (position :: ·) id) ++ leavesOfEntries (position + 1) rest

end

variable {value other item : Value} {items : List Value} {position : Nat} {path : List Nat}
  {text : String}

theorem leavesOfEntries_eq_leavesOfItems (position : Nat) (entries : List (String × Value)) :
    leavesOfEntries position entries = leavesOfItems position (entries.map Prod.snd) := by
  induction entries generalizing position with
  | nil => rfl
  | cons entry rest ih => rw [leavesOfEntries, ih, List.map_cons, leavesOfItems]

/-- The strings of a collection are those of what is directly inside it. -/
theorem leaves_eq_leavesOfItems (h : ∀ text, value ≠ .string text) :
    value.leaves = leavesOfItems 0 (Visitor.children value) := by
  cases value with
  | string text => exact absurd rfl (h text)
  | object entries => exact leavesOfEntries_eq_leavesOfItems 0 entries
  | _ => rfl

mutual

/-- Without their paths, these are the strings of the value. -/
theorem map_snd_leaves : ∀ value : Value, value.leaves.map Prod.snd = value.strings
  | .null | .bool _ | .number _ | .string _ => rfl
  | .array items => map_snd_leavesOfItems 0 items
  | .object entries => map_snd_leavesOfEntries 0 entries

theorem map_snd_leavesOfItems (position : Nat) : ∀ items : List Value,
    (leavesOfItems position items).map Prod.snd = stringsOfItems items
  | [] => rfl
  | item :: rest => by
    rw [leavesOfItems, stringsOfItems, List.map_append, List.map_map,
      ← map_snd_leavesOfItems (position + 1) rest, ← map_snd_leaves item]
    rfl

theorem map_snd_leavesOfEntries (position : Nat) : ∀ entries : List (String × Value),
    (leavesOfEntries position entries).map Prod.snd = stringsOfEntries entries
  | [] => rfl
  | (_, value) :: rest => by
    rw [leavesOfEntries, stringsOfEntries, List.map_append, List.map_map,
      ← map_snd_leavesOfEntries (position + 1) rest, ← map_snd_leaves value]
    rfl

end

/-- The path to a string of items starts with the position of the item that the string is in. -/
theorem mem_leavesOfItems : (path, text) ∈ leavesOfItems position items ↔
    ∃ (index : Nat) (rest : List Nat) (item : Value), path = (position + index) :: rest ∧
      items[index]? = some item ∧ (rest, text) ∈ item.leaves := by
  induction items generalizing position with
  | nil => simp [leavesOfItems]
  | cons first items ih =>
    rw [leavesOfItems, List.mem_append, ih]
    constructor
    · rintro (h | ⟨index, rest, item, rfl, hitem, hleaf⟩)
      · obtain ⟨⟨rest, _⟩, hleaf, heq⟩ := List.mem_map.mp h
        cases heq
        exact ⟨0, rest, first, rfl, rfl, hleaf⟩
      · exact ⟨index + 1, rest, item, by rw [Nat.add_right_comm, Nat.add_assoc], hitem, hleaf⟩
    · rintro ⟨index, rest, item, rfl, hitem, hleaf⟩
      cases index with
      | zero =>
        cases hitem
        exact .inl (List.mem_map.mpr ⟨(rest, text), hleaf, rfl⟩)
      | succ index =>
        exact .inr ⟨index, rest, item, by rw [Nat.add_right_comm, Nat.add_assoc], hitem, hleaf⟩

/-- A string is listed with the path at whose end it stands. -/
theorem mem_leaves : (path, text) ∈ value.leaves ↔ value.stringAt? path = some text := by
  induction path generalizing value with
  | nil =>
    cases value with
    | string content => simp [leaves, stringAt?, eq_comm]
    | array items => simp [leaves, mem_leavesOfItems, stringAt?]
    | object entries =>
      simp [leaves, leavesOfEntries_eq_leavesOfItems, mem_leavesOfItems, stringAt?]
    | _ => simp [leaves, stringAt?]
  | cons position path ih =>
    rw [stringAt?, Option.bind_eq_some_iff]
    by_cases hstring : ∃ content, value = .string content
    · obtain ⟨content, rfl⟩ := hstring
      simp [leaves, Visitor.children]
    · rw [leaves_eq_leavesOfItems fun text h => hstring ⟨text, h⟩, mem_leavesOfItems]
      constructor
      · rintro ⟨index, rest, item, heq, hitem, hleaf⟩
        rw [Nat.zero_add] at heq
        cases heq
        exact ⟨item, hitem, ih.mp hleaf⟩
      · rintro ⟨item, hitem, hleaf⟩
        exact ⟨position, path, item, by rw [Nat.zero_add], hitem, ih.mpr hleaf⟩

theorem pairwise_leavesOfItems (position : Nat)
    (h : ∀ item ∈ items, item.leaves.Pairwise fun first second => first.1 < second.1) :
    (leavesOfItems position items).Pairwise fun first second => first.1 < second.1 := by
  induction items generalizing position with
  | nil => exact .nil
  | cons item rest ih =>
    obtain ⟨hitem, hrest⟩ := List.forall_mem_cons.mp h
    rw [leavesOfItems, List.pairwise_append]
    refine ⟨List.pairwise_map.mpr (hitem.imp List.Lex.cons), ih (position + 1) hrest, ?_⟩
    -- the paths into later items start with later positions
    rintro _ hfirst ⟨path, text⟩ hsecond
    obtain ⟨leaf, -, rfl⟩ := List.mem_map.mp hfirst
    obtain ⟨index, path, _, rfl, -, -⟩ := mem_leavesOfItems.mp hsecond
    exact List.Lex.rel (by omega)

/-- The paths are in order, so that no string is listed twice. -/
theorem pairwise_leaves (value : Value) :
    value.leaves.Pairwise fun first second => first.1 < second.1 := by
  by_cases hstring : ∃ text, value = .string text
  · obtain ⟨text, rfl⟩ := hstring
    exact List.pairwise_singleton _ _
  · rw [leaves_eq_leavesOfItems fun text h => hstring ⟨text, h⟩]
    refine pairwise_leavesOfItems 0 fun item hitem => ?_
    have := size_lt_of_mem_children hitem
    exact pairwise_leaves item
termination_by value.size

/-- The strings and their paths depend on what stands at the paths, and on no key. -/
theorem leaves_congr (h : ∀ path, other.stringAt? path = value.stringAt? path) :
    other.leaves = value.leaves := by
  have hasymm : Std.Asymm fun first second : List Nat × String => first.1 < second.1 :=
    ⟨fun _ _ hlt => lt_asymm hlt⟩
  refine (pairwise_leaves other).eq_of_mem_iff (pairwise_leaves value) fun leaf => ?_
  rw [mem_leaves, mem_leaves, h]

/-- The references of a value are those of its strings that read as pointers, in order. -/
theorem references_eq_filterMap_leaves (value : Value) : value.references =
    value.leaves.filterMap fun leaf => (SchemaRef.parse leaf.2).toOption := by
  rw [references_eq_filterMap, ← map_snd_leaves, List.filterMap_map]
  rfl

end Json.Value

/-! ## Walks that are taken up again -/

namespace Visitor

/-- What is left of a walk after one more step; a walk that finds nothing more is at its end. -/
def advance (visitor : Visitor) : Visitor :=
  match visitor.next? with
  | some (_, after) => after
  | none => ⟨[]⟩

/-- A step finds the first reference of the values still to be visited. -/
theorem map_fst_next? (visitor : Visitor) :
    visitor.next?.map Prod.fst = (visitor.stack.flatMap Value.references).head? := by
  rw [flatMap_references_stack]
  cases visitor.next? <;> rfl

/-- A step takes the first reference off those of the values still to be visited. -/
theorem flatMap_references_advance (visitor : Visitor) :
    visitor.advance.stack.flatMap Value.references =
      (visitor.stack.flatMap Value.references).tail := by
  rw [flatMap_references_stack visitor, advance]
  cases visitor.next? <;> rfl

theorem flatMap_references_iterate (visitor : Visitor) (steps : Nat) :
    (advance^[steps] visitor).stack.flatMap Value.references =
      (visitor.stack.flatMap Value.references).drop steps := by
  induction steps with
  | zero => rfl
  | succ steps ih =>
    rw [Function.iterate_succ_apply', flatMap_references_advance, ih, List.tail_drop]

/-- A walk that was taken up again any number of times finds the reference whose turn it is. -/
theorem next?_iterate (visitor : Visitor) (steps : Nat) :
    (advance^[steps] visitor).next?.map Prod.fst =
      (visitor.stack.flatMap Value.references)[steps]? := by
  rw [map_fst_next?, flatMap_references_iterate, List.head?_drop]

/--
A walk through a value finds, step by step and taken as a whole, those of its strings that read as
pointers to schemas. The strings are listed by recursion on the value: the one at each path, under
whatever key and at whatever depth, each once, and in the order of the paths. Keys do not
count: in a value with the same strings at the same paths a walk finds the same.
-/
theorem walk_inOrder (value : Value) :
    (∀ steps, (advance^[steps] (start value)).next?.map Prod.fst =
      (value.leaves.filterMap fun leaf => (SchemaRef.parse leaf.2).toOption)[steps]?) ∧
    (start value).toList =
      value.leaves.filterMap (fun leaf => (SchemaRef.parse leaf.2).toOption) ∧
    (value.leaves.Pairwise fun first second => first.1 < second.1) ∧
    (∀ path text, (path, text) ∈ value.leaves ↔ value.stringAt? path = some text) ∧
    ∀ other : Value, (∀ path, other.stringAt? path = value.stringAt? path) →
      (start other).toList = (start value).toList := by
  have hwhole : ∀ value : Value, (start value).toList =
      value.leaves.filterMap fun leaf => (SchemaRef.parse leaf.2).toOption := fun value => by
    rw [toList_start, Value.references_eq_filterMap_leaves]
  refine ⟨fun steps => ?_, hwhole value, value.pairwise_leaves, fun _ _ => Value.mem_leaves, ?_⟩
  · rw [next?_iterate, ← toList_eq_flatMap, hwhole]
  · intro other h
    rw [hwhole, hwhole, Value.leaves_congr h]

/-- The schema of a kennel under given keys: pointers in a list, one of them twice, and a title. -/
def kennelSchema (first second third fourth : String) : Value :=
  .object [(first, .null),
    (second, .array [.object [("$ref", .string "#/components/schemas/Dog")],
      .string "#/components/schemas/Cat", .array [], .string "#/components/schemas/Dog"]),
    (third, .string "see #/components/schemas/Cat"),
    (fourth, .string "#/components/schemas/Pup")]

/-- Pointers for keys are no references, and hide none. -/
theorem walk_inOrder_kennel :
    let plain := kennelSchema "default" "oneOf" "title" "x-next"
    let pointed := kennelSchema "#/components/schemas/Owner" "#/components/schemas/Dog" "$ref" ""
    (∀ path, pointed.stringAt? path = plain.stringAt? path) ∧
      (start pointed).toList = (start plain).toList ∧
      (start plain).toList.map SchemaRef.name = ["Dog", "Cat", "Dog", "Pup"] ∧
      (advance^[2] (start plain)).next?.map (SchemaRef.name ∘ Prod.fst) = some "Dog" := by
  intro plain pointed
  obtain ⟨hsteps, hwhole, -, -, hkeys⟩ := walk_inOrder plain
  have hsame : ∀ path, pointed.stringAt? path = plain.stringAt? path := by
    intro path
    cases path <;> rfl
  refine ⟨hsame, hkeys pointed hsame, ?_, ?_⟩
  · rw [hwhole]
    decide +kernel
  · rw [← Option.map_map, hsteps]
    decide +kernel

end Visitor

end SchemaBundle
