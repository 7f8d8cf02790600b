import SchemaBundle.Json.Basic
import SchemaBundle.Reference.Basic

/-!
# References in a value

Every string of a value that is a pointer to a schema is a reference, whatever key it stands
under; keys themselves are not. A `Visitor` goes through a value step by step, and holds the
values it still has to go through on a stack. Main statement: what it finds is what the
recursive definition `Value.references` lists, in the order of the document.
-/

namespace SchemaBundle

open Json (Value)

namespace Json.Value

/-- The reference that a string is, if it is one. -/
def refOfString? (text : String) : Option SchemaRef :=
  (SchemaRef.parse text).toOption

mutual

/-- The references of a value, from left to right. -/
def references : Value → List SchemaRef
  | .string text => (refOfString? text).toList
  | .array items => referencesOfItems items
  | .object entries => referencesOfEntries entries
  | .null | .bool _ | .number _ => []

/-- The references of a list of items. -/
def referencesOfItems : List Value → List SchemaRef
  | [] => []
  | item :: rest => references item ++ referencesOfItems rest

/-- The references of the values of a list of entries. -/
def referencesOfEntries : List (String × Value) → List SchemaRef
  | [] => []
  | (_, value) :: rest => references value ++ referencesOfEntries rest

end

theorem referencesOfItems_eq_flatMap (items : List Value) :
    referencesOfItems items = items.flatMap references := by
  induction items with
  | nil => rfl
  | cons item rest ih => simp [referencesOfItems, ih]

theorem referencesOfEntries_eq_flatMap (entries : List (String × Value)) :
    referencesOfEntries entries = (entries.map Prod.snd).flatMap references := by
  induction entries with
  | nil => rfl
  | cons entry rest ih => simp [referencesOfEntries, ih]

end Json.Value

/-- A walk through a value: what is still to be visited, next first. -/
structure Visitor where
  stack : List Value

namespace Visitor

/-- A walk through a whole value. -/
def start (value : Value) : Visitor :=
  ⟨[value]⟩

/-- The number of nodes still to be visited. -/
def pending (visitor : Visitor) : Nat :=
  Value.sizeItems visitor.stack

/-- The values directly inside a value. -/
def children : Value → List Value
  | .array items => items
  | .object entries => entries.map Prod.snd
  | .null | .bool _ | .number _ | .string _ => []

theorem sizeItems_append (a b : List Value) :
    Value.sizeItems (a ++ b) = Value.sizeItems a + Value.sizeItems b := by
  induction a with
  | nil => simp [Value.sizeItems]
  | cons item rest ih => simp [Value.sizeItems, ih, Nat.add_assoc]

theorem sizeItems_map_snd (entries : List (String × Value)) :
    Value.sizeItems (entries.map Prod.snd) = Value.sizeEntries entries := by
  induction entries with
  | nil => rfl
  | cons entry rest ih => simp [Value.sizeItems, Value.sizeEntries, ih]

/-- What is inside a value is smaller than the value. -/
theorem sizeItems_children_lt (value : Value) :
    Value.sizeItems (children value) < value.size := by
  cases value <;> simp [children, Value.size, Value.sizeItems, sizeItems_map_snd]

/-- Goes on to the next reference. -/
def next? (visitor : Visitor) : Option (SchemaRef × Visitor) :=
  match visitor with
  | ⟨[]⟩ => none
  | ⟨.string text :: rest⟩ =>
    match Value.refOfString? text with
    | some ref => some (ref, ⟨rest⟩)
    | none => next? ⟨rest⟩
  | ⟨value :: rest⟩ => next? ⟨children value ++ rest⟩
termination_by visitor.pending
decreasing_by
  · simp [pending, Value.sizeItems, Value.size]
  · have := sizeItems_children_lt value
    simp only [pending, sizeItems_append, Value.sizeItems]
    omega

/-- What a walk still has to visit lies behind what it has found. -/
theorem pending_lt_of_next? {visitor after : Visitor} {ref : SchemaRef}
    (h : visitor.next? = some (ref, after)) : after.pending < visitor.pending := by
  fun_induction next? visitor with
  | case1 => simp at h
  | case2 rest text r hr =>
    simp only [Option.some.injEq, Prod.mk.injEq] at h
    simp [← h.2, pending, Value.sizeItems, Value.size]
  | case3 rest text hr ih =>
    have := ih h
    simp only [pending, Value.sizeItems, Value.size] at this ⊢
    omega
  | case4 value rest hv ih =>
    have := ih h
    have := sizeItems_children_lt value
    simp only [pending, sizeItems_append, Value.sizeItems] at *
    omega

/-- All references that a walk finds, in the order in which it finds them. -/
def toList (visitor : Visitor) : List SchemaRef :=
  match _h : visitor.next? with
  | some (ref, after) => ref :: toList after
  | none => []
termination_by visitor.pending
decreasing_by exact pending_lt_of_next? _h

theorem flatMap_references_children (value : Value) (h : ∀ text, value ≠ .string text) :
    (children value).flatMap Value.references = value.references := by
  cases value with
  | string text => exact absurd rfl (h text)
  | array items => simp [children, Value.references, Value.referencesOfItems_eq_flatMap]
  | object entries => simp [children, Value.references, Value.referencesOfEntries_eq_flatMap]
  | _ => rfl

/-- The next step finds the first reference of what is still to be visited. -/
theorem flatMap_references_stack (visitor : Visitor) :
    visitor.stack.flatMap Value.references =
      match visitor.next? with
      | some (ref, after) => ref :: after.stack.flatMap Value.references
      | none => [] := by
  fun_induction next? visitor with
  | case1 => rfl
  | case2 rest text ref hr => simp [Value.references, hr]
  | case3 rest text hr ih => simpa [Value.references, hr] using ih
  | case4 value rest hv ih =>
    rw [List.flatMap_append, flatMap_references_children value hv] at ih
    simpa using ih

/-- A walk finds the references of what is still to be visited, in order. -/
theorem toList_eq_flatMap (visitor : Visitor) :
    visitor.toList = visitor.stack.flatMap Value.references := by
  fun_induction toList visitor with
  | case1 visitor ref after h ih =>
    rw [flatMap_references_stack visitor, h, ih]
  | case2 visitor h => rw [flatMap_references_stack visitor, h]

/-- A walk through a whole value finds its references, in the order of the document. -/
theorem toList_start (value : Value) : (start value).toList = value.references := by
  simp [toList_eq_flatMap, start]

end Visitor

end SchemaBundle
