import Mathlib.Logic.Function.Iterate
import SchemaBundle.Proofs.Reference.Rewriting

/-!
# Rewriting in place

A value can be rewritten where it stands: a stack holds the places still to be gone to, a string is
replaced at its place, and in place of a collection come the places directly inside it, of which the
last is gone to first. This is another order than that of the document. The stack is empty after as
many steps as the value has nodes, so every node is gone to once, and then the value is what the
recursive definition makes of it.

* `Json.Value.modifyAt`: a change at one place of a value
* `Rewriter.advance`: one step
* `Rewriter.advance_iterate`: what the steps that a value at a place needs do to the whole
* `Json.Value.rewriteReferences_laws`: what rewriting keeps, and what it changes
-/

namespace SchemaBundle

open Json (Value)

/-! ## Changes in a list -/

section Lists

variable {α : Type} {f g : α → α} {items : List α}

theorem modify_congr {position : Nat}
    (h : ∀ item, items[position]? = some item → f item = g item) :
    items.modify position f = items.modify position g := by
  refine List.ext_getElem? fun i => ?_
  rw [List.getElem?_modify, List.getElem?_modify]
  by_cases hi : position = i
  · subst hi
    cases hitem : items[position]? with
    | none => rfl
    | some item => simp [h item hitem]
  · simp [hi]

/-- A change at each position in turn, from the last to the first, is a change everywhere. -/
theorem foldr_modify_range (f : α → α) (items : List α) :
    (List.range items.length).foldr (fun position items => items.modify position f) items =
      items.map f := by
  induction items with
  | nil => rfl
  | cons item rest ih =>
    have htail : (List.range rest.length).foldr
          (fun position items => items.modify (position + 1) f) (item :: rest) =
        item :: rest.map f := by
      rw [← ih]
      exact List.foldr_hom (item :: ·) fun _ _ => rfl
    rw [List.length_cons, List.range_succ_eq_map, List.foldr_cons, List.foldr_map, htail]
    rfl

end Lists

namespace Json.Value

/-! ## Places of a value -/

/-- The value at the end of a path of positions. -/
def valueAt? : List Nat → Value → Option Value
  | [], value => some value
  | position :: path, value => (Visitor.children value)[position]?.bind (valueAt? path)

/-- Changes the value at one position directly inside a collection. -/
def modifyChild (change : Value → Value) (position : Nat) : Value → Value
  | .array items => .array (items.modify position change)
  | .object entries => .object (entries.modify position (Prod.map id change))
  | .null => .null
  | .bool value => .bool value
  | .number value => .number value
  | .string text => .string text

/-- Changes the value at the end of a path of positions. -/
def modifyAt (change : Value → Value) : List Nat → Value → Value
  | [] => change
  | position :: path => modifyChild (modifyAt change path) position

variable {change other : Value → Value} {path : List Nat} {value node : Value}

theorem children_modifyChild (change : Value → Value) (position : Nat) (value : Value) :
    Visitor.children (modifyChild change position value) =
      (Visitor.children value).modify position change := by
  cases value with
  | array items => rfl
  | object entries =>
    refine List.ext_getElem? fun i => ?_
    simp only [modifyChild, Visitor.children, List.getElem?_map, List.getElem?_modify]
    cases entries[i]? with
    | none => rfl
    | some entry => by_cases h : position = i <;> simp [h]
  | _ => exact (List.modify_nil change position).symm

theorem modifyChild_modifyChild (change other : Value → Value) (position : Nat) (value : Value) :
    modifyChild other position (modifyChild change position value) =
      modifyChild (other ∘ change) position value := by
  cases value with
  | array items => exact congrArg Value.array (List.modify_modify_eq _ _ _ _)
  | object entries =>
    rw [modifyChild, modifyChild, modifyChild, List.modify_modify_eq, Prod.map_comp_map]
    rfl
  | _ => rfl

/-- Two changes at one place make one. -/
theorem modifyAt_modifyAt (change other : Value → Value) (path : List Nat) (value : Value) :
    modifyAt other path (modifyAt change path value) = modifyAt (other ∘ change) path value := by
  induction path generalizing value with
  | nil => rfl
  | cons position path ih =>
    rw [modifyAt, modifyAt, modifyChild_modifyChild]
    exact congrFun (congrArg (modifyChild · position) (funext ih)) value

/-- A change directly inside the value at a place is a change of that value. -/
theorem modifyAt_concat (change : Value → Value) (path : List Nat) (position : Nat) :
    modifyAt change (path ++ [position]) = modifyAt (modifyChild change position) path := by
  induction path with
  | nil => rfl
  | cons first path ih => rw [List.cons_append, modifyAt, modifyAt, ih]

theorem valueAt?_concat (path : List Nat) (position : Nat) (value : Value) :
    valueAt? (path ++ [position]) value =
      (valueAt? path value).bind fun node => (Visitor.children node)[position]? := by
  induction path generalizing value with
  | nil => exact Option.bind_fun_some _
  | cons first path ih =>
    rw [List.cons_append, valueAt?, valueAt?, Option.bind_assoc]
    exact congrArg _ (funext ih)

theorem valueAt?_modifyAt (change : Value → Value) (path : List Nat) (value : Value) :
    valueAt? path (modifyAt change path value) = (valueAt? path value).map change := by
  induction path generalizing value with
  | nil => rfl
  | cons position path ih =>
    rw [valueAt?, valueAt?, modifyAt, children_modifyChild, List.getElem?_modify_eq]
    cases (Visitor.children value)[position]? with
    | none => rfl
    | some child => exact ih child

theorem modifyChild_congr {position : Nat}
    (h : ∀ child, (Visitor.children value)[position]? = some child → change child = other child) :
    modifyChild change position value = modifyChild other position value := by
  cases value with
  | array items => exact congrArg Value.array (modify_congr h)
  | object entries =>
    refine congrArg Value.object (modify_congr fun entry hentry => Prod.ext rfl (h entry.2 ?_))
    rw [Visitor.children, List.getElem?_map, hentry, Option.map_some]
  | _ => rfl

/-- Only what a change does to the value at its place matters. -/
theorem modifyAt_congr (hat : valueAt? path value = some node) (h : change node = other node) :
    modifyAt change path value = modifyAt other path value := by
  induction path generalizing value with
  | nil =>
    cases hat
    exact h
  | cons position path ih =>
    refine modifyChild_congr fun child hchild => ih ?_
    rwa [valueAt?, hchild] at hat

theorem modifyAt_id (path : List Nat) (value : Value) : modifyAt id path value = value := by
  induction path generalizing value with
  | nil => rfl
  | cons position path ih =>
    rw [modifyAt, show modifyAt id path = id from funext ih]
    cases value with
    | array items => exact congrArg Value.array (List.modify_id position items)
    | object entries =>
      rw [modifyChild, Prod.map_id]
      exact congrArg Value.object (List.modify_id position entries)
    | _ => rfl

/-! ## One child after the other -/

/-- Changes the first children of a value, the last of them first. -/
def modifyChildren (change : Value → Value) (count : Nat) (value : Value) : Value :=
  (List.range count).foldr (modifyChild change) value

theorem modifyChildren_succ (change : Value → Value) (count : Nat) (value : Value) :
    modifyChildren change (count + 1) value =
      modifyChildren change count (modifyChild change count value) := by
  rw [modifyChildren, List.range_succ, List.foldr_append]
  rfl

/-- A change of all strings of a collection is one of all its children. -/
theorem modifyChildren_mapStrings (f : String → String) {value : Value}
    (h : ∀ text, value ≠ .string text) :
    modifyChildren (mapStrings f) (Visitor.children value).length value = value.mapStrings f := by
  cases value with
  | string text => exact absurd rfl (h text)
  | array items =>
    rw [mapStrings, mapStringsOfItems_eq_map, ← foldr_modify_range]
    exact List.foldr_hom Value.array fun _ _ => rfl
  | object entries =>
    have hmap : Entries.mapValues (mapStrings f) entries =
        entries.map (Prod.map id (mapStrings f)) := rfl
    rw [mapStrings, mapStringsOfEntries_eq_mapValues, hmap, ← foldr_modify_range,
      Visitor.children, List.length_map]
    exact List.foldr_hom Value.object fun _ _ => rfl
  | _ => rfl

theorem size_eq_children (value : Value) :
    value.size = sizeItems (Visitor.children value) + 1 := by
  cases value with
  | object entries => rw [size, Visitor.children, Visitor.sizeItems_map_snd]
  | _ => rfl

end Json.Value

/-- A rewriting in place: the value as it has become so far, and the places still to be gone to,
next first. -/
structure Rewriter where
  value : Value
  places : List (List Nat)

namespace Rewriter

open Json.Value

/-- The rewriting of a whole value. -/
def start (value : Value) : Rewriter :=
  ⟨value, [[]]⟩

/-- The first places directly inside a place, the last of them first. -/
def inside (place : List Nat) (count : Nat) : List (List Nat) :=
  (List.range count).reverse.map fun position => place ++ [position]

/-- Goes to the next place. -/
def advance : Rewriter → Rewriter
  | ⟨value, []⟩ => ⟨value, []⟩
  | ⟨value, place :: rest⟩ =>
    match value.valueAt? place with
    | some (.string text) =>
      ⟨value.modifyAt (fun _ => .string (pointAtDefinition text)) place, rest⟩
    | some node => ⟨value, inside place (Visitor.children node).length ++ rest⟩
    | none => ⟨value, rest⟩

variable {value node : Value} {place : List Nat} {rest : List (List Nat)}

theorem inside_succ (place : List Nat) (count : Nat) :
    inside place (count + 1) = (place ++ [count]) :: inside place count := by
  rw [inside, List.range_succ, List.reverse_append, List.map_append]
  rfl

theorem advance_string {text : String} (hat : value.valueAt? place = some (.string text)) :
    advance ⟨value, place :: rest⟩ = ⟨value.modifyAt rewriteReferences place, rest⟩ := by
  rw [advance, hat]
  exact congrArg (Rewriter.mk · rest) (modifyAt_congr hat rfl)

theorem advance_of_ne (hat : value.valueAt? place = some node) (h : ∀ text, node ≠ .string text) :
    advance ⟨value, place :: rest⟩ =
      ⟨value, inside place (Visitor.children node).length ++ rest⟩ := by
  rw [advance, hat]
  cases node with
  | string text => exact absurd rfl (h text)
  | _ => rfl

/-- A stretch of steps rewrites the value at a place and leaves the places behind it on the
stack. -/
def Rewrites (node : Value) : Prop :=
  ∀ (value : Value) (place : List Nat) (rest : List (List Nat)),
    value.valueAt? place = some node →
      advance^[node.size] ⟨value, place :: rest⟩ =
        ⟨value.modifyAt rewriteReferences place, rest⟩

/-- The steps that the first children of a value need rewrite those, from the last to the first. -/
theorem advance_iterate_inside (rest : List (List Nat)) (count : Nat)
    (hcount : count ≤ (Visitor.children node).length)
    (hat : value.valueAt? place = some node)
    (hchildren : ∀ child ∈ (Visitor.children node).take count, Rewrites child) :
    advance^[sizeItems ((Visitor.children node).take count)] ⟨value, inside place count ++ rest⟩ =
      ⟨value.modifyAt (modifyChildren rewriteReferences count) place, rest⟩ := by
  induction count generalizing value node with
  | zero => exact congrArg (Rewriter.mk · rest) (modifyAt_id place value).symm
  | succ count ih =>
    have hlt : count < (Visitor.children node).length := hcount
    have htake : (Visitor.children node).take (count + 1) =
        (Visitor.children node).take count ++ [(Visitor.children node)[count]] :=
      List.take_succ_eq_append_getElem hlt
    rw [htake] at hchildren ⊢
    have hchild : value.valueAt? (place ++ [count]) = some (Visitor.children node)[count] := by
      rw [valueAt?_concat, hat, Option.bind_some, List.getElem?_eq_getElem hlt]
    have hlast := hchildren _ (List.mem_append_right _ (List.mem_singleton.mpr rfl)) value
      (place ++ [count]) (inside place count ++ rest) hchild
    have hat' : (value.modifyAt (modifyChild rewriteReferences count) place).valueAt? place =
        some (modifyChild rewriteReferences count node) := by
      rw [valueAt?_modifyAt, hat, Option.map_some]
    -- the children before the last are still what they were
    have hsame : (Visitor.children (modifyChild rewriteReferences count node)).take count =
        (Visitor.children node).take count := by
      rw [children_modifyChild, List.take_modify]
      exact List.modify_eq_self (List.length_take_le _ _)
    have hrest := ih (by rw [children_modifyChild, List.length_modify]; omega) hat' fun child h =>
      hchildren child (List.mem_append_left _ (hsame ▸ h))
    rw [Visitor.sizeItems_append, sizeItems, sizeItems, Nat.add_zero, Function.iterate_add_apply,
      inside_succ, List.cons_append, hlast, modifyAt_concat, ← hsame, hrest, modifyAt_modifyAt]
    exact congrArg (fun change => Rewriter.mk (modifyAt change place value) rest)
      (funext fun node => (modifyChildren_succ _ _ _).symm)

/-- As many steps as the value at a place has nodes rewrite that value, and nothing else. -/
theorem advance_iterate (node : Value) : Rewrites node := by
  intro value place rest hat
  by_cases hstring : ∃ text, node = .string text
  · obtain ⟨text, rfl⟩ := hstring
    exact advance_string hat
  · have hne : ∀ text, node ≠ .string text := fun text h => hstring ⟨text, h⟩
    have hchildren : ∀ child ∈ Visitor.children node, Rewrites child := fun child hmem =>
      have := size_lt_of_mem_children hmem
      advance_iterate child
    have hinside := advance_iterate_inside rest (Visitor.children node).length (Nat.le_refl _) hat
      (by rwa [List.take_length])
    rw [List.take_length] at hinside
    rw [size_eq_children, Function.iterate_succ_apply, advance_of_ne hat hne, hinside]
    exact congrArg (Rewriter.mk · rest)
      (modifyAt_congr hat (modifyChildren_mapStrings pointAtDefinition hne))
termination_by node.size

end Rewriter

/-! ## What a rewriting does -/

namespace Json.Value

/-- No string of a rewritten value is a reference. -/
theorem references_rewriteReferences (value : Value) : value.rewriteReferences.references = [] := by
  rw [references_eq_filterMap, rewriteReferences, strings_mapStrings, List.filterMap_map,
    List.filterMap_eq_nil_iff]
  intro text _
  rw [Function.comp_apply, Option.eq_none_iff_forall_not_mem]
  exact fun ref href => pointAtDefinition_ne_pointer text ref (refOfString?_eq_some.mp href)

theorem rewriteReferences_idempotent (value : Value) :
    value.rewriteReferences.rewriteReferences = value.rewriteReferences := by
  rw [rewriteReferences, rewriteReferences, mapStrings_mapStrings]
  exact congrArg (mapStrings · value) (funext pointAtDefinition_idempotent)

/-- The strings of a rewritten value refer to what those of the value refer to. -/
theorem referredNames_rewriteReferences (value : Value) :
    value.rewriteReferences.strings.filterMap referredName? =
      value.strings.filterMap referredName? := by
  rw [rewriteReferences, strings_mapStrings, List.filterMap_map]
  exact congrArg (List.filterMap · value.strings) (funext referredName?_pointAtDefinition)

/-- Where no string pointed at a definition, a rewriting can be undone. -/
theorem mapStrings_pointAtSchema_rewriteReferences {value : Value}
    (h : ∀ text ∈ value.strings, ∀ ref, SchemaRef.parseDefinition text ≠ .ok ref) :
    value.rewriteReferences.mapStrings pointAtSchema = value := by
  rw [rewriteReferences, mapStrings_mapStrings]
  exact mapStrings_eq_self value fun text ht => pointAtSchema_pointAtDefinition (h text ht)

/-- Rewriting in place goes to every node once and ends with the value that differs from the first
in its references alone, each of which points at the definition of the same name. A walk finds no
reference in it, to rewrite it again changes nothing, its strings refer to the same names in the
same order, and where no string pointed at a definition before, the first value comes back when the
pointers to definitions are written as pointers to schemas. -/
theorem rewriteReferences_laws (value : Value) :
    Rewriter.advance^[value.size] (Rewriter.start value) = ⟨value.rewriteReferences, []⟩ ∧
      Alike PointsAtDefinition value value.rewriteReferences ∧
      (Visitor.start value.rewriteReferences).toList = [] ∧
      value.rewriteReferences.rewriteReferences = value.rewriteReferences ∧
      value.rewriteReferences.strings.filterMap referredName? =
        value.strings.filterMap referredName? ∧
      ((∀ text ∈ value.strings, ∀ ref, SchemaRef.parseDefinition text ≠ .ok ref) →
        value.rewriteReferences.mapStrings pointAtSchema = value) := by
  refine ⟨Rewriter.advance_iterate value value [] [] rfl,
    alike_mapStrings pointsAtDefinition_pointAtDefinition value, ?_,
    rewriteReferences_idempotent value, referredNames_rewriteReferences value,
    mapStrings_pointAtSchema_rewriteReferences⟩
  rw [Visitor.toList_start, references_rewriteReferences]

/-- A value with a reference and a text that is none is restored. -/
theorem rewriteReferences_laws_owner :
    (Value.object [("$ref", .string "#/components/schemas/Owner"),
        ("title", .string "Owner")]).rewriteReferences.mapStrings pointAtSchema =
      .object [("$ref", .string "#/components/schemas/Owner"), ("title", .string "Owner")] := by
  refine (rewriteReferences_laws _).2.2.2.2.2 fun text htext ref hparse => ?_
  have hnone : ∀ text ∈ ["#/components/schemas/Owner", "Owner"],
      (SchemaRef.parseDefinition text).toOption = none := by decide
  have := hnone text htext
  rw [hparse] at this
  cases this

end Json.Value

end SchemaBundle
