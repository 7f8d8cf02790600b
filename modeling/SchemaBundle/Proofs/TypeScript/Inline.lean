import SchemaBundle.Proofs.Schema.Interface
import SchemaBundle.Proofs.TypeScript.Marks

/-!
# Interfaces and inline types

A plain object is declared as an interface. Where the same schema stands inside another one, its
type is found through the whole chain of forms instead. Both give the same members: an interface
is declared only where that chain ends in an object without further properties that may not be
null. The marks of the members depend on where emission stands, so they are compared without them.

* `Scope.schemaType_of_isInterface`: the type of an interface is that of an object of its members
* `Scope.interface_agrees_inline`: what a declaration and an inline type have in common, wherever
  each of them is met
-/

namespace SchemaBundle.TypeScript

open Json (Value)

/-- Members without their marks. -/
def unmarked (members : List Member) : List Member :=
  mapMarksOfMembers (fun _ => 0) members

/-- Marks that are moved are left out all the same. -/
theorem unmarked_mapMarksOfMembers (f : Nat → Nat) (members : List Member) :
    unmarked (mapMarksOfMembers f members) = unmarked members := by
  rw [unmarked, mapMarksOfMembers_mapMarksOfMembers]
  rfl

/-- What two parts of emission come to: the same error, or results that are related. -/
inductive Agree {α β : Type} (related : α → β → Prop) :
    Except EmitError (α × Comments) → Except EmitError (β × Comments) → Prop where
  | error (error : EmitError) : Agree related (.error error) (.error error)
  | ok {a : α} {b : β} {comments others : Comments} (h : related a b) :
    Agree related (.ok (a, comments)) (.ok (b, others))

namespace Agree

variable {α β γ δ : Type} {related : α → β → Prop} {other : γ → δ → Prop}

/-- Results that are related may be carried on. -/
theorem bind_pure {emit : Emit α} {emit' : Emit β} {f : α → γ} {g : β → δ}
    {comments comments' : Comments} (h : Agree related (emit comments) (emit' comments'))
    (hnext : ∀ a b, related a b → other (f a) (g b)) :
    Agree other ((emit >>= fun a => pure (f a)) comments)
      ((emit' >>= fun b => pure (g b)) comments') := by
  show Agree other (emit comments >>= fun result => .ok (f result.1, result.2))
    (emit' comments' >>= fun result => .ok (g result.1, result.2))
  generalize emit comments = first at h ⊢
  generalize emit' comments' = second at h ⊢
  cases h with
  | error error => exact .error error
  | ok h => exact .ok (hnext _ _ h)

end Agree

namespace Scope

variable (scope : Scope) {schema : Value}

theorem shapeType_of_unmentioned (properties : List Property) :
    shapeType scope (.mk properties .unmentioned) = (do
      let members ← propertyMembers scope properties
      pure (.object members)) := by
  rw [shapeType, furtherType]
  rfl

/--
The type of a schema that can be an interface is an object of the members that the interface has.
-/
theorem schemaType_of_isInterface (h : schema.isInterface = true) :
    schemaType scope schema.schema = (do
      let members ← propertyMembers scope (mentionedProperties schema)
      pure (.object members)) := by
  obtain ⟨hnullable, hform⟩ := Value.schema_of_isInterface h
  have hformType : formType scope schema.schema.form = (do
      let members ← propertyMembers scope (mentionedProperties schema)
      pure (.object members)) := by
    rw [← shapeType_of_unmentioned]
    rcases hform with ⟨items, hform⟩ | hform
    · rw [hform, formType, kindType]
    · rw [hform, formType]
  cases hschema : schema.schema with
  | mk description form nullable =>
    rw [hschema] at hnullable hformType
    have hnull : nullable = false := hnullable
    have hown : formType scope form = _ := hformType
    rw [schemaType, hown, hnull]
    simp

theorem definitionBody_of_isInterface (h : schema.isInterface = true) :
    definitionBody scope schema = (do
      let members ← propertyMembers scope (mentionedProperties schema)
      pure (.interface members)) := by
  rw [definitionBody, if_pos h]

/-- Properties have the same members wherever they are met, except for the marks. -/
theorem propertyMembers_agree (properties : List Property) (first second : Comments) :
    Agree (fun members others => unmarked others = unmarked members)
      (propertyMembers scope properties first) (propertyMembers scope properties second) := by
  have hmoved : ∀ comments : Comments, propertyMembers scope properties comments =
      (propertyMembers scope properties ⟨0, []⟩).map fun result =>
        (mapMarksOfMembers (· + comments.next) result.1,
          result.2.moved comments.next comments.texts) := by
    intro comments
    have hmoves : Moves comments.next comments.texts (mapMarksOfMembers (· + comments.next))
        (propertyMembers scope properties) (propertyMembers scope properties) :=
      scope.propertyMembers_moves properties
    rw [← hmoves ⟨0, []⟩, ← Comments.eq_moved_start]
  rw [hmoved first, hmoved second]
  cases propertyMembers scope properties ⟨0, []⟩ with
  | error error => exact .error error
  | ok result =>
    refine .ok ?_
    rw [unmarked_mapMarksOfMembers, unmarked_mapMarksOfMembers]

/--
A schema that can be an interface means the same type wherever it stands. Whatever was emitted
before its declaration and before its inline type: its properties, its declaration and its inline
type fail with the same error or none of them does. Then the declaration is an interface of the
members of the properties, and the inline type an object of the same members, except for marks.
-/
theorem interface_agrees_inline (h : schema.isInterface = true) (first second : Comments) :
    Agree (fun members type => ∃ inline, type = .object inline ∧ unmarked inline = unmarked members)
        (propertyMembers scope (mentionedProperties schema) first)
        (schemaType scope schema.schema second) ∧
      Agree (fun body type => ∃ members inline, body = .interface members ∧
          type = .object inline ∧ unmarked inline = unmarked members)
        (definitionBody scope schema first) (schemaType scope schema.schema second) := by
  have hagree := propertyMembers_agree scope (mentionedProperties schema) first second
  have hmembers : Agree
      (fun members type => ∃ inline, type = .object inline ∧ unmarked inline = unmarked members)
      ((propertyMembers scope (mentionedProperties schema) >>= fun members => pure members) first)
      ((propertyMembers scope (mentionedProperties schema) >>= fun members =>
        pure (Ty.object members)) second) :=
    hagree.bind_pure fun members inline hsame => ⟨inline, rfl, hsame⟩
  rw [bind_pure] at hmembers
  rw [schemaType_of_isInterface scope h, definitionBody_of_isInterface scope h]
  exact ⟨hmembers,
    hagree.bind_pure fun members inline hsame => ⟨members, inline, rfl, rfl, hsame⟩⟩

end Scope

/-- A pet with a name, which it must have, and toys that may have notes. -/
def petShape : Value :=
  .object [
    ("type", .string "object"),
    ("required", .array [.string "name"]),
    ("properties", .object [
      ("name", .object
        [("type", .string "string"), ("description", .string "What it answers to.")]),
      ("toys", .object [("type", .string "array"), ("items", .object [
        ("properties", .object [("note", .object [("type", .string "string")])])])])])]

theorem interface_agrees_inline_pet :
    petShape.isInterface = true ∧
      Agree (fun body type => ∃ members inline, body = .interface members ∧
          type = .object inline ∧ unmarked inline = unmarked members)
        (definitionBody ⟨∅, true⟩ petShape ⟨2, []⟩)
        (schemaType ⟨∅, true⟩ petShape.schema ⟨7, [(6, "* Toys. ")]⟩) ∧
      ∃ members rest, definitionBody ⟨∅, true⟩ petShape ⟨2, []⟩ = .ok (.interface members, rest) ∧
        members = [.mk "name" false (.keyword .string) 2, .mk "toys" true
          (.array (.object [.mk "note" true (.keyword .string) 4])) 3] := by
  have hinterface : petShape.isInterface = true := by decide +kernel
  exact ⟨hinterface, (Scope.interface_agrees_inline ⟨∅, true⟩ hinterface _ _).2,
    _, _, by rfl, by rfl⟩

end SchemaBundle.TypeScript
