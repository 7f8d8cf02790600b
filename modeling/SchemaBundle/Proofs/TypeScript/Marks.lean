import SchemaBundle.Proofs.TypeScript.Nesting

/-!
# Marks that are counted on

Marks are counted on through the whole of a module, so the type of a schema depends on how many
were given out before it. It depends on nothing else of what came before: emission that starts
further on gives the same type, or the same error, with every mark further on by as much. Unions
compare the marks of their members, but marks that are all moved alike are told apart as before.

* `Ty.unionOf_mapMarks`: unions of types whose marks are exchanged one for one
* `Scope.schemaType_moves`: emission of a schema that starts further on
* `eq_moved_start`: every state of comments is the first one, moved
-/

namespace SchemaBundle.TypeScript

open Json (Value)

/-! ## Other marks -/

mutual

/-- A type with a function applied to the marks in it. -/
def Ty.mapMarks (f : Nat → Nat) : Ty → Ty
  | .record values => .record (values.mapMarks f)
  | .array element => .array (element.mapMarks f)
  | .parenthesized inner => .parenthesized (inner.mapMarks f)
  | .union members => .union (mapMarksOfList f members)
  | .intersection members => .intersection (mapMarksOfList f members)
  | .object members => .object (mapMarksOfMembers f members)
  | .keyword keyword => .keyword keyword
  | .text value => .text value
  | .number value => .number value
  | .bool value => .bool value
  | .named name => .named name

/-- Types with a function applied to the marks in them. -/
def mapMarksOfList (f : Nat → Nat) : List Ty → List Ty
  | [] => []
  | type :: rest => type.mapMarks f :: mapMarksOfList f rest

/-- Members with a function applied to their marks and the marks in them. -/
def mapMarksOfMembers (f : Nat → Nat) : List Member → List Member
  | [] => []
  | .mk name optional type mark :: rest =>
    .mk name optional (type.mapMarks f) (f mark) :: mapMarksOfMembers f rest

end

theorem mapMarksOfList_eq_map (f : Nat → Nat) (types : List Ty) :
    mapMarksOfList f types = types.map (Ty.mapMarks f) := by
  induction types with
  | nil => rfl
  | cons type rest ih => rw [mapMarksOfList, ih, List.map_cons]

mutual

theorem Ty.mapMarks_mapMarks (f g : Nat → Nat) : ∀ type : Ty,
    (type.mapMarks f).mapMarks g = type.mapMarks (g ∘ f)
  | .record values => by simp [Ty.mapMarks, Ty.mapMarks_mapMarks f g values]
  | .array element => by simp [Ty.mapMarks, Ty.mapMarks_mapMarks f g element]
  | .parenthesized inner => by simp [Ty.mapMarks, Ty.mapMarks_mapMarks f g inner]
  | .union members => by simp [Ty.mapMarks, mapMarksOfList_mapMarksOfList f g members]
  | .intersection members => by simp [Ty.mapMarks, mapMarksOfList_mapMarksOfList f g members]
  | .object members => by simp [Ty.mapMarks, mapMarksOfMembers_mapMarksOfMembers f g members]
  | .keyword _ | .text _ | .number _ | .bool _ | .named _ => rfl

theorem mapMarksOfList_mapMarksOfList (f g : Nat → Nat) : ∀ types : List Ty,
    mapMarksOfList g (mapMarksOfList f types) = mapMarksOfList (g ∘ f) types
  | [] => rfl
  | type :: rest => by
    simp [mapMarksOfList, Ty.mapMarks_mapMarks f g type, mapMarksOfList_mapMarksOfList f g rest]

theorem mapMarksOfMembers_mapMarksOfMembers (f g : Nat → Nat) : ∀ members : List Member,
    mapMarksOfMembers g (mapMarksOfMembers f members) = mapMarksOfMembers (g ∘ f) members
  | [] => rfl
  | .mk _ _ type _ :: rest => by
    simp [mapMarksOfMembers, Ty.mapMarks_mapMarks f g type,
      mapMarksOfMembers_mapMarksOfMembers f g rest]

end

mutual

theorem Ty.mapMarks_id : ∀ type : Ty, type.mapMarks id = type
  | .record values => by rw [Ty.mapMarks, Ty.mapMarks_id values]
  | .array element => by rw [Ty.mapMarks, Ty.mapMarks_id element]
  | .parenthesized inner => by rw [Ty.mapMarks, Ty.mapMarks_id inner]
  | .union members => by rw [Ty.mapMarks, mapMarksOfList_id members]
  | .intersection members => by rw [Ty.mapMarks, mapMarksOfList_id members]
  | .object members => by rw [Ty.mapMarks, mapMarksOfMembers_id members]
  | .keyword _ | .text _ | .number _ | .bool _ | .named _ => rfl

theorem mapMarksOfList_id : ∀ types : List Ty, mapMarksOfList id types = types
  | [] => rfl
  | type :: rest => by rw [mapMarksOfList, Ty.mapMarks_id type, mapMarksOfList_id rest]

theorem mapMarksOfMembers_id : ∀ members : List Member, mapMarksOfMembers id members = members
  | [] => rfl
  | .mk _ _ type _ :: rest => by
    rw [mapMarksOfMembers, Ty.mapMarks_id type, mapMarksOfMembers_id rest, id]

end

namespace Ty

variable {f : Nat → Nat} {members types : List Ty}

/-- Types are told apart as before if the marks in them are. -/
theorem mapMarks_injective (h : Function.Injective f) : Function.Injective (mapMarks f) := by
  obtain ⟨back, hback⟩ := h.hasLeftInverse
  have hid : back ∘ f = id := funext hback
  intro a b hab
  have hboth := congrArg (mapMarks back) hab
  rwa [mapMarks_mapMarks, mapMarks_mapMarks, hid, mapMarks_id, mapMarks_id] at hboth

theorem alternatives_mapMarks (type : Ty) :
    (type.mapMarks f).alternatives = type.alternatives.map (mapMarks f) := by
  cases type with
  | union members => exact mapMarksOfList_eq_map f members
  | _ => rfl

theorem addNew_mapMarks (h : Function.Injective f) :
    addNew (members.map (mapMarks f)) (types.map (mapMarks f)) =
      (addNew members types).map (mapMarks f) := by
  unfold addNew
  induction types generalizing members with
  | nil => rfl
  | cons type rest ih =>
    have hmem : type.mapMarks f ∈ members.map (mapMarks f) ↔ type ∈ members :=
      List.mem_map_of_injective (mapMarks_injective h)
    rw [List.map_cons, List.foldl_cons, List.foldl_cons, ← ih]
    by_cases hin : type ∈ members
    · rw [if_pos (hmem.mpr hin), if_pos hin]
    · rw [if_neg (fun hin' => hin (hmem.mp hin')), if_neg hin, List.map_append, List.map_singleton]

/-- A union drops the members that it dropped before, if their marks are exchanged one for one. -/
theorem unionOf_mapMarks (h : Function.Injective f) (types : List Ty) :
    unionOf (types.map (mapMarks f)) = (unionOf types).mapMarks f := by
  have hmembers : addNew [] ((types.map (mapMarks f)).flatMap alternatives) =
      (addNew [] (types.flatMap alternatives)).map (mapMarks f) := by
    rw [← addNew_mapMarks h, List.map_nil, List.flatMap_map, List.map_flatMap]
    simp only [alternatives_mapMarks]
  rw [unionOf, unionOf, hmembers]
  rcases addNew [] (types.flatMap alternatives) with _ | ⟨first, _ | ⟨second, rest⟩⟩
  · rfl
  · rfl
  · simp [mapMarks, mapMarksOfList, mapMarksOfList_eq_map]

theorem intersectionOf_mapMarks (types : List Ty) :
    intersectionOf (types.map (mapMarks f)) = (intersectionOf types).mapMarks f := by
  rcases types with _ | ⟨first, _ | ⟨second, rest⟩⟩
  · rfl
  · rfl
  · simp [intersectionOf, mapMarks, mapMarksOfList, mapMarksOfList_eq_map]

theorem arrayOf_mapMarks (type : Ty) :
    arrayOf (type.mapMarks f) = (arrayOf type).mapMarks f := by
  cases type <;> rfl

theorem orNull_mapMarks (h : Function.Injective f) (type : Ty) :
    (type.mapMarks f).orNull = type.orNull.mapMarks f :=
  unionOf_mapMarks h [type, .keyword .null]

theorem literal_mapMarks (value : Value) : (literal value).mapMarks f = literal value := by
  cases value <;> rfl

theorem objectType_mapMarks (members : List Member) (values : Option Ty) :
    objectType (mapMarksOfMembers f members) (values.map (mapMarks f)) =
      (objectType members values).mapMarks f := by
  cases values with
  | none => rfl
  | some type =>
    cases members with
    | nil => rfl
    | cons member rest =>
      obtain ⟨name, optional, inner, mark⟩ := member
      rfl

end Ty

/-! ## Emission that starts further on -/

/-- Comments with their marks further on, after those of earlier ones. -/
def Comments.moved (steps : Nat) (earlier : List (Nat × String)) (comments : Comments) :
    Comments :=
  ⟨comments.next + steps, earlier ++ comments.texts.map fun (mark, text) => (mark + steps, text)⟩

/-- Any comments are those that a part of emission could start with if it were the first. -/
theorem Comments.eq_moved_start (comments : Comments) :
    comments = Comments.moved comments.next comments.texts ⟨0, []⟩ := by
  simp [Comments.moved]

/-- Marks that are moved by the same number of steps stay apart. -/
theorem steps_injective (steps : Nat) : Function.Injective (· + steps) :=
  fun _ _ h => Nat.add_right_cancel h

/-- One part of emission, started further on, gives what another one gives, moved as well. -/
def Moves {α : Type} (steps : Nat) (earlier : List (Nat × String)) (move : α → α)
    (emit further : Emit α) : Prop :=
  ∀ comments, further (comments.moved steps earlier) =
    (emit comments).map fun result => (move result.1, result.2.moved steps earlier)

namespace Moves

variable {α β : Type} {steps : Nat} {earlier : List (Nat × String)} {move : α → α} {after : β → β}

theorem pure {a b : α} (h : b = move a) :
    Moves steps earlier move (Pure.pure a : Emit α) (Pure.pure b) := by
  intro comments
  rw [h]
  rfl

theorem throw (error : EmitError) :
    Moves steps earlier move (MonadExcept.throw error : Emit α) (MonadExcept.throw error) :=
  fun _ => rfl

theorem bind {emit further : Emit α} {next other : α → Emit β}
    (h : Moves steps earlier move emit further)
    (hnext : ∀ a, Moves steps earlier after (next a) (other (move a))) :
    Moves steps earlier after (emit >>= next) (further >>= other) := by
  intro comments
  show (further (comments.moved steps earlier) >>= fun s => other s.1 s.2) =
    (emit comments >>= fun s => next s.1 s.2).map _
  rw [h comments]
  cases emit comments with
  | error error => rfl
  | ok result => exact hnext result.1 result.2

theorem mapM {emit : α → Emit β} (h : ∀ a, Moves steps earlier after (emit a) (emit a))
    (items : List α) :
    Moves steps earlier (List.map after) (items.mapM emit) (items.mapM emit) := by
  induction items with
  | nil =>
    rw [List.mapM_nil]
    exact pure rfl
  | cons item rest ih =>
    rw [List.mapM_cons]
    exact (h item).bind fun _ => ih.bind fun _ => pure rfl

/-- A mark that is given out further on is further on. -/
theorem mark (description : Option String) :
    Moves steps earlier (· + steps) (mark description) (TypeScript.mark description) := by
  intro comments
  cases description with
  | none => simp [TypeScript.mark, Comments.moved, Except.map, Nat.add_right_comm]
  | some description => simp [TypeScript.mark, Comments.moved, Except.map, Nat.add_right_comm]

end Moves

namespace Scope

variable (scope : Scope) {steps : Nat} {earlier : List (Nat × String)}

theorem referenceType_moves (target : Target) :
    Moves steps earlier (Ty.mapMarks (· + steps)) (referenceType scope target)
      (referenceType scope target) := by
  cases target with
  | unsupported text => exact .throw _
  | schema name =>
    simp only [referenceType]
    split
    · exact .pure rfl
    · split
      · exact .throw _
      · exact .pure rfl

theorem kindType_moves {array object : Emit Ty}
    (harray : Moves steps earlier (Ty.mapMarks (· + steps)) array array)
    (hobject : Moves steps earlier (Ty.mapMarks (· + steps)) object object) (kind : Kind) :
    Moves steps earlier (Ty.mapMarks (· + steps)) (kindType array object kind)
      (kindType array object kind) := by
  cases kind with
  | array => exact harray
  | object => exact hobject
  | _ => exact .pure rfl

mutual

/-- The type of a schema whose emission starts further on has its marks further on. -/
theorem schemaType_moves : ∀ schema : Schema,
    Moves steps earlier (Ty.mapMarks (· + steps)) (schemaType scope schema)
      (schemaType scope schema)
  | .mk _ form nullable => by
    rw [schemaType]
    refine (formType_moves form).bind fun type => .pure ?_
    cases nullable with
    | false => rfl
    | true => exact Ty.orNull_mapMarks (steps_injective steps) type

theorem formType_moves : ∀ form : Form,
    Moves steps earlier (Ty.mapMarks (· + steps)) (formType scope form) (formType scope form)
  | .unknown => by rw [formType]; exact .pure rfl
  | .never => by rw [formType]; exact .pure rfl
  | .reference target => by rw [formType]; exact scope.referenceType_moves target
  | .constant value => by rw [formType]; exact .pure (Ty.literal_mapMarks value).symm
  | .choice values => by
    rw [formType]
    refine .pure ?_
    rw [← Ty.unionOf_mapMarks (steps_injective steps), List.map_map]
    exact congrArg _ (List.map_congr_left fun value _ => (Ty.literal_mapMarks value).symm)
  | .all parts none => by
    rw [formType]
    exact (schemaTypes_moves parts).bind fun types => .pure (Ty.intersectionOf_mapMarks types)
  | .all parts (some shape) => by
    rw [formType]
    refine (schemaTypes_moves parts).bind fun types => ?_
    refine (shapeType_moves shape).bind fun own => .pure ?_
    rw [← Ty.intersectionOf_mapMarks, List.map_append, List.map_singleton]
  | .any variants => by
    rw [formType]
    exact (schemaTypes_moves variants).bind fun types =>
      .pure (Ty.unionOf_mapMarks (steps_injective steps) types)
  | .kind kind items shape => by
    rw [formType]
    exact kindType_moves (itemsType_moves items) (shapeType_moves shape) kind
  | .kinds kinds items shape => by
    rw [formType]
    have hkind := kindType_moves (itemsType_moves items) (shapeType_moves shape)
    exact (Moves.mapM hkind kinds).bind fun types =>
      .pure (Ty.unionOf_mapMarks (steps_injective steps) types)
  | .object shape => by rw [formType]; exact shapeType_moves shape

theorem schemaTypes_moves : ∀ schemas : List Schema,
    Moves steps earlier (List.map (Ty.mapMarks (· + steps))) (schemaTypes scope schemas)
      (schemaTypes scope schemas)
  | [] => by rw [schemaTypes]; exact .pure rfl
  | schema :: rest => by
    rw [schemaTypes]
    exact (schemaType_moves schema).bind fun _ => (schemaTypes_moves rest).bind fun _ => .pure rfl

theorem itemsType_moves : ∀ items : Items,
    Moves steps earlier (Ty.mapMarks (· + steps)) (itemsType scope items) (itemsType scope items)
  | .unspecified => by rw [itemsType]; exact .pure rfl
  | .each schema => by
    rw [itemsType]
    exact (schemaType_moves schema).bind fun type => .pure (Ty.arrayOf_mapMarks type)
  | .tuple schemas => by
    rw [itemsType]
    refine (schemaTypes_moves schemas).bind fun types => .pure ?_
    rw [Ty.unionOf_mapMarks (steps_injective steps), Ty.arrayOf_mapMarks]

theorem shapeType_moves : ∀ shape : Shape,
    Moves steps earlier (Ty.mapMarks (· + steps)) (shapeType scope shape) (shapeType scope shape)
  | .mk properties further => by
    rw [shapeType]
    refine (propertyMembers_moves properties).bind fun members => ?_
    exact (furtherType_moves further).bind fun values =>
      .pure (Ty.objectType_mapMarks members values)

theorem propertyMembers_moves : ∀ properties : List Property,
    Moves steps earlier (mapMarksOfMembers (· + steps)) (propertyMembers scope properties)
      (propertyMembers scope properties)
  | [] => by rw [propertyMembers]; exact .pure rfl
  | .mk _ _ schema :: rest => by
    rw [propertyMembers]
    refine (Moves.mark schema.description).bind fun _ => ?_
    refine (schemaType_moves schema).bind fun _ => ?_
    exact (propertyMembers_moves rest).bind fun _ => .pure rfl

theorem furtherType_moves : ∀ further : Further,
    Moves steps earlier (Option.map (Ty.mapMarks (· + steps))) (furtherType scope further)
      (furtherType scope further)
  | .unmentioned => by rw [furtherType]; exact .pure rfl
  | .anything => by rw [furtherType]; exact .pure rfl
  | .each schema => by
    rw [furtherType]
    exact (schemaType_moves schema).bind fun _ => .pure rfl

end

end Scope

end SchemaBundle.TypeScript
