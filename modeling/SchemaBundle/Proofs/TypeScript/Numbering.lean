import Mathlib.Data.List.Nodup
import SchemaBundle.Proofs.TypeScript.References

/-!
# The bearers of comments

A comment belongs to a declaration or to a member of an object type, each of which bears a mark of
its own. Emission gives out marks in the order of the schemas, one for each definition and one for
each property that it meets; nothing of what it gives a mark to is dropped later, for a union drops
a type only if it is the same as another one, and no two types with marks are. So the bearers of a
module, in the order of its text, stand for the definitions and properties in the order in which
these are met, their marks count up one by one, and the comments that are kept are those of their
descriptions. `Numbers` says so of a stretch of emission, and stretches one after another make one.

* `Ty.bearers_unionOf`: a union has all bearers of its types, as long as their marks differ
* `Scope.schemaType_bears`: the bearers in the type of a schema
* `Scope.definitionDeclarations_bears`: the bearers in the declarations of definitions
-/

namespace SchemaBundle

open Json (Value)

/-! ## Origins in schemas -/

/-- What a bearer is made for. -/
inductive Origin where
  | definition (name : String) (schema : Value)
  | property (property : Property)

/-- The schema of a definition or of a property. -/
def Origin.schema : Origin → Schema
  | .definition _ schema => schema.schema
  | .property (.mk _ _ schema) => schema

mutual

/-- The properties that emission meets in a schema, each before those in its own schema. -/
def Schema.origins : Schema → List Origin
  | .mk _ form _ => form.origins

/-- The properties that emission meets in a form. -/
def Form.origins : Form → List Origin
  | .all parts none => originsOfSchemas parts
  | .all parts (some shape) => originsOfSchemas parts ++ shape.origins
  | .any variants => originsOfSchemas variants
  | .kind kind items shape => kind.select items.origins shape.origins
  | .kinds kinds items shape => kinds.flatMap fun kind => kind.select items.origins shape.origins
  | .object shape => shape.origins
  | .unknown | .never | .reference _ | .constant _ | .choice _ => []

/-- The properties that emission meets in the items of an array. -/
def Items.origins : Items → List Origin
  | .unspecified => []
  | .each schema => schema.origins
  | .tuple schemas => originsOfSchemas schemas

/-- The properties that emission meets in the shape of an object. -/
def Shape.origins : Shape → List Origin
  | .mk properties further => originsOfProperties properties ++ further.origins

/-- The properties that emission meets in further properties. -/
def Further.origins : Further → List Origin
  | .unmentioned | .anything => []
  | .each schema => schema.origins

/-- Properties, and those that emission meets in their schemas. -/
def originsOfProperties : List Property → List Origin
  | [] => []
  | .mk name required schema :: rest =>
    .property (.mk name required schema) :: (schema.origins ++ originsOfProperties rest)

/-- The properties that emission meets in a list of schemas. -/
def originsOfSchemas : List Schema → List Origin
  | [] => []
  | schema :: rest => schema.origins ++ originsOfSchemas rest

end

/-- Definitions, each before the properties that emission meets in it. -/
def originsOfDefinitions : Entries Value → List Origin
  | [] => []
  | (name, schema) :: rest =>
    .definition name schema :: (schema.schema.origins ++ originsOfDefinitions rest)

/-- The description of a value is that of the schema which it is read as. -/
theorem Json.Value.description_schema (value : Value) :
    value.schema.description = value.description? := by
  cases value with
  | object entries =>
    show Fields.text? (readingsOfEntries entries) "description" = _
    rw [Fields.text?, value?_readingsOfEntries]
    rfl
  | bool value => cases value <;> rfl
  | _ => rfl

namespace TypeScript

/-! ## Bearers in types -/

/-- What a comment can belong to. -/
inductive Bearer where
  | declaration (declaration : Declaration)
  | member (member : Member)

/-- The mark of a bearer. -/
def Bearer.mark : Bearer → Option Nat
  | .declaration declared => declared.mark
  | .member (.mk _ _ _ mark) => some mark

mutual

/-- The members in a type in the order of its text, each before those in its own type. -/
def Ty.bearers : Ty → List Bearer
  | .record values => values.bearers
  | .array element => element.bearers
  | .parenthesized inner => inner.bearers
  | .union members => bearersOfTypes members
  | .intersection members => bearersOfTypes members
  | .object members => bearersOfMembers members
  | .keyword _ | .text _ | .number _ | .bool _ | .named _ => []

/-- The members in a list of types. -/
def bearersOfTypes : List Ty → List Bearer
  | [] => []
  | type :: rest => type.bearers ++ bearersOfTypes rest

/-- Members, and those in their types. -/
def bearersOfMembers : List Member → List Bearer
  | [] => []
  | .mk name optional type mark :: rest =>
    .member (.mk name optional type mark) :: (type.bearers ++ bearersOfMembers rest)

end

/-- The members in what a declaration gives a name to. -/
def Body.bearers : Body → List Bearer
  | .interface members => bearersOfMembers members
  | .alias type => type.bearers

/-- A declaration and the members in it. -/
def Declaration.bearers (declaration : Declaration) : List Bearer :=
  .declaration declaration :: declaration.body.bearers

/-- The declarations of a module and the members in them, in the order of its text. -/
def Module.bearers (module : Module) : List Bearer :=
  module.declarations.flatMap Declaration.bearers

theorem bearersOfTypes_eq_flatMap (types : List Ty) :
    bearersOfTypes types = types.flatMap Ty.bearers := by
  induction types with
  | nil => rfl
  | cons type rest ih => rw [bearersOfTypes, ih, List.flatMap_cons]

namespace Ty

variable {type : Ty} {types members : List Ty}

/-- Opening a union leaves the members in it. -/
theorem flatMap_bearers_alternatives (type : Ty) :
    type.alternatives.flatMap bearers = type.bearers := by
  cases type with
  | union members => exact (bearersOfTypes_eq_flatMap members).symm
  | _ => exact List.flatMap_singleton ..

/-- Two types with different marks are not the same unless there are none in them. -/
theorem bearers_eq_nil_of_mem (hmem : type ∈ members)
    (h : (((members ++ type :: types).flatMap bearers).map Bearer.mark).Nodup) :
    type.bearers = [] := by
  rw [List.flatMap_append, List.flatMap_cons, List.map_append, List.map_append,
    List.nodup_append] at h
  refine List.eq_nil_iff_forall_not_mem.mpr fun bearer hbearer => ?_
  have hmark : bearer.mark ∈ (members.flatMap bearers).map Bearer.mark :=
    List.mem_map_of_mem (List.mem_flatMap.mpr ⟨type, hmem, hbearer⟩)
  exact h.2.2 _ hmark _ (List.mem_append_left _ (List.mem_map_of_mem hbearer)) rfl

/-- Leaving out types that are there already drops no members, as long as their marks differ. -/
theorem flatMap_bearers_addNew
    (h : (((members ++ types).flatMap bearers).map Bearer.mark).Nodup) :
    (addNew members types).flatMap bearers = (members ++ types).flatMap bearers := by
  induction types generalizing members with
  | nil => rw [List.append_nil]; rfl
  | cons type rest ih =>
    show (addNew (if type ∈ members then members else members ++ [type]) rest).flatMap bearers = _
    by_cases hmem : type ∈ members
    · have hnone := bearers_eq_nil_of_mem hmem h
      have hskip : (members ++ type :: rest).flatMap bearers =
          (members ++ rest).flatMap bearers := by
        rw [List.flatMap_append, List.flatMap_cons, hnone, List.nil_append, List.flatMap_append]
      rw [if_pos hmem, hskip]
      exact ih (hskip ▸ h)
    · rw [if_neg hmem, List.append_cons members type rest]
      exact ih (List.append_cons members type rest ▸ h)

/-- A union has the members in its types, as long as their marks differ. -/
theorem bearers_unionOf (h : ((types.flatMap bearers).map Bearer.mark).Nodup) :
    (unionOf types).bearers = types.flatMap bearers := by
  have hopen : (types.flatMap alternatives).flatMap bearers = types.flatMap bearers := by
    rw [List.flatMap_assoc]
    exact congrArg (List.flatMap · types) (funext flatMap_bearers_alternatives)
  have hall : (addNew [] (types.flatMap alternatives)).flatMap bearers = types.flatMap bearers := by
    rw [← hopen] at h ⊢
    exact flatMap_bearers_addNew h
  rw [← hall, unionOf]
  rcases addNew [] (types.flatMap alternatives) with _ | ⟨first, _ | ⟨second, rest⟩⟩
  · rfl
  · exact (List.flatMap_singleton ..).symm
  · exact bearersOfTypes_eq_flatMap _

theorem bearers_intersectionOf (types : List Ty) :
    (intersectionOf types).bearers = types.flatMap bearers := by
  rcases types with _ | ⟨first, _ | ⟨second, rest⟩⟩
  · rfl
  · exact (List.flatMap_singleton ..).symm
  · exact bearersOfTypes_eq_flatMap _

theorem bearers_arrayOf (type : Ty) : (arrayOf type).bearers = type.bearers := by
  cases type <;> rfl

theorem bearers_orNull (h : (type.bearers.map Bearer.mark).Nodup) :
    type.orNull.bearers = type.bearers := by
  have hboth : [type, .keyword .null].flatMap bearers = type.bearers := by
    simp [bearers]
  rw [orNull, bearers_unionOf (by rwa [hboth]), hboth]

theorem bearers_literal (value : Value) : (literal value).bearers = [] := by
  cases value <;> rfl

/-- The members in the type of further properties. -/
def bearersOfFurther (values : Option Ty) : List Bearer :=
  (values.map bearers).getD []

theorem bearers_objectType (members : List Member) (values : Option Ty) :
    (objectType members values).bearers = bearersOfMembers members ++ bearersOfFurther values := by
  cases values with
  | none => exact (List.append_nil _).symm
  | some type =>
    cases members with
    | nil => rfl
    | cons member rest =>
      rw [objectType, List.isEmpty_cons, if_neg Bool.false_ne_true, bearers_intersectionOf,
        List.flatMap_cons, List.flatMap_singleton]
      rfl

end Ty

/-! ## Stretches of emission -/

/-- The comments of descriptions whose marks count up from one. -/
def commentsFrom : Nat → List (Option String) → List (Nat × String)
  | _, [] => []
  | next, none :: rest => commentsFrom (next + 1) rest
  | next, some description :: rest =>
    (next, commentText description) :: commentsFrom (next + 1) rest

theorem commentsFrom_append (next : Nat) (first second : List (Option String)) :
    commentsFrom next (first ++ second) =
      commentsFrom next first ++ commentsFrom (next + first.length) second := by
  induction first generalizing next with
  | nil => rfl
  | cons description rest ih =>
    have hlength : next + (description :: rest).length = next + 1 + rest.length := by
      rw [List.length_cons, Nat.add_comm rest.length, Nat.add_assoc]
    cases description with
    | none => rw [List.cons_append, commentsFrom, commentsFrom, ih, hlength]
    | some description =>
      rw [List.cons_append, commentsFrom, commentsFrom, ih, hlength, List.cons_append]

/-- A bearer is made for a definition or a property: it is the declaration under the name of the
definition, or the member of the name of the property, and what it holds is what emission makes of
the schema when the mark of the bearer was the last to be given out. -/
inductive MadeFor (scope : Scope) : Origin → Bearer → Prop where
  | definition {name : String} {schema : Value} {body : Body} {mark : Nat}
      {texts : List (Nat × String)} {after : Comments}
      (h : definitionBody scope schema ⟨mark + 1, texts⟩ = .ok (body, after)) :
      MadeFor scope (.definition name schema)
        (.declaration ⟨(scope.names.find? name).getD "", body, some mark⟩)
  | property {name : String} {required : Bool} {schema : Schema} {type : Ty} {mark : Nat}
      {texts : List (Nat × String)} {after : Comments}
      (h : schemaType scope schema ⟨mark + 1, texts⟩ = .ok (type, after)) :
      MadeFor scope (.property (.mk name required schema))
        (.member (.mk name (!required) type mark))

/-- A stretch of emission, between two states of the comments, makes a bearer for each of a list of
definitions and properties, gives out marks to them one after another, and keeps a comment for each
that has a description. -/
structure Numbers (scope : Scope) (origins : List Origin) (bearers : List Bearer)
    (before after : Comments) : Prop where
  made : List.Forall₂ (MadeFor scope) origins bearers
  marks : bearers.map Bearer.mark = (List.range' before.next origins.length).map some
  next : after.next = before.next + origins.length
  texts : after.texts = before.texts ++
    commentsFrom before.next (origins.map fun origin => origin.schema.description)

namespace Numbers

variable {scope : Scope} {origins more : List Origin} {bearers others : List Bearer}
  {before middle after : Comments}

theorem nil (scope : Scope) (comments : Comments) : Numbers scope [] [] comments comments :=
  ⟨.nil, rfl, rfl, (List.append_nil _).symm⟩

theorem append (h : Numbers scope origins bearers before middle)
    (hmore : Numbers scope more others middle after) :
    Numbers scope (origins ++ more) (bearers ++ others) before after where
  made := List.rel_append h.made hmore.made
  marks := by
    rw [List.map_append, h.marks, hmore.marks, h.next, ← List.map_append, List.length_append,
      List.range'_append_1]
  next := by rw [hmore.next, h.next, List.length_append, Nat.add_assoc]
  texts := by
    rw [hmore.texts, h.texts, h.next, List.map_append, commentsFrom_append, List.length_map,
      List.append_assoc]

/-- A mark that is given out goes to a bearer, and what comes after it goes on from there. -/
theorem cons {origin : Origin} {bearer : Bearer} (hmade : MadeFor scope origin bearer)
    (hmark : bearer.mark = some before.next)
    (h : Numbers scope origins bearers
      ⟨before.next + 1, before.texts ++ commentsFrom before.next [origin.schema.description]⟩
      after) :
    Numbers scope (origin :: origins) (bearer :: bearers) before after := by
  have hone : Numbers scope [origin] [bearer] before
      ⟨before.next + 1, before.texts ++ commentsFrom before.next [origin.schema.description]⟩ :=
    ⟨.cons hmade .nil, congrArg (· :: []) hmark, rfl, rfl⟩
  exact hone.append h

/-- Bearers have different marks. -/
theorem nodup (h : Numbers scope origins bearers before after) :
    (bearers.map Bearer.mark).Nodup := by
  rw [h.marks]
  exact List.Nodup.map (fun _ _ => Option.some.inj) List.nodup_range'

end Numbers

/-! ## Bearers in what is emitted -/

/-- Wherever a part of emission starts, it makes bearers for a list of definitions and properties,
and they are those in its result. -/
def Bears {α : Type} (scope : Scope) (origins : List Origin) (bearers : α → List Bearer)
    (emit : Emit α) : Prop :=
  ∀ before a after, emit before = .ok (a, after) → Numbers scope origins (bearers a) before after

theorem mark_eq (description : Option String) (comments : Comments) :
    mark description comments = .ok (comments.next,
      ⟨comments.next + 1, comments.texts ++ commentsFrom comments.next [description]⟩) := by
  cases description with
  | none => rw [commentsFrom, commentsFrom, List.append_nil]; rfl
  | some description => rfl

namespace Bears

variable {α β γ : Type} {scope : Scope} {origins more : List Origin} {bearers : α → List Bearer}
  {others : β → List Bearer} {all : γ → List Bearer} {emit : Emit α} {next : Emit β}

theorem pure {a : α} (h : bearers a = []) : Bears scope [] bearers (Pure.pure a) := by
  intro before result after hr
  cases hr
  rw [h]
  exact .nil scope before

theorem throw (error : EmitError) : Bears scope origins bearers (MonadExcept.throw error) := by
  intro before result after hr
  cases hr

/-- What is made of a result has the bearers in it. That their marks differ is there to show so. -/
theorem map {f : α → β} (h : Bears scope origins bearers emit)
    (hf : ∀ a, ((bearers a).map Bearer.mark).Nodup → others (f a) = bearers a) :
    Bears scope origins others (emit >>= fun a => Pure.pure (f a)) := by
  intro before b after hr
  obtain ⟨a, middle, ha, hr⟩ := bind_eq_ok.mp hr
  cases hr
  have hnumbers := h before a after ha
  rwa [hf a hnumbers.nodup]

/-- What is made of two results has the bearers in both. -/
theorem append {f : α → β → γ} (h : Bears scope origins bearers emit)
    (hnext : Bears scope more others next) (hf : ∀ a b, all (f a b) = bearers a ++ others b) :
    Bears scope (origins ++ more) all (emit >>= fun a => next >>= fun b => Pure.pure (f a b)) := by
  intro before c after hr
  obtain ⟨a, middle, ha, hr⟩ := bind_eq_ok.mp hr
  obtain ⟨b, _, hb, hr⟩ := bind_eq_ok.mp hr
  cases hr
  rw [hf]
  exact (h before a middle ha).append (hnext middle b after hb)

theorem mapM {origins : α → List Origin} {emit : α → Emit β}
    (h : ∀ a, Bears scope (origins a) others (emit a)) (items : List α) :
    Bears scope (items.flatMap origins) (List.flatMap others) (items.mapM emit) := by
  induction items with
  | nil =>
    rw [List.mapM_nil]
    exact pure rfl
  | cons item rest ih =>
    rw [List.mapM_cons]
    exact (h item).append ih fun _ _ => rfl

/-- A bearer that a mark is given out to comes before those in what it holds, and these before
those of the rest. -/
theorem marked {origin : Origin} {bearer : Nat → α → Bearer} {f : Nat → α → β → γ}
    (h : Bears scope origins bearers emit) (hnext : Bears scope more others next)
    (hmade : ∀ {mark texts a after}, emit ⟨mark + 1, texts⟩ = .ok (a, after) →
      MadeFor scope origin (bearer mark a))
    (hmark : ∀ mark a, (bearer mark a).mark = some mark)
    (hf : ∀ mark a b, all (f mark a b) = bearer mark a :: (bearers a ++ others b)) :
    Bears scope (origin :: (origins ++ more)) all
      (TypeScript.mark origin.schema.description >>= fun mark => emit >>= fun a =>
        next >>= fun b => Pure.pure (f mark a b)) := by
  intro before c after hr
  obtain ⟨mark, start, hgiven, hr⟩ := bind_eq_ok.mp hr
  obtain ⟨a, middle, ha, hr⟩ := bind_eq_ok.mp hr
  obtain ⟨b, _, hb, hr⟩ := bind_eq_ok.mp hr
  cases hr
  cases (mark_eq _ _).symm.trans hgiven
  rw [hf]
  exact .cons (hmade ha) (hmark _ a) ((h _ a middle ha).append (hnext middle b after hb))

end Bears

namespace Scope

variable (scope : Scope)

theorem referenceType_bears (target : Target) :
    Bears scope [] Ty.bearers (referenceType scope target) := by
  cases target with
  | unsupported text => exact .throw _
  | schema name =>
    simp only [referenceType]
    split
    · exact .pure rfl
    · split
      · exact .throw _
      · exact .pure rfl

theorem kindType_bears {items shape : List Origin} {array object : Emit Ty}
    (harray : Bears scope items Ty.bearers array) (hobject : Bears scope shape Ty.bearers object)
    (kind : Kind) :
    Bears scope (kind.select items shape) Ty.bearers (kindType array object kind) := by
  cases kind with
  | array => exact harray
  | object => exact hobject
  | _ => exact .pure rfl

mutual

/-- The type of a schema has a member for each property that emission meets in the schema. -/
theorem schemaType_bears : ∀ schema : Schema,
    Bears scope schema.origins Ty.bearers (schemaType scope schema)
  | .mk _ form nullable => by
    rw [schemaType]
    refine (formType_bears form).map fun type hnodup => ?_
    cases nullable with
    | false => rfl
    | true => exact Ty.bearers_orNull hnodup

theorem formType_bears : ∀ form : Form, Bears scope form.origins Ty.bearers (formType scope form)
  | .unknown => by rw [formType]; exact .pure rfl
  | .never => by rw [formType]; exact .pure rfl
  | .reference target => by rw [formType]; exact scope.referenceType_bears target
  | .constant value => by rw [formType]; exact .pure (Ty.bearers_literal value)
  | .choice values => by
    rw [formType]
    have hnone : (values.map literal).flatMap Ty.bearers = [] := by
      simp [Ty.bearers_literal]
    exact .pure ((Ty.bearers_unionOf (by simp [hnone])).trans hnone)
  | .all parts none => by
    rw [formType]
    exact (schemaTypes_bears parts).map fun types _ => Ty.bearers_intersectionOf types
  | .all parts (some shape) => by
    rw [formType]
    refine (schemaTypes_bears parts).append (shapeType_bears shape) fun types own => ?_
    rw [Ty.bearers_intersectionOf, List.flatMap_append, List.flatMap_singleton]
  | .any variants => by
    rw [formType]
    exact (schemaTypes_bears variants).map fun _ hnodup => Ty.bearers_unionOf hnodup
  | .kind kind items shape => by
    rw [formType]
    exact scope.kindType_bears (itemsType_bears items) (shapeType_bears shape) kind
  | .kinds kinds items shape => by
    rw [formType]
    have hkind := scope.kindType_bears (itemsType_bears items) (shapeType_bears shape)
    exact (Bears.mapM hkind kinds).map fun _ hnodup => Ty.bearers_unionOf hnodup
  | .object shape => by rw [formType]; exact shapeType_bears shape

theorem schemaTypes_bears : ∀ schemas : List Schema,
    Bears scope (originsOfSchemas schemas) (List.flatMap Ty.bearers) (schemaTypes scope schemas)
  | [] => by rw [schemaTypes]; exact .pure rfl
  | schema :: rest => by
    rw [schemaTypes]
    exact (schemaType_bears schema).append (schemaTypes_bears rest) fun _ _ => rfl

theorem itemsType_bears : ∀ items : Items,
    Bears scope items.origins Ty.bearers (itemsType scope items)
  | .unspecified => by rw [itemsType]; exact .pure rfl
  | .each schema => by
    rw [itemsType]
    exact (schemaType_bears schema).map fun type _ => Ty.bearers_arrayOf type
  | .tuple schemas => by
    rw [itemsType]
    refine (schemaTypes_bears schemas).map fun types hnodup => ?_
    rw [Ty.bearers_arrayOf, Ty.bearers_unionOf hnodup]

theorem shapeType_bears : ∀ shape : Shape,
    Bears scope shape.origins Ty.bearers (shapeType scope shape)
  | .mk properties further => by
    rw [shapeType]
    exact (propertyMembers_bears properties).append (furtherType_bears further)
      Ty.bearers_objectType

theorem propertyMembers_bears : ∀ properties : List Property,
    Bears scope (originsOfProperties properties) bearersOfMembers
      (propertyMembers scope properties)
  | [] => by rw [propertyMembers]; exact .pure rfl
  | .mk name required schema :: rest => by
    rw [propertyMembers]
    exact Bears.marked (schemaType_bears schema) (propertyMembers_bears rest) .property
      (fun _ _ => rfl) fun _ _ _ => rfl

theorem furtherType_bears : ∀ further : Further,
    Bears scope further.origins Ty.bearersOfFurther (furtherType scope further)
  | .unmentioned => by rw [furtherType]; exact .pure rfl
  | .anything => by rw [furtherType]; exact .pure rfl
  | .each schema => by
    rw [furtherType]
    exact (schemaType_bears schema).map fun _ _ => rfl

end

/-- What an interface leaves out of a schema mentions no properties. -/
theorem originsOfProperties_of_isInterface {schema : Value} (h : schema.isInterface = true) :
    originsOfProperties (mentionedProperties schema) = schema.schema.origins := by
  have hform : schema.schema.origins = schema.schema.form.origins := by
    cases schema.schema
    rfl
  rw [hform]
  rcases (Value.schema_of_isInterface h).2 with ⟨items, heq⟩ | heq
  · rw [heq]
    exact (List.append_nil _).symm
  · rw [heq]
    exact (List.append_nil _).symm

theorem definitionBody_bears (schema : Value) :
    Bears scope schema.schema.origins Body.bearers (definitionBody scope schema) := by
  unfold definitionBody
  split
  · next hinterface =>
    rw [← originsOfProperties_of_isInterface hinterface]
    exact (scope.propertyMembers_bears _).map fun _ _ => rfl
  · exact (scope.schemaType_bears _).map fun _ _ => rfl

/-- The declarations of definitions, and the members in them, are those that emission makes for the
definitions and for the properties in these. -/
theorem definitionDeclarations_bears (definitions : Entries Value) :
    Bears scope (originsOfDefinitions definitions) (List.flatMap Declaration.bearers)
      (definitionDeclarations scope definitions) := by
  induction definitions with
  | nil =>
    rw [definitionDeclarations]
    exact .pure rfl
  | cons entry rest ih =>
    obtain ⟨name, schema⟩ := entry
    rw [definitionDeclarations, ← schema.description_schema]
    exact Bears.marked (scope.definitionBody_bears schema) ih .definition (fun _ _ => rfl)
      fun _ _ _ => rfl

end Scope

end TypeScript

end SchemaBundle
