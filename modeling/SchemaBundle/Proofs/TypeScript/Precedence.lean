import SchemaBundle.Proofs.Schema.Interface
import SchemaBundle.Proofs.TypeScript.Nesting
import SchemaBundle.TypeScript.Printer

/-!
# Types that read as they were built

Unions, intersections and arrays are written without parentheses of their own. A reader puts an
intersection together before a union, and an array before both; so a type reads as it was built
when no element of an array is a union or an intersection and no member of an intersection is a
union. Arrays see to this themselves. Intersections do not: a part of a combination that offers
alternatives has a union as its type, and is read as if only its last alternative were combined.

* `emitted_grouped`: arrays are grouped in every module, intersections where combinations are plain
* `not_intersections_grouped`: a combination of a choice is not
-/

namespace SchemaBundle

/-! ## Combinations without alternatives -/

/-- Whether a form offers alternatives: its type may be a union. -/
def Form.offersAlternatives : Form → Bool
  | .choice _ | .any _ | .kinds _ _ _ => true
  | _ => false

/-- Whether a schema offers alternatives; null is one. -/
def Schema.offersAlternatives (schema : Schema) : Bool :=
  schema.nullable || schema.form.offersAlternatives

mutual

/-- Whether no combination in a schema has a part that offers alternatives. -/
def Schema.isPlain : Schema → Bool
  | .mk _ form _ => form.isPlain

/-- Whether no combination in a form has a part that offers alternatives. -/
def Form.isPlain : Form → Bool
  | .all parts none => !parts.any Schema.offersAlternatives && plainSchemas parts
  | .all parts (some shape) =>
    !parts.any Schema.offersAlternatives && plainSchemas parts && shape.isPlain
  | .any variants => plainSchemas variants
  | .kind _ items shape => items.isPlain && shape.isPlain
  | .kinds _ items shape => items.isPlain && shape.isPlain
  | .object shape => shape.isPlain
  | .unknown | .never | .reference _ | .constant _ | .choice _ => true

/-- Whether no combination in the items of an array has a part that offers alternatives. -/
def Items.isPlain : Items → Bool
  | .unspecified => true
  | .each schema => schema.isPlain
  | .tuple schemas => plainSchemas schemas

/-- Whether no combination in the shape of an object has a part that offers alternatives. -/
def Shape.isPlain : Shape → Bool
  | .mk properties further => plainProperties properties && further.isPlain

/-- Whether no combination in further properties has a part that offers alternatives. -/
def Further.isPlain : Further → Bool
  | .unmentioned | .anything => true
  | .each schema => schema.isPlain

/-- Whether no combination in properties has a part that offers alternatives. -/
def plainProperties : List Property → Bool
  | [] => true
  | .mk _ _ schema :: rest => schema.isPlain && plainProperties rest

/-- Whether no combination in schemas has a part that offers alternatives. -/
def plainSchemas : List Schema → Bool
  | [] => true
  | schema :: rest => schema.isPlain && plainSchemas rest

end

namespace TypeScript

open Json (Value)

/-! ## Grouping -/

namespace Ty

/-- Whether a type is a bare union. -/
def isUnion : Ty → Bool
  | .union _ => true
  | _ => false

/-- Whether a type is a bare union or intersection. -/
def isCompound : Ty → Bool
  | .union _ | .intersection _ => true
  | _ => false

/-- The elements of an array are read together. -/
def ArrayGrouped (type : Ty) : Prop :=
  ∀ element, type = .array element → element.isCompound = false

/-- The members of an intersection are read one by one. -/
def IntersectionGrouped (type : Ty) : Prop :=
  ∀ members, type = .intersection members → ∀ member ∈ members, member.isUnion = false

/-- A type is read as it was built, as far as arrays go, and under a condition altogether. -/
def GroupedIf (plain : Prop) (type : Ty) : Prop :=
  type.ArrayGrouped ∧ (plain → type.IntersectionGrouped)

variable {plain : Prop}

theorem everywhere_arrayOf {type : Ty} (h : type.Everywhere (GroupedIf plain)) :
    (arrayOf type).Everywhere (GroupedIf plain) := by
  have hparenthesized (inner : Ty) : GroupedIf plain (.parenthesized inner) := ⟨nofun, nofun⟩
  have harray (element : Ty) (he : element.isCompound = false) :
      GroupedIf plain (.array element) := ⟨fun _ heq => by cases heq; exact he, nofun⟩
  cases type with
  | union members =>
    exact everywhere_array.mpr ⟨harray _ rfl, everywhere_parenthesized.mpr ⟨hparenthesized _, h⟩⟩
  | intersection members =>
    exact everywhere_array.mpr ⟨harray _ rfl, everywhere_parenthesized.mpr ⟨hparenthesized _, h⟩⟩
  | _ => exact everywhere_array.mpr ⟨harray _ rfl, h⟩

theorem everywhere_unionOf_grouped {types : List Ty}
    (h : ∀ type ∈ types, type.Everywhere (GroupedIf plain)) :
    (unionOf types).Everywhere (GroupedIf plain) :=
  everywhere_unionOf ⟨nofun, nofun⟩ (fun _ _ => ⟨nofun, nofun⟩) h

/-- An intersection is grouped if none of the types that it is made of is a union. -/
theorem everywhere_intersectionOf_grouped {types : List Ty}
    (h : ∀ type ∈ types, type.Everywhere (GroupedIf plain))
    (hunion : plain → ∀ type ∈ types, type.isUnion = false) :
    (intersectionOf types).Everywhere (GroupedIf plain) := by
  refine everywhere_intersectionOf ⟨nofun, nofun⟩ (fun _ => ⟨nofun, ?_⟩) h
  intro hplain members heq
  cases heq
  exact hunion hplain

/-- Of types that are no unions the intersection is none. -/
theorem isUnion_intersectionOf {types : List Ty} (h : ∀ type ∈ types, type.isUnion = false) :
    (intersectionOf types).isUnion = false := by
  unfold intersectionOf
  split
  · rfl
  · next type => exact h type (List.mem_singleton_self type)
  · rfl

theorem isUnion_arrayOf (type : Ty) : (arrayOf type).isUnion = false := by
  cases type <;> rfl

end Ty

/-! ## Grouping in what is emitted -/

/-- What emission gives for a schema or form: grouped types, and unions only for alternatives. -/
def GroupedFor (plain : Prop) (alternatives : Bool) (type : Ty) : Prop :=
  type.Everywhere (Ty.GroupedIf plain) ∧ (plain → alternatives = false → type.isUnion = false)

theorem groupedFor_keyword {plain : Prop} {alternatives : Bool} (keyword : Keyword) :
    GroupedFor plain alternatives (.keyword keyword) :=
  ⟨Ty.everywhere_keyword.mpr ⟨nofun, nofun⟩, fun _ _ => rfl⟩

theorem groupedFor_literal {plain : Prop} {alternatives : Bool} (value : Value) :
    GroupedFor plain alternatives (literal value) := by
  constructor
  · cases value <;> simp [literal, Ty.Everywhere, Ty.GroupedIf, Ty.ArrayGrouped,
      Ty.IntersectionGrouped]
  · intro _ _
    cases value <;> rfl

/-- An object with further properties is an intersection of two types that are no unions. -/
theorem groupedFor_objectType {plain : Prop} {members : List Member} {values : Option Ty}
    (hmembers : ∀ member ∈ members, member.type.Everywhere (Ty.GroupedIf plain))
    (hvalues : ∀ type, values = some type → type.Everywhere (Ty.GroupedIf plain)) :
    GroupedFor plain false (objectType members values) := by
  have hobject : (Ty.object members).Everywhere (Ty.GroupedIf plain) :=
    Ty.everywhere_object.mpr ⟨⟨nofun, nofun⟩, hmembers⟩
  cases values with
  | none => exact ⟨hobject, fun _ _ => rfl⟩
  | some type =>
    have hrecord : (Ty.record type).Everywhere (Ty.GroupedIf plain) :=
      Ty.everywhere_record.mpr ⟨⟨nofun, nofun⟩, hvalues type rfl⟩
    have hboth : ∀ part ∈ [Ty.object members, .record type], part.isUnion = false := by
      simp [Ty.isUnion]
    unfold objectType
    simp only
    split
    · exact ⟨hrecord, fun _ _ => rfl⟩
    · refine ⟨Ty.everywhere_intersectionOf_grouped ?_ fun _ => hboth, fun _ _ => rfl⟩
      simpa using ⟨hobject, hrecord⟩

theorem groupedFor_arrayOf {plain : Prop} {alternatives : Bool} {type : Ty}
    (h : type.Everywhere (Ty.GroupedIf plain)) : GroupedFor plain alternatives (.arrayOf type) :=
  ⟨Ty.everywhere_arrayOf h, fun _ _ => Ty.isUnion_arrayOf type⟩

namespace Scope

variable (scope : Scope) {plain : Prop}

theorem referenceType_grouped (target : Target) :
    Yields (GroupedFor plain false) (referenceType scope target) := by
  cases target with
  | unsupported text => exact .throw _
  | schema name =>
    simp only [referenceType]
    split
    · exact .pure ⟨Ty.everywhere_named.mpr ⟨nofun, nofun⟩, fun _ _ => rfl⟩
    · split
      · exact .throw _
      · exact .pure (groupedFor_keyword _)

theorem kindType_grouped {array object : Emit Ty} (harray : Yields (GroupedFor plain false) array)
    (hobject : Yields (GroupedFor plain false) object) (kind : Kind) :
    Yields (GroupedFor plain false) (kindType array object kind) := by
  cases kind with
  | array => exact harray
  | object => exact hobject
  | _ => exact .pure (groupedFor_keyword _)

/-- The types of schemas that offer no alternatives are no unions. -/
theorem groupedFor_of_forall₂ {schemas : List Schema} {types : List Ty}
    (h : List.Forall₂ (fun schema type => GroupedFor plain (Schema.offersAlternatives schema) type)
      schemas types)
    (hplain : plain → (!schemas.any Schema.offersAlternatives) = true) :
    ∀ type ∈ types, GroupedFor plain false type := by
  intro type ht
  obtain ⟨schema, hs, hgrouped, hunion⟩ := exists_of_forall₂ h ht
  refine ⟨hgrouped, fun hp _ => hunion hp ?_⟩
  have hnone := hplain hp
  simp only [Bool.not_eq_true', List.any_eq_false, Bool.not_eq_true] at hnone
  exact hnone schema hs

/-- Types without alternatives of their own, put together. -/
theorem intersectionOf_grouped {types : List Ty}
    (h : ∀ type ∈ types, GroupedFor plain false type) :
    GroupedFor plain false (.intersectionOf types) :=
  ⟨Ty.everywhere_intersectionOf_grouped (fun type ht => (h type ht).1)
      fun hplain type ht => (h type ht).2 hplain rfl,
    fun hplain _ => Ty.isUnion_intersectionOf fun type ht => (h type ht).2 hplain rfl⟩

mutual

/-- The type of a schema is grouped, and a union only if the schema offers alternatives. -/
theorem schemaType_grouped : ∀ schema : Schema, (plain → schema.isPlain = true) →
    Yields (GroupedFor plain schema.offersAlternatives) (schemaType scope schema)
  | .mk _ form nullable, h => by
    rw [schemaType]
    refine (formType_grouped form h).bind fun type ht => .pure ?_
    cases nullable with
    | false =>
      refine ⟨ht.1, fun hplain halternatives => ht.2 hplain ?_⟩
      simpa [Schema.offersAlternatives, Schema.nullable, Schema.form] using halternatives
    | true =>
      refine ⟨Ty.everywhere_unionOf_grouped ?_, ?_⟩
      · simpa using ⟨ht.1, (@groupedFor_keyword plain false .null).1⟩
      · simp [Schema.offersAlternatives, Schema.nullable]

theorem formType_grouped : ∀ form : Form, (plain → form.isPlain = true) →
    Yields (GroupedFor plain form.offersAlternatives) (formType scope form)
  | .unknown, _ => by rw [formType]; exact .pure (groupedFor_keyword _)
  | .never, _ => by rw [formType]; exact .pure (groupedFor_keyword _)
  | .reference target, _ => by
    rw [formType]
    exact scope.referenceType_grouped target
  | .constant value, _ => by rw [formType]; exact .pure (groupedFor_literal value)
  | .choice values, _ => by
    rw [formType]
    refine .pure ⟨Ty.everywhere_unionOf_grouped ?_, nofun⟩
    intro type ht
    obtain ⟨value, _, rfl⟩ := List.mem_map.mp ht
    exact (@groupedFor_literal plain false value).1
  | .all parts none, h => by
    rw [formType]
    simp only [Form.isPlain, Bool.and_eq_true] at h
    refine (schemaTypes_grouped parts fun hp => (h hp).2).bind fun types ht => .pure ?_
    exact intersectionOf_grouped (groupedFor_of_forall₂ ht fun hp => (h hp).1)
  | .all parts (some shape), h => by
    rw [formType]
    simp only [Form.isPlain, Bool.and_eq_true] at h
    refine (schemaTypes_grouped parts fun hp => (h hp).1.2).bind fun types ht => ?_
    refine (shapeType_grouped shape fun hp => (h hp).2).bind fun own hown => .pure ?_
    refine intersectionOf_grouped fun type hin => ?_
    rcases List.mem_append.mp hin with hin | hin
    · exact groupedFor_of_forall₂ ht (fun hp => (h hp).1.1) type hin
    · rw [List.mem_singleton.mp hin]
      exact hown
  | .any variants, h => by
    rw [formType]
    refine (schemaTypes_grouped variants h).bind fun types ht => .pure ?_
    refine ⟨Ty.everywhere_unionOf_grouped fun type hin => ?_, nofun⟩
    obtain ⟨_, _, hgrouped⟩ := exists_of_forall₂ ht hin
    exact hgrouped.1
  | .kind kind items shape, h => by
    rw [formType]
    simp only [Form.isPlain, Bool.and_eq_true] at h
    exact kindType_grouped (itemsType_grouped items fun hp => (h hp).1)
      (shapeType_grouped shape fun hp => (h hp).2) kind
  | .kinds kinds items shape, h => by
    rw [formType]
    simp only [Form.isPlain, Bool.and_eq_true] at h
    have hkind := kindType_grouped (itemsType_grouped items fun hp => (h hp).1)
      (shapeType_grouped shape fun hp => (h hp).2)
    refine (Yields.mapM hkind kinds).bind fun types ht => .pure ?_
    refine ⟨Ty.everywhere_unionOf_grouped fun type hin => ?_, nofun⟩
    obtain ⟨_, _, hgrouped⟩ := exists_of_forall₂ ht hin
    exact hgrouped.1
  | .object shape, h => by
    rw [formType]
    exact shapeType_grouped shape h

theorem schemaTypes_grouped : ∀ schemas : List Schema, (plain → plainSchemas schemas = true) →
    Yields (List.Forall₂ (fun schema type =>
        GroupedFor plain (Schema.offersAlternatives schema) type) schemas)
      (schemaTypes scope schemas)
  | [], _ => by rw [schemaTypes]; exact .pure .nil
  | schema :: rest, h => by
    rw [schemaTypes]
    simp only [plainSchemas, Bool.and_eq_true] at h
    refine (schemaType_grouped schema fun hp => (h hp).1).bind fun type ht => ?_
    refine (schemaTypes_grouped rest fun hp => (h hp).2).bind fun types hts => .pure ?_
    exact .cons ht hts

theorem itemsType_grouped : ∀ items : Items, (plain → items.isPlain = true) →
    Yields (GroupedFor plain false) (itemsType scope items)
  | .unspecified, _ => by
    rw [itemsType]
    exact .pure (groupedFor_arrayOf (@groupedFor_keyword plain false _).1)
  | .each schema, h => by
    rw [itemsType]
    exact (schemaType_grouped schema h).bind fun type ht => .pure (groupedFor_arrayOf ht.1)
  | .tuple schemas, h => by
    rw [itemsType]
    refine (schemaTypes_grouped schemas h).bind fun types ht => .pure ?_
    refine groupedFor_arrayOf (Ty.everywhere_unionOf_grouped fun type hin => ?_)
    obtain ⟨_, _, hgrouped⟩ := exists_of_forall₂ ht hin
    exact hgrouped.1

theorem shapeType_grouped : ∀ shape : Shape, (plain → shape.isPlain = true) →
    Yields (GroupedFor plain false) (shapeType scope shape)
  | .mk properties further, h => by
    rw [shapeType]
    simp only [Shape.isPlain, Bool.and_eq_true] at h
    refine (propertyMembers_grouped properties fun hp => (h hp).1).bind fun members hm => ?_
    refine (furtherType_grouped further fun hp => (h hp).2).bind fun values hv => .pure ?_
    exact groupedFor_objectType hm hv

theorem propertyMembers_grouped : ∀ properties : List Property,
    (plain → plainProperties properties = true) →
    Yields (fun members => ∀ member ∈ members, member.type.Everywhere (Ty.GroupedIf plain))
      (propertyMembers scope properties)
  | [], _ => by rw [propertyMembers]; exact .pure (by simp)
  | .mk _ _ schema :: rest, h => by
    rw [propertyMembers]
    simp only [plainProperties, Bool.and_eq_true] at h
    refine (Yields.trivial _).bind fun _ _ => ?_
    refine (schemaType_grouped schema fun hp => (h hp).1).bind fun type ht => ?_
    refine (propertyMembers_grouped rest fun hp => (h hp).2).bind fun members hm => .pure ?_
    exact List.forall_mem_cons.mpr ⟨ht.1, hm⟩

theorem furtherType_grouped : ∀ further : Further, (plain → further.isPlain = true) →
    Yields (fun values => ∀ type, values = some type → type.Everywhere (Ty.GroupedIf plain))
      (furtherType scope further)
  | .unmentioned, _ => by rw [furtherType]; exact .pure nofun
  | .anything, _ => by
    rw [furtherType]
    refine .pure fun type heq => ?_
    cases heq
    exact (@groupedFor_keyword plain false _).1
  | .each schema, h => by
    rw [furtherType]
    refine (schemaType_grouped schema h).bind fun type ht => .pure fun other heq => ?_
    cases heq
    exact ht.1

end

/-! ## Grouping in modules -/

/-- The properties that an interface has are part of its schema. -/
theorem plainProperties_of_isInterface {schema : Value} (h : schema.isInterface = true)
    (hplain : schema.schema.isPlain = true) :
    plainProperties (mentionedProperties schema) = true := by
  have hform : schema.schema.form.isPlain = true := by
    cases hs : schema.schema with
    | mk description form nullable => rwa [hs] at hplain
  rcases (Value.schema_of_isInterface h).2 with ⟨items, heq⟩ | heq
  · rw [heq] at hform
    simp only [Form.isPlain, Shape.isPlain, Bool.and_eq_true] at hform
    exact hform.2.1
  · rw [heq] at hform
    simp only [Form.isPlain, Shape.isPlain, Bool.and_eq_true] at hform
    exact hform.1

theorem definitionBody_grouped (schema : Value) (h : plain → schema.schema.isPlain = true) :
    Yields (fun body => ∀ type ∈ body.types, type.GroupedIf plain)
      (definitionBody scope schema) := by
  unfold definitionBody
  split
  · next hinterface =>
    have hproperties : plain → plainProperties (mentionedProperties schema) = true :=
      fun hp => plainProperties_of_isInterface hinterface (h hp)
    refine (scope.propertyMembers_grouped _ hproperties).bind fun members hm => .pure ?_
    intro type ht
    obtain ⟨member, hin, ht⟩ := mem_typesOfMembers.mp ht
    exact hm member hin type ht
  · refine (scope.schemaType_grouped _ h).bind fun type ht => .pure ?_
    exact ht.1

theorem definitionDeclarations_grouped (definitions : Entries Value)
    (h : plain → ∀ entry ∈ definitions, entry.2.schema.isPlain = true) :
    Yields (fun declarations => ∀ declaration ∈ declarations,
        ∀ type ∈ declaration.body.types, type.GroupedIf plain)
      (definitionDeclarations scope definitions) := by
  induction definitions with
  | nil =>
    rw [definitionDeclarations]
    exact .pure (by simp)
  | cons entry rest ih =>
    obtain ⟨name, schema⟩ := entry
    have hfirst : plain → schema.schema.isPlain = true := fun hp => h hp _ List.mem_cons_self
    have hrest := ih fun hp other ho => h hp other (List.mem_cons_of_mem _ ho)
    rw [definitionDeclarations]
    refine (Yields.trivial _).bind fun _ _ => ?_
    refine (scope.definitionBody_grouped schema hfirst).bind fun body hb => ?_
    refine hrest.bind fun declarations hd => .pure ?_
    exact List.forall_mem_cons.mpr ⟨hb, hd⟩

end Scope

/--
In the module of any definitions the elements of arrays are no bare unions or intersections. The
members of intersections are no bare unions if no combination in the definitions has a part that
offers alternatives.
-/
theorem emitted_grouped {definitions : Dict Value} {root : String} {strict : Bool}
    {module : Module} (h : emitModule definitions root strict = .ok module) :
    (∀ type ∈ module.types, type.ArrayGrouped) ∧
      ((∀ key schema, definitions.find? key = some schema → schema.schema.isPlain = true) →
        ∀ type ∈ module.types, type.IntersectionGrouped) := by
  have hgrouped : ∀ type ∈ module.types, type.GroupedIf
      (∀ key schema, definitions.find? key = some schema → schema.schema.isPlain = true) := by
    unfold emitModule at h
    simp only at h
    split at h
    · cases h
    · next declarations comments he =>
      cases h
      have hplain : (∀ key schema, definitions.find? key = some schema →
          schema.schema.isPlain = true) →
          ∀ entry ∈ definitions.toList, entry.2.schema.isPlain = true :=
        fun hp entry he => hp entry.1 entry.2 (Entries.find?_of_mem definitions.nodup he)
      intro type ht
      obtain ⟨declaration, hd, ht⟩ := List.mem_flatMap.mp ht
      rcases List.mem_cons.mp hd with rfl | hd
      · simp [Body.types] at ht
      · exact Scope.definitionDeclarations_grouped _ _ hplain _ _ he declaration hd type ht
  exact ⟨fun type ht => (hgrouped type ht).1, fun hp type ht => (hgrouped type ht).2 hp⟩

/-- Visits are by keepers, who are persons with a key, or by others, who leave their names. -/
def visits : Dict Value :=
  .ofPairs [
    ("Visits", .object [("type", .string "array"),
      ("items", .object [("oneOf", .array [
        .object [("$ref", .string "#/definitions/Keeper")],
        .object [("type", .string "string")]])])]),
    ("Keeper", .object [("allOf", .array [
      .object [("$ref", .string "#/definitions/Person")],
      .object [("properties", .object [("key", .object [("type", .string "number")])])]])]),
    ("Person", .object [("type", .string "object")])]

theorem emitted_grouped_visits : ∃ module, emitModule visits "zoo" true = .ok module ∧
    (∀ type ∈ module.types, type.ArrayGrouped) ∧
      ∀ type ∈ module.types, type.IntersectionGrouped := by
  have hsome : (emitModule visits "zoo" true).toOption.isSome = true := by decide +kernel
  have hplain : ∀ entry ∈ visits.entries, entry.2.schema.isPlain = true := by decide +kernel
  cases hmodule : emitModule visits "zoo" true with
  | error error => simp [hmodule, Except.toOption] at hsome
  | ok module =>
    have hgrouped := emitted_grouped hmodule
    exact ⟨module, rfl, hgrouped.1,
      hgrouped.2 fun _ _ hs => hplain _ (Entries.mem_of_find? hs)⟩

/-- A size that is one of two texts, and besides is a text. -/
def sizes : Dict Value :=
  .ofPairs [("Size", .object [("allOf", .array [
    .object [("enum", .array [.string "s", .string "m"])],
    .object [("type", .string "string")]])])]

/-- A size that is one text, or another that besides is a text. -/
def looseSizes : Dict Value :=
  .ofPairs [("Size", .object [("oneOf", .array [
    .object [("const", .string "s")],
    .object [("allOf", .array [
      .object [("const", .string "m")],
      .object [("type", .string "string")]])]])])]

/-- A combination of a choice has a bare union in an intersection, and is written like the choice of
a combination. -/
theorem not_intersections_grouped :
    (∃ module, emitModule sizes "api" false = .ok module ∧
      .intersection [.union [.text "s", .text "m"], .keyword .string] ∈ module.types ∧
      ¬ ∀ type ∈ module.types, type.IntersectionGrouped) ∧
    emit sizes "api" false =
      .ok (header ++
        "export interface Api \x7b\n\x7d\nexport type Size = \"s\" | \"m\" & string;\n") ∧
    emit looseSizes "api" false = emit sizes "api" false := by
  have hmem : (emitModule sizes "api" false).toOption.any (fun module =>
      decide (Ty.intersection [.union [.text "s", .text "m"], .keyword .string] ∈ module.types)) =
        true := by
    decide +kernel
  refine ⟨?_, by decide +kernel, by decide +kernel⟩
  cases hmodule : emitModule sizes "api" false with
  | error error => simp [hmodule, Except.toOption] at hmem
  | ok module =>
    simp only [hmodule, Except.toOption, Option.any_some, decide_eq_true_eq] at hmem
    refine ⟨module, rfl, hmem, fun hgrouped => ?_⟩
    have hunion := hgrouped _ hmem _ rfl _ List.mem_cons_self
    cases hunion

end TypeScript

end SchemaBundle
