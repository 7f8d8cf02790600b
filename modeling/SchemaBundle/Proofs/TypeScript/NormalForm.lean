import SchemaBundle.Proofs.TypeScript.Precedence

/-!
# Unions in normal form

A union opens the unions among its members one level deep, and leaves out the members that it
already has. One level is enough as long as every type is built that way: then a union has two
members or more, none of which is a union and no two of which are the same, and opening it gives
members that need not be opened again. `Ty.Built` lists the ways in which emission builds types;
emission gives nothing else, and every way keeps the normal form.

* `Ty.alternatives_unionOf`: the members of a union are those of its types, in order of first
  appearance
* `Ty.unionOf_unionOf_cons`, `Ty.orNull_orNull`: unions of unions, and null added twice
* `Scope.schemaType_built`: what emission builds types with
* `unions_inNormalForm`: the normal form of all types that emission gives, and what follows from it
-/

namespace SchemaBundle.TypeScript

open Json (Value)

namespace Ty

/-! ## Adding new types -/

variable {type : Ty} {members types xs ys : List Ty}

theorem addNew_cons : addNew members (type :: types) =
    addNew (if type ∈ members then members else members ++ [type]) types := rfl

theorem addNew_append : addNew members (xs ++ ys) = addNew (addNew members xs) ys :=
  List.foldl_append

theorem nodup_addNew (h : members.Nodup) : (addNew members types).Nodup := by
  induction types generalizing members with
  | nil => exact h
  | cons type rest ih =>
    rw [addNew_cons]
    by_cases hmem : type ∈ members
    · rw [if_pos hmem]
      exact ih h
    · rw [if_neg hmem]
      refine ih (List.nodup_append.mpr ⟨h, by simp, ?_⟩)
      intro a ha b hb hab
      rw [List.mem_singleton.mp hb] at hab
      exact hmem (hab ▸ ha)

/-- Types that are all there already add nothing. -/
theorem addNew_of_subset (h : types ⊆ members) : addNew members types = members := by
  induction types with
  | nil => rfl
  | cons type rest ih =>
    rw [List.cons_subset] at h
    rw [addNew_cons, if_pos h.1]
    exact ih h.2

/-- The types that are added are those that are new, each where it appears first. -/
theorem addNew_eq_append (members types : List Ty) :
    addNew members types = members ++ (types.removeAll members).eraseDups := by
  induction types generalizing members with
  | nil => simp [addNew]
  | cons type rest ih =>
    rw [addNew_cons, ih]
    by_cases hmem : type ∈ members
    · simp [List.removeAll, hmem]
    · have hfilter : (rest.removeAll members).filter (fun other => !other == type) =
          rest.removeAll (members ++ [type]) := by
        simp only [List.removeAll, List.filter_filter]
        refine List.filter_congr fun other _ => ?_
        by_cases ho : other = type <;> simp [ho]
      rw [if_neg hmem, ← hfilter]
      simp [List.removeAll, hmem, List.eraseDups_cons]

theorem addNew_nil_eq_eraseDups (types : List Ty) : addNew [] types = types.eraseDups := by
  have hall : types.removeAll [] = types := by simp [List.removeAll]
  rw [addNew_eq_append, List.nil_append, hall]

/-- What is without repeats is added to nothing as it stands. -/
theorem addNew_nil_of_nodup (h : types.Nodup) : addNew [] types = types := by
  have hall : ∀ members : List Ty, (members ++ types).Nodup →
      addNew members types = members ++ types := by
    clear h
    intro members hnodup
    induction types generalizing members with
    | nil => rw [List.append_nil]; rfl
    | cons type rest ih =>
      have hnew : type ∉ members := by
        intro hmem
        exact (List.nodup_append.mp hnodup).2.2 type hmem type List.mem_cons_self rfl
      rw [List.append_cons] at hnodup ⊢
      rw [addNew_cons, if_neg hnew]
      exact ih _ hnodup
  exact hall [] h

/-! ## The normal form -/

/--
A union has two members or more, none of which is a union and no two of which are the same, and an
intersection has two members or more.
-/
def InNormalForm : Ty → Prop
  | .union members =>
    2 ≤ members.length ∧ (∀ member ∈ members, member.isUnion = false) ∧ members.Nodup
  | .intersection members => 2 ≤ members.length
  | _ => True

theorem alternatives_of_isUnion_eq_false (h : type.isUnion = false) :
    type.alternatives = [type] := by
  cases type with
  | union members => cases h
  | _ => rfl

namespace InNormalForm

/-- The alternatives of a type are no unions themselves. -/
theorem isUnion_alternatives (h : type.InNormalForm) :
    ∀ member ∈ type.alternatives, member.isUnion = false := by
  cases type with
  | union members => exact h.2.1
  | _ =>
    intro member hmem
    rw [List.mem_singleton.mp hmem]
    rfl

theorem alternatives_ne_nil (h : type.InNormalForm) : type.alternatives ≠ [] := by
  cases type with
  | union members =>
    intro hnil
    have hlength : 2 ≤ members.length := h.1
    rw [show members = [] from hnil] at hlength
    cases hlength
  | _ => exact List.cons_ne_nil _ _

end InNormalForm

/-- What a union of types is made of is no union. -/
theorem isUnion_addNew (h : ∀ type ∈ types, type.InNormalForm) :
    ∀ member ∈ addNew [] (types.flatMap alternatives), member.isUnion = false := by
  intro member hmem
  obtain ⟨type, ht, hmem⟩ := mem_unionMembers.mp hmem
  exact (h type ht).isUnion_alternatives member hmem

/-- Where a union of types is a union after all, it is in normal form. -/
theorem inNormalForm_of_unionOf_eq (h : ∀ type ∈ types, type.InNormalForm)
    (hunion : unionOf types = .union members) : (Ty.union members).InNormalForm := by
  have hmembers := isUnion_addNew h
  unfold unionOf at hunion
  split at hunion
  · cases hunion
  · next type heq =>
    -- a single member is no union, so it cannot stand for one
    have hsingle := hmembers type (by rw [heq]; exact List.mem_singleton_self type)
    rw [hunion] at hsingle
    cases hsingle
  · next hnil hone =>
    cases hunion
    refine ⟨?_, hmembers, nodup_addNew List.nodup_nil⟩
    rcases hm : addNew [] (types.flatMap alternatives) with _ | ⟨first, _ | ⟨second, rest⟩⟩
    · exact absurd hm hnil
    · exact absurd hm (hone first)
    · exact Nat.le_add_left 2 rest.length

theorem inNormalForm_of_intersectionOf_eq (h : intersectionOf types = .intersection types) :
    (Ty.intersection types).InNormalForm := by
  rcases types with _ | ⟨first, _ | ⟨second, rest⟩⟩
  · cases h
  · have hsize := congrArg sizeOf h
    simp only [intersectionOf, intersection.sizeOf_spec, List.cons.sizeOf_spec] at hsize
    omega
  · exact Nat.le_add_left 2 rest.length

/-! ## Laws of unions -/

/-- The members of a union are those of its types, in order of first appearance. -/
theorem alternatives_unionOf_eq_addNew (hne : xs ≠ []) (h : ∀ type ∈ xs, type.InNormalForm) :
    (unionOf xs).alternatives = addNew [] (xs.flatMap alternatives) := by
  have hmembers := isUnion_addNew h
  unfold unionOf
  split
  · next hnil =>
    exfalso
    obtain ⟨first, rest, rfl⟩ := List.exists_cons_of_ne_nil hne
    obtain ⟨member, hmem⟩ :=
      List.exists_mem_of_ne_nil _ (h first List.mem_cons_self).alternatives_ne_nil
    have hin := mem_unionMembers.mpr ⟨first, List.mem_cons_self (l := rest), hmem⟩
    rw [hnil] at hin
    cases hin
  · next type heq =>
    have hsingle := hmembers type (by rw [heq]; exact List.mem_singleton_self type)
    rw [alternatives_of_isUnion_eq_false hsingle, heq]
  · rfl

theorem alternatives_unionOf (hne : xs ≠ []) (h : ∀ type ∈ xs, type.InNormalForm) :
    (unionOf xs).alternatives = (xs.flatMap alternatives).eraseDups := by
  rw [alternatives_unionOf_eq_addNew hne h, addNew_nil_eq_eraseDups]

theorem unionOf_congr
    (h : addNew [] (xs.flatMap alternatives) = addNew [] (ys.flatMap alternatives)) :
    unionOf xs = unionOf ys := by
  rw [unionOf, unionOf, h]

/-- A union at the front may be opened, or left as it is. -/
theorem unionOf_unionOf_cons (hne : xs ≠ []) (h : ∀ type ∈ xs, type.InNormalForm)
    (ys : List Ty) : unionOf (unionOf xs :: ys) = unionOf (xs ++ ys) := by
  refine unionOf_congr ?_
  rw [List.flatMap_cons, alternatives_unionOf_eq_addNew hne h, List.flatMap_append, addNew_append,
    addNew_append, addNew_nil_of_nodup (nodup_addNew List.nodup_nil)]

/-- Adding null a second time adds nothing. -/
theorem orNull_orNull (h : type.InNormalForm) : type.orNull.orNull = type.orNull := by
  have hboth : ∀ other ∈ [type, .keyword .null], other.InNormalForm := by
    intro other ho
    rcases List.mem_cons.mp ho with rfl | ho
    · exact h
    · rw [List.mem_singleton.mp ho]
      trivial
  rw [orNull, orNull, unionOf_unionOf_cons (List.cons_ne_nil _ _) hboth]
  refine unionOf_congr ?_
  rw [List.flatMap_append, addNew_append]
  refine addNew_of_subset fun other ho => ?_
  exact mem_unionMembers.mpr ⟨.keyword .null, by simp, by simpa using ho⟩

end Ty

/-! ## What emission builds types with -/

namespace Ty

/-- The ways in which emission builds types. -/
inductive Built : Ty → Prop where
  | keyword (keyword : Keyword) : Built (.keyword keyword)
  | text (value : String) : Built (.text value)
  | number (value : Json.Number) : Built (.number value)
  | bool (value : Bool) : Built (.bool value)
  | named (name : String) : Built (.named name)
  | record {values : Ty} (h : Built values) : Built (.record values)
  | arrayOf {element : Ty} (h : Built element) : Built (arrayOf element)
  | unionOf {types : List Ty} (h : ∀ type ∈ types, Built type) : Built (unionOf types)
  | intersectionOf {types : List Ty} (h : ∀ type ∈ types, Built type) :
    Built (intersectionOf types)
  | object {members : List Member} (h : ∀ member ∈ members, Built member.type) :
    Built (.object members)

variable {type : Ty} {property : Ty → Prop}

/-- An array of a type has no types besides, except for itself and parentheses. -/
theorem everywhere_arrayOf_of (harray : ∀ element, property (.array element))
    (hparenthesized : ∀ inner, property (.parenthesized inner)) (h : type.Everywhere property) :
    (arrayOf type).Everywhere property := by
  cases type with
  | union members =>
    exact everywhere_array.mpr
      ⟨harray _, everywhere_parenthesized.mpr ⟨hparenthesized _, h⟩⟩
  | intersection members =>
    exact everywhere_array.mpr
      ⟨harray _, everywhere_parenthesized.mpr ⟨hparenthesized _, h⟩⟩
  | _ => exact everywhere_array.mpr ⟨harray _, h⟩

theorem Everywhere.self (h : type.Everywhere property) : property type := by
  refine h type ?_
  cases type <;> simp

/-- Every way to build types keeps unions and intersections in normal form, at any depth. -/
theorem Built.everywhere_inNormalForm (h : type.Built) : type.Everywhere InNormalForm := by
  induction h with
  | keyword keyword => exact everywhere_keyword.mpr trivial
  | text value => simp [Everywhere, InNormalForm]
  | number value => simp [Everywhere, InNormalForm]
  | bool value => simp [Everywhere, InNormalForm]
  | named name => exact everywhere_named.mpr trivial
  | record _ ih => exact everywhere_record.mpr ⟨trivial, ih⟩
  | arrayOf _ ih => exact everywhere_arrayOf_of (fun _ => trivial) (fun _ => trivial) ih
  | unionOf _ ih =>
    have hself := fun type ht => (ih type ht).self
    exact everywhere_unionOf trivial (fun _ heq => inNormalForm_of_unionOf_eq hself heq) ih
  | intersectionOf _ ih =>
    exact everywhere_intersectionOf trivial inNormalForm_of_intersectionOf_eq ih
  | object _ ih => exact everywhere_object.mpr ⟨trivial, ih⟩

theorem built_literal (value : Value) : (literal value).Built := by
  cases value with
  | null => exact .keyword .null
  | bool value => exact .bool value
  | number value => exact .number value
  | string text => exact .text text
  | array items => exact .keyword .unknown
  | object entries => exact .keyword .unknown

theorem Built.orNull (h : type.Built) : type.orNull.Built := by
  refine .unionOf fun other ho => ?_
  rcases List.mem_cons.mp ho with rfl | ho
  · exact h
  · rw [List.mem_singleton.mp ho]
    exact .keyword .null

theorem built_objectType {members : List Member} {values : Option Ty}
    (hmembers : ∀ member ∈ members, member.type.Built)
    (hvalues : ∀ type, values = some type → type.Built) : (objectType members values).Built := by
  cases values with
  | none => exact .object hmembers
  | some type =>
    have hrecord : (Ty.record type).Built := .record (hvalues type rfl)
    unfold objectType
    simp only
    split
    · exact hrecord
    · refine .intersectionOf fun part hp => ?_
      rcases List.mem_cons.mp hp with rfl | hp
      · exact .object hmembers
      · rw [List.mem_singleton.mp hp]
        exact hrecord

end Ty

namespace Scope

variable (scope : Scope)

theorem referenceType_built (target : Target) :
    Yields Ty.Built (referenceType scope target) := by
  cases target with
  | unsupported text => exact .throw _
  | schema name =>
    simp only [referenceType]
    split
    · exact .pure (.named _)
    · split
      · exact .throw _
      · exact .pure (.keyword .unknown)

theorem kindType_built {array object : Emit Ty} (harray : Yields Ty.Built array)
    (hobject : Yields Ty.Built object) (kind : Kind) :
    Yields Ty.Built (kindType array object kind) := by
  cases kind with
  | array => exact harray
  | object => exact hobject
  | _ => exact .pure (.keyword _)

mutual

/-- The type of a schema is built in the ways that are listed. -/
theorem schemaType_built : ∀ schema : Schema, Yields Ty.Built (schemaType scope schema)
  | .mk _ form nullable => by
    rw [schemaType]
    refine (formType_built form).bind fun type ht => .pure ?_
    cases nullable with
    | false => exact ht
    | true => exact ht.orNull

theorem formType_built : ∀ form : Form, Yields Ty.Built (formType scope form)
  | .unknown => by rw [formType]; exact .pure (.keyword .unknown)
  | .never => by rw [formType]; exact .pure (.keyword .never)
  | .reference target => by rw [formType]; exact scope.referenceType_built target
  | .constant value => by rw [formType]; exact .pure (Ty.built_literal value)
  | .choice values => by
    rw [formType]
    refine .pure (.unionOf fun type ht => ?_)
    obtain ⟨value, _, rfl⟩ := List.mem_map.mp ht
    exact Ty.built_literal value
  | .all parts none => by
    rw [formType]
    exact (schemaTypes_built parts).bind fun types ht => .pure (.intersectionOf ht)
  | .all parts (some shape) => by
    rw [formType]
    refine (schemaTypes_built parts).bind fun types ht => ?_
    refine (shapeType_built shape).bind fun own hown => .pure (.intersectionOf fun type hin => ?_)
    rcases List.mem_append.mp hin with hin | hin
    · exact ht type hin
    · rw [List.mem_singleton.mp hin]
      exact hown
  | .any variants => by
    rw [formType]
    exact (schemaTypes_built variants).bind fun types ht => .pure (.unionOf ht)
  | .kind kind items shape => by
    rw [formType]
    exact kindType_built (itemsType_built items) (shapeType_built shape) kind
  | .kinds kinds items shape => by
    rw [formType]
    have hkind := kindType_built (itemsType_built items) (shapeType_built shape)
    refine (Yields.mapM hkind kinds).bind fun types ht => .pure (.unionOf fun type hin => ?_)
    obtain ⟨_, _, hbuilt⟩ := exists_of_forall₂ ht hin
    exact hbuilt
  | .object shape => by rw [formType]; exact shapeType_built shape

theorem schemaTypes_built : ∀ schemas : List Schema,
    Yields (fun types => ∀ type ∈ types, Ty.Built type) (schemaTypes scope schemas)
  | [] => by rw [schemaTypes]; exact .pure (by simp)
  | schema :: rest => by
    rw [schemaTypes]
    refine (schemaType_built schema).bind fun type ht => ?_
    refine (schemaTypes_built rest).bind fun types hts => .pure ?_
    exact List.forall_mem_cons.mpr ⟨ht, hts⟩

theorem itemsType_built : ∀ items : Items, Yields Ty.Built (itemsType scope items)
  | .unspecified => by rw [itemsType]; exact .pure (.arrayOf (.keyword .unknown))
  | .each schema => by
    rw [itemsType]
    exact (schemaType_built schema).bind fun type ht => .pure (.arrayOf ht)
  | .tuple schemas => by
    rw [itemsType]
    exact (schemaTypes_built schemas).bind fun types ht => .pure (.arrayOf (.unionOf ht))

theorem shapeType_built : ∀ shape : Shape, Yields Ty.Built (shapeType scope shape)
  | .mk properties further => by
    rw [shapeType]
    refine (propertyMembers_built properties).bind fun members hm => ?_
    exact (furtherType_built further).bind fun values hv => .pure (Ty.built_objectType hm hv)

theorem propertyMembers_built : ∀ properties : List Property,
    Yields (fun members => ∀ member ∈ members, Ty.Built member.type)
      (propertyMembers scope properties)
  | [] => by rw [propertyMembers]; exact .pure (by simp)
  | .mk _ _ schema :: rest => by
    rw [propertyMembers]
    refine (Yields.trivial _).bind fun _ _ => ?_
    refine (schemaType_built schema).bind fun type ht => ?_
    refine (propertyMembers_built rest).bind fun members hm => .pure ?_
    exact List.forall_mem_cons.mpr ⟨ht, hm⟩

theorem furtherType_built : ∀ further : Further,
    Yields (fun values => ∀ type, values = some type → Ty.Built type) (furtherType scope further)
  | .unmentioned => by rw [furtherType]; exact .pure nofun
  | .anything => by
    rw [furtherType]
    refine .pure fun type heq => ?_
    cases heq
    exact .keyword .unknown
  | .each schema => by
    rw [furtherType]
    refine (schemaType_built schema).bind fun type ht => .pure fun other heq => ?_
    cases heq
    exact ht

end

end Scope

/-! ## The normal form of what is emitted -/

/--
In the type of any schema, unions and intersections are in normal form at any depth. Of types in
normal form a union at the front may be opened or not, the members of a union are those of its
types in order of first appearance, and null is added once.
-/
theorem unions_inNormalForm (scope : Scope) (schema : Schema) :
    (∀ comments type rest, schemaType scope schema comments = .ok (type, rest) →
      ∀ part ∈ type.types, part.InNormalForm) ∧
    (∀ xs ys : List Ty, xs ≠ [] → (∀ type ∈ xs ++ ys, type.InNormalForm) →
      Ty.unionOf (.unionOf xs :: ys) = .unionOf (xs ++ ys) ∧
        (Ty.unionOf xs).alternatives = (xs.flatMap Ty.alternatives).eraseDups) ∧
    ∀ type : Ty, type.InNormalForm → type.orNull.orNull = type.orNull := by
  refine ⟨fun comments type rest htype => ?_, fun xs ys hne h => ?_,
    fun type h => Ty.orNull_orNull h⟩
  · exact (scope.schemaType_built schema comments _ htype).everywhere_inNormalForm
  · have hxs : ∀ type ∈ xs, type.InNormalForm := fun type ht => h type (List.mem_append_left _ ht)
    exact ⟨Ty.unionOf_unionOf_cons hne hxs ys, Ty.alternatives_unionOf hne hxs⟩

/-- A tag that is one of two words or any text, and may be missing in more than one way. -/
def tagSchema : Value :=
  .object [("nullable", .bool true), ("oneOf", .array [
    .object [("enum", .array [.string "new", .null, .string "new"])],
    .object [("type", .array [.string "string", .string "null"])],
    .object [("anyOf", .array [])]])]

theorem unions_inNormalForm_tag :
    (∃ rest, schemaType ⟨∅, true⟩ tagSchema.schema ⟨1, []⟩ =
        .ok (.union [.text "new", .keyword .null, .keyword .string, .keyword .never], rest)) ∧
      (∀ part ∈ (Ty.union [.text "new", .keyword .null, .keyword .string,
        .keyword .never]).types, part.InNormalForm) ∧
      Ty.unionOf [.unionOf [.text "new", .text "old"], .text "new"] =
        .unionOf [.text "new", .text "old", .text "new"] ∧
      (Ty.keyword .string).orNull.orNull = (Ty.keyword .string).orNull := by
  obtain ⟨hnormal, hunion, hnull⟩ := unions_inNormalForm ⟨∅, true⟩ tagSchema.schema
  have htype : schemaType ⟨∅, true⟩ tagSchema.schema ⟨1, []⟩ =
      .ok (.union [.text "new", .keyword .null, .keyword .string, .keyword .never], ⟨1, []⟩) := by
    rfl
  have hwords : ∀ type ∈ [Ty.text "new", .text "old"] ++ [.text "new"], type.InNormalForm := by
    intro type ht
    simp only [List.cons_append, List.nil_append, List.mem_cons, List.not_mem_nil, or_false] at ht
    rcases ht with rfl | rfl | rfl
    all_goals trivial
  exact ⟨⟨_, htype⟩, hnormal _ _ _ htype,
    (hunion [.text "new", .text "old"] [.text "new"] (by simp) hwords).1, hnull _ trivial⟩

end SchemaBundle.TypeScript
