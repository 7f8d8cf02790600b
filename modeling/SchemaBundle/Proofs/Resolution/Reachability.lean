import Mathlib.Order.Lattice.Nat
import SchemaBundle.Proofs.Json.Strings
import SchemaBundle.Resolution

/-!
# Names that are reached

The names that a list of names leads to in a registry: those of the list, and whatever the schema
of a name that is reached refers to. The definition is inductive, so that a name is reached only
for one of these two reasons, and cycles and undefined names need no care. `ReachesIn` counts the
references followed on the way, and `distance` is the least such count.
-/

namespace SchemaBundle

/-- The names that a schema refers to are those of the pointers among its strings. -/
theorem mem_referencedNames_iff {schema : Json.Value} {name : String} :
    name ∈ referencedNames schema ↔
      ∃ ref : SchemaRef, ref.name = name ∧ ref.pointer ∈ schema.strings := by
  rw [referencedNames, Visitor.toList_start, List.mem_map]
  constructor
  · rintro ⟨ref, hr, hn⟩
    exact ⟨ref, hn, Json.Value.mem_references.mp hr⟩
  · rintro ⟨ref, hn, hp⟩
    exact ⟨ref, Json.Value.mem_references.mpr hp, hn⟩

namespace Registry

variable {registry : Registry} {names : List String} {name other : String}

/-- Whether a name has a schema. -/
def defines (registry : Registry) (name : String) : Bool :=
  (registry.schema? name).isSome

/-- The names that the schema of a name refers to. A name without a schema refers to none. -/
def namesIn (registry : Registry) (name : String) : List String :=
  ((registry.schema? name).map SchemaBundle.referencedNames).getD []

theorem namesIn_eq_nil (h : registry.schema? name = none) : registry.namesIn name = [] := by
  simp [namesIn, h]

theorem namesIn_of_schema {schema : Json.Value} (h : registry.schema? name = some schema) :
    registry.namesIn name = SchemaBundle.referencedNames schema := by
  simp [namesIn, h]

/-- Names without a schema add nothing to what a list of names refers to. -/
theorem flatMap_namesIn_filter (registry : Registry) (names : List String) :
    (names.filter registry.defines).flatMap registry.namesIn = names.flatMap registry.namesIn := by
  induction names with
  | nil => rfl
  | cons name rest ih =>
    cases hs : registry.schema? name with
    | none =>
      have hd : registry.defines name = false := by simp [defines, hs]
      simp [hd, ih, namesIn_eq_nil hs]
    | some schema =>
      have hd : registry.defines name = true := by simp [defines, hs]
      simp [hd, ih]

/-! ## Reaching a name -/

/-- A list of names leads to a name. -/
inductive Reaches (registry : Registry) (names : List String) : String → Prop where
  | start {name : String} (h : name ∈ names) : Reaches registry names name
  | step {name other : String} {schema : Json.Value} (h : Reaches registry names name)
      (hs : registry.schema? name = some schema)
      (ho : other ∈ SchemaBundle.referencedNames schema) : Reaches registry names other

/-- A name that is reached leads to the names of its schema. -/
theorem Reaches.namesIn (h : Reaches registry names name) (ho : other ∈ registry.namesIn name) :
    Reaches registry names other := by
  cases hs : registry.schema? name with
  | none =>
    rw [namesIn_eq_nil hs] at ho
    simp at ho
  | some schema =>
    rw [namesIn_of_schema hs] at ho
    exact Reaches.step h hs ho

/-- What schema names lead to are schema names. -/
theorem Reaches.isSchemaName (hnames : ∀ name ∈ names, isSchemaName name = true)
    (h : Reaches registry names name) : isSchemaName name = true := by
  induction h with
  | start h => exact hnames _ h
  | step _ _ ho _ =>
    obtain ⟨ref, hname, _⟩ := mem_referencedNames_iff.mp ho
    rw [← hname]
    exact ref.valid

/-! ## Distance -/

/-- A list of names leads to a name along so many references. -/
inductive ReachesIn (registry : Registry) (names : List String) : Nat → String → Prop where
  | start {name : String} (h : name ∈ names) : ReachesIn registry names 0 name
  | step {count : Nat} {name other : String} (h : ReachesIn registry names count name)
      (ho : other ∈ registry.namesIn name) : ReachesIn registry names (count + 1) other

theorem Reaches.exists_reachesIn (h : Reaches registry names name) :
    ∃ count, ReachesIn registry names count name := by
  induction h with
  | start h => exact ⟨0, .start h⟩
  | step _ hs ho ih =>
    obtain ⟨count, hc⟩ := ih
    exact ⟨count + 1, .step hc (by rw [namesIn_of_schema hs]; exact ho)⟩

/-- The least number of references that lead to a name. -/
noncomputable def distance (registry : Registry) (names : List String) (name : String) : Nat :=
  sInf {count | ReachesIn registry names count name}

/-- A name that is reached is reached along its distance, and along no fewer references. -/
theorem isLeast_distance (h : Reaches registry names name) :
    IsLeast {count | ReachesIn registry names count name} (registry.distance names name) :=
  ⟨Nat.sInf_mem h.exists_reachesIn, fun _ hc => Nat.sInf_le hc⟩

theorem distance_le {count : Nat} (h : ReachesIn registry names count name) :
    registry.distance names name ≤ count :=
  Nat.sInf_le h

/-- A reference leads at most one further. -/
theorem distance_le_succ (h : Reaches registry names name) (ho : other ∈ registry.namesIn name) :
    registry.distance names other ≤ registry.distance names name + 1 :=
  distance_le (.step (isLeast_distance h).1 ho)

end Registry

end SchemaBundle
