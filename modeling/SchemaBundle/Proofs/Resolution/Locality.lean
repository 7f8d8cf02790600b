import SchemaBundle.Proofs.Resolution.Closure

/-!
# Resolving looks at nothing else

A name is looked up when it is taken from the queue, and every name that is taken ends up in the
bundle or among the unresolved names. So a registry that says the same of these names gives the
same resolution, whatever else it defines and in whatever order: two runs stay in step, since each
name that one of them takes is a name on which the registries agree.

* `Worklist.run_congr`: two runs in step
* `Registry.resolveNames_local`: the registries that give one resolution
-/

namespace SchemaBundle

open Json (Value)

/-! ## Runs in step -/

namespace Worklist

variable {registry other : Registry} {work : Worklist} {name : String} {rest : List String}

theorem run_of_queue_eq_nil (registry : Registry) (h : work.queue = []) :
    work.run registry = work := by
  rw [run]
  split
  · rfl
  · next hq =>
    rw [h] at hq
    cases hq

theorem run_of_queue_eq_cons (registry : Registry) (h : work.queue = name :: rest) :
    work.run registry = (work.visit registry name rest).run registry := by
  rw [run]
  split
  · next hq =>
    rw [h] at hq
    cases hq
  · next first others hq =>
    rw [h] at hq
    cases hq
    rfl

/-- A name that was taken from the queue is not put back. -/
theorem visited_subset_run (registry : Registry) (work : Worklist) :
    work.visited ⊆ (work.run registry).visited := by
  fun_induction run registry work with
  | case1 work h => exact List.Subset.refl _
  | case2 work name rest h ih =>
    rw [visited_visit] at ih
    exact fun other ho => ih (List.mem_append_left _ ho)

/-- The first name in the queue is taken. -/
theorem mem_visited_run (h : work.queue = name :: rest) :
    name ∈ (work.run registry).visited := by
  rw [run_of_queue_eq_cons registry h]
  refine visited_subset_run registry _ ?_
  rw [visited_visit]
  exact List.mem_append_right _ (List.mem_singleton_self name)

/-- Of a registry, only the schema of the name that is taken counts. -/
theorem visit_congr (h : other.schema? name = registry.schema? name) (rest : List String)
    (work : Worklist) : work.visit other name rest = work.visit registry name rest := by
  unfold visit
  rw [h]

/-- Two registries that agree on the names taken in one run give the same run. -/
theorem run_congr
    (h : ∀ name ∈ (work.run registry).visited, other.schema? name = registry.schema? name) :
    work.run other = work.run registry := by
  fun_induction run registry work with
  | case1 work hq => exact run_of_queue_eq_nil other hq
  | case2 work name rest hq ih =>
    have hname : other.schema? name = registry.schema? name := by
      refine h name ?_
      rw [← run_of_queue_eq_cons registry hq]
      exact mem_visited_run hq
    rw [run_of_queue_eq_cons other hq, visit_congr hname]
    exact ih h

end Worklist

/-! ## Registries that give one resolution -/

namespace Registry

variable {registry other : Registry} {names : List String}

/-- A registry says the same as a resolution: it has the schemas of the bundle, and none for a name
that is unresolved. -/
structure AgreesWith (registry : Registry) (resolution : Resolution) : Prop where
  schemas : ∀ name schema, resolution.bundle.find? name = some schema →
    registry.schema? name = some schema
  undefined : ∀ name ∈ resolution.unresolved, registry.schema? name = none

theorem resolveNames_congr
    (h : ∀ name, registry.Reaches names name → other.schema? name = registry.schema? name) :
    other.resolveNames names = registry.resolveNames names := by
  have hrun : (Worklist.start names).run other = (Worklist.start names).run registry :=
    Worklist.run_congr fun name hn => h name (mem_discovered.mp hn)
  unfold resolveNames
  rw [hrun]

/-- What a resolution says of the names that are reached is what its registry says. -/
theorem AgreesWith.schema?_eq (h : other.AgreesWith (registry.resolveNames names)) {name : String}
    (hname : registry.Reaches names name) : other.schema? name = registry.schema? name := by
  cases hs : registry.schema? name with
  | none =>
    have hundefined : registry.defines name = false := by simp [defines, hs]
    exact h.undefined name (mem_unresolved_resolveNames.mpr ⟨hname, hundefined⟩)
  | some schema =>
    exact h.schemas name schema ((find?_resolveNames registry names name schema).mpr ⟨hname, hs⟩)

theorem agreesWith_resolveNames (registry : Registry) (names : List String) :
    registry.AgreesWith (registry.resolveNames names) where
  schemas name schema h := ((find?_resolveNames registry names name schema).mp h).2
  undefined name h := by
    have hundefined := (mem_unresolved_resolveNames.mp h).2
    simpa [defines] using hundefined

theorem resolveNames_eq_iff : other.resolveNames names = registry.resolveNames names ↔
    other.AgreesWith (registry.resolveNames names) := by
  constructor
  · intro h
    rw [← h]
    exact agreesWith_resolveNames other names
  · exact fun h => resolveNames_congr fun name hn => h.schema?_eq hn

/-- The schemas of a bundle alone are a registry that agrees with the resolution. -/
theorem ofSchemas_agreesWith (registry : Registry) (names : List String) :
    (ofSchemas (registry.resolveNames names).bundle.toList).AgreesWith
      (registry.resolveNames names) := by
  have hschema (name : String) :
      (ofSchemas (registry.resolveNames names).bundle.toList).schema? name =
        (registry.resolveNames names).bundle.find? name := by
    show Entries.find? name (Entries.ofPairs (registry.resolveNames names).bundle.entries) = _
    rw [Entries.ofPairs_of_nodup (registry.resolveNames names).bundle.nodup]
    rfl
  refine ⟨fun name schema h => by rw [hschema, h], fun name h => ?_⟩
  rw [hschema]
  have hnot : name ∉ (registry.resolveNames names).bundle.keys :=
    fun hin => (isClosure_resolveNames registry names).disjoint name hin h
  exact Entries.find?_eq_none.mpr hnot

/-- With further schemas and in another order, a registry has the same schema for a name that is
not among the further ones. -/
theorem schema?_of_perm {more : Entries Value}
    (h : other.schemas.toList.Perm (registry.schemas.toList ++ more)) {name : String}
    (hname : name ∉ Entries.keys more) : other.schema? name = registry.schema? name := by
  cases hs : registry.schema? name with
  | none =>
    have hnot : name ∉ Entries.keys registry.schemas.entries := Entries.find?_eq_none.mp hs
    refine Entries.find?_eq_none.mpr fun hin => ?_
    have hkeys := (h.map Prod.fst).mem_iff.mp hin
    rw [List.map_append] at hkeys
    rcases List.mem_append.mp hkeys with hin | hin
    · exact hnot hin
    · exact hname hin
  | some schema =>
    have hin : (name, schema) ∈ registry.schemas.toList := Entries.mem_of_find? hs
    exact Entries.find?_of_mem other.schemas.nodup
      (h.mem_iff.mpr (List.mem_append_left more hin))

/--
A registry gives the resolution that another gives exactly if it has the schemas of that bundle and
none for the unresolved names. So the bundle alone resolves to itself, and neither the order of the
schemas matters nor schemas that are not reached.
-/
theorem resolveNames_local (registry : Registry) (names : List String) :
    (∀ other : Registry, other.AgreesWith (registry.resolveNames names) ↔
      other.resolveNames names = registry.resolveNames names) ∧
    (ofSchemas (registry.resolveNames names).bundle.toList).resolveNames names =
      registry.resolveNames names ∧
    ∀ (other : Registry) (more : Entries Value),
      other.schemas.toList.Perm (registry.schemas.toList ++ more) →
      (∀ name ∈ Entries.keys more, ¬ registry.Reaches names name) →
      other.resolveNames names = registry.resolveNames names := by
  refine ⟨fun other => resolveNames_eq_iff.symm, ?_, fun other more hperm hmore => ?_⟩
  · exact resolveNames_eq_iff.mpr (ofSchemas_agreesWith registry names)
  · refine resolveNames_congr fun name hname => schema?_of_perm hperm fun hin => ?_
    exact hmore name hin hname

/-- Pets have owners, who have pets, and vets, which are not defined. -/
def household : Registry :=
  .ofSchemas [
    ("Pet", .array [.string "#/components/schemas/Owner", .string "#/components/schemas/Vet"]),
    ("Owner", .array [.string "#/components/schemas/Pet"])]

/-- The household in another order, with a stray to which nothing refers. -/
def householdWithStray : Registry :=
  .ofSchemas [
    ("Stray", .array [.string "#/components/schemas/Pet"]),
    ("Owner", .array [.string "#/components/schemas/Pet"]),
    ("Pet", .array [.string "#/components/schemas/Owner", .string "#/components/schemas/Vet"])]

theorem resolveNames_local_household :
    householdWithStray.schemas.toList.Perm (household.schemas.toList ++
        [("Stray", .array [.string "#/components/schemas/Pet"])]) ∧
      (∀ name ∈ ["Stray"], ¬ household.Reaches ["Pet"] name) ∧
      householdWithStray.resolveNames ["Pet"] = household.resolveNames ["Pet"] ∧
      householdWithStray.AgreesWith (household.resolveNames ["Pet"]) := by
  have hperm : householdWithStray.schemas.toList.Perm (household.schemas.toList ++
      [("Stray", .array [.string "#/components/schemas/Pet"])]) := by
    decide +kernel
  have hdiscovered : "Stray" ∉ household.discovered ["Pet"] := by decide +kernel
  have hstray : ∀ name ∈ ["Stray"], ¬ household.Reaches ["Pet"] name := by
    intro name hname hreach
    rw [List.mem_singleton.mp hname] at hreach
    exact hdiscovered (mem_discovered.mpr hreach)
  have hlocal := resolveNames_local household ["Pet"]
  have hsame := hlocal.2.2 householdWithStray _ hperm hstray
  exact ⟨hperm, hstray, hsame, (hlocal.1 householdWithStray).mpr hsame⟩

end Registry

end SchemaBundle
