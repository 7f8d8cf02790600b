import SchemaBundle.Proofs.Resolution.Locality

/-!
# The rounds of resolving

Resolving goes in rounds: each takes the name at the front of the queue, writes it down as found or
as undefined, and puts the names it refers to at the end of the queue, if they never stood there
before. `Rounds` keeps the record of the rounds until the queue is empty. There is such a record for
every registry, and it tells the same names twice: those that were put into the queue, and, in the
same order, those that were taken from it. None of them occurs twice, so nothing is looked up or
written twice, and their number is bounded by that of the names that can be put there at all.

* `Worklist.exists_rounds`: resolving comes to an end
* `Worklist.Rounds.map_taken`: what is put into the queue is taken from it, once and in order
* `Registry.resolveNames_rounds`: the rounds of a resolution, and how many there are
-/

namespace SchemaBundle

namespace Worklist

/-- A round: what the worklist held before it, the name that it took from the front of the queue,
and the names that it put at the end. -/
structure Round where
  before : Worklist
  taken : String
  added : List String

/-- The rounds that a worklist goes through until its queue is empty. -/
inductive Rounds (registry : Registry) : Worklist → List Round → Worklist → Prop where
  | done {work : Worklist} (hqueue : work.queue = []) : Rounds registry work [] work
  | round {work last : Worklist} {name : String} {rest added : List String} {rounds : List Round}
      (hqueue : work.queue = name :: rest)
      (hadded : (work.visit registry name rest).queue = rest ++ added)
      (h : Rounds registry (work.visit registry name rest) rounds last) :
      Rounds registry work (⟨work, name, added⟩ :: rounds) last

variable {registry : Registry} {names rest : List String} {name : String} {work last : Worklist}
  {rounds : List Round}

/-- A worklist goes through finitely many rounds, and the last leaves what resolving ends with. -/
theorem exists_rounds (registry : Registry) (work : Worklist) :
    ∃ rounds, Rounds registry work rounds (work.run registry) := by
  fun_induction run registry work with
  | case1 work hqueue => exact ⟨[], .done hqueue⟩
  | case2 work name rest hqueue ih =>
    obtain ⟨rounds, h⟩ := ih
    exact ⟨_, .round hqueue (queue_visit registry name rest work) h⟩

/-- Every name that was taken was written down as found or as undefined. -/
theorem Traced.length_visited (h : Traced registry names work) :
    work.visited.length = work.bundle.size + work.unresolved.length := by
  have hkeys : work.bundle.size = (work.visited.filter registry.defines).length := by
    rw [← keys_schemasOf, ← h.bundle, Entries.keys, List.length_map]
    rfl
  rw [hkeys, h.unresolved, undefinedOf]
  exact List.length_eq_length_filter_add registry.defines

/-! ## All rounds -/

namespace Rounds

/-- The rounds leave what resolving ends with. -/
theorem eq_run (h : Rounds registry work rounds last) : last = work.run registry := by
  induction h with
  | done hqueue => rw [run_of_queue_eq_nil registry hqueue]
  | round hqueue _ _ ih => rw [ih, run_of_queue_eq_cons registry hqueue]

/-- The names that the rounds take are those that are visited. -/
theorem visited_eq (h : Rounds registry work rounds last) :
    last.visited = work.visited ++ rounds.map Round.taken := by
  induction h with
  | done _ => rw [List.map_nil, List.append_nil]
  | round _ _ _ ih =>
    rw [ih, visited_visit, List.map_cons, List.append_assoc, List.singleton_append]

/-- The rounds take what waits and what they add themselves, in the order in which it was added. -/
theorem map_taken (h : Rounds registry work rounds last) :
    rounds.map Round.taken = work.queue ++ rounds.flatMap Round.added := by
  induction h with
  | done hqueue => rw [hqueue, List.map_nil, List.flatMap_nil, List.append_nil]
  | round hqueue hadded _ ih =>
    rw [List.map_cons, ih, hadded, hqueue, List.flatMap_cons, List.append_assoc, List.cons_append]

/-- Before each round the worklist was traced, and the name that is taken was next. -/
theorem traced (h : Rounds registry work rounds last) (htraced : Traced registry names work) :
    Traced registry names last ∧ ∀ round ∈ rounds, Traced registry names round.before ∧
      ∃ rest, round.before.queue = round.taken :: rest := by
  induction h with
  | done _ => exact ⟨htraced, by simp⟩
  | round hqueue _ _ ih =>
    obtain ⟨hlast, hrounds⟩ := ih (htraced.visit hqueue)
    exact ⟨hlast, List.forall_mem_cons.mpr ⟨⟨htraced, _, hqueue⟩, hrounds⟩⟩

end Rounds

end Worklist

/-! ## The rounds of a resolution -/

namespace Registry

open Worklist (Rounds Round)

/-- Only the names to start with and those referred to in the registry are ever discovered. -/
theorem length_discovered_le (registry : Registry) (names : List String) :
    (registry.discovered names).length ≤
      names.eraseDups.length + registry.referencedNames.eraseDups.length := by
  have hsubset : registry.discovered names ⊆
      names.eraseDups ++ registry.referencedNames.eraseDups := by
    intro name hname
    rw [discovered_eq, List.mem_eraseDups, List.mem_append, List.mem_flatMap] at hname
    rw [List.mem_append, List.mem_eraseDups, List.mem_eraseDups]
    refine hname.imp_right fun ⟨referring, _, hin⟩ => ?_
    cases hschema : registry.schema? referring with
    | none =>
      rw [namesIn_eq_nil hschema] at hin
      cases hin
    | some schema =>
      rw [namesIn_of_schema hschema] at hin
      exact mem_referencedNames hschema hin
  rw [← List.length_append]
  exact ((nodup_discovered registry names).subperm hsubset).length_le

/--
Resolving a list of names goes through finitely many rounds, and whatever rounds it goes through,
the last leaves the resolution. The names put into the queue, those to start with and those that the
rounds add, are taken from it in the same order, and none of them occurs twice. What a round writes
under the name it takes replaces nothing. There are as many rounds as schemas found and names
undefined together, and at most as many as different names to start with and different names that
the schemas of the registry refer to.
-/
theorem resolveNames_rounds (registry : Registry) (names : List String) :
    (∃ rounds last, Rounds registry (Worklist.start names) rounds last) ∧
    ∀ rounds last, Rounds registry (Worklist.start names) rounds last →
      registry.resolveNames names = ⟨last.bundle, last.unresolved⟩ ∧
      rounds.map Round.taken = names.eraseDups ++ rounds.flatMap Round.added ∧
      (rounds.map Round.taken).Nodup ∧
      (∀ round ∈ rounds, round.taken ∉ round.before.bundle.keys ∧
        round.taken ∉ round.before.unresolved) ∧
      rounds.length = last.bundle.size + last.unresolved.length ∧
      rounds.length ≤ names.eraseDups.length + registry.referencedNames.eraseDups.length := by
  refine ⟨?_, fun rounds last h => ?_⟩
  · obtain ⟨rounds, h⟩ := Worklist.exists_rounds registry (Worklist.start names)
    exact ⟨rounds, _, h⟩
  · obtain ⟨htraced, hrounds⟩ := h.traced (Worklist.traced_start registry names)
    have htaken : rounds.map Round.taken = registry.discovered names := by
      rw [discovered, ← h.eq_run, h.visited_eq]
      rfl
    have hlength : rounds.length = last.visited.length := by
      rw [h.visited_eq, List.length_append, List.length_map]
      exact (Nat.zero_add _).symm
    refine ⟨?_, ?_, ?_, ?_, hlength.trans htraced.length_visited, ?_⟩
    · rw [resolveNames, ← h.eq_run]
    · rw [h.map_taken, ← fresh_nil_eq_eraseDups]
      rfl
    · rw [htaken]
      exact nodup_discovered registry names
    · intro round hround
      obtain ⟨hbefore, rest, hqueue⟩ := hrounds round hround
      exact ⟨hbefore.notMem_keys hqueue, hbefore.notMem_unresolved hqueue⟩
    · rw [← List.length_map (f := Round.taken), htaken]
      exact length_discovered_le registry names

/-- Pets and owners refer to each other, and pets to vets, who are asked for and not defined. -/
theorem resolveNames_rounds_household :
    let names := ["Pet", "Vet", "Pet"]
    ∃ rounds last, Rounds household (Worklist.start names) rounds last ∧
      rounds.map Round.taken = ["Pet", "Vet", "Owner"] ∧
      rounds.map Round.added = [["Owner"], [], []] ∧
      (rounds.map Round.taken).Nodup ∧
      (∀ round ∈ rounds, round.taken ∉ round.before.bundle.keys ∧
        round.taken ∉ round.before.unresolved) ∧
      last.bundle.size + last.unresolved.length = 3 ∧
      3 ≤ names.eraseDups.length + household.referencedNames.eraseDups.length := by
  intro names
  let second := (Worklist.start names).visit household "Pet" ["Vet"]
  let third := second.visit household "Vet" ["Owner"]
  have hthird : Rounds household third [⟨third, "Owner", []⟩] (third.visit household "Owner" []) :=
    .round (by decide +kernel) (by decide +kernel) (.done (by decide +kernel))
  have hsecond : Rounds household second [⟨second, "Vet", []⟩, ⟨third, "Owner", []⟩] _ :=
    .round (by decide +kernel) (by decide +kernel) hthird
  have hfirst : Rounds household (Worklist.start names)
      [⟨Worklist.start names, "Pet", ["Owner"]⟩, ⟨second, "Vet", []⟩, ⟨third, "Owner", []⟩] _ :=
    .round (by decide +kernel) (by decide +kernel) hsecond
  obtain ⟨-, -, hnodup, hnew, hcount, hbound⟩ := (resolveNames_rounds household names).2 _ _ hfirst
  exact ⟨_, _, hfirst, rfl, rfl, hnodup, hnew, hcount.symm, hbound⟩

end Registry

end SchemaBundle
