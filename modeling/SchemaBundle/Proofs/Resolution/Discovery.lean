import SchemaBundle.Proofs.Resolution.Closure

/-!
# The order of discovery

The bundle and the unresolved names stand in the order in which names are discovered: first the
names to start with, then those that the first of these refers to, and so on. Both lists are the
parts of one list that satisfies an equation. Along it the distance never falls: the names in the
queue differ by at most one reference, and a name that is new lies one reference beyond the name
that refers to it, for whatever lies nearer was seen before (`Traced.mem_seen_of_near`).

* `Registry.pairwise_distance_discovered`: distances do not fall in the order of discovery
* `Registry.resolveNames_discoveryOrder`: the order of a bundle and of the unresolved names
-/

namespace SchemaBundle

namespace Worklist

variable {registry : Registry} {names : List String} {work : Worklist}

/-- The distances of the names seen do not fall, and those in the queue differ by at most one. -/
structure Layered (registry : Registry) (names : List String) (work : Worklist) : Prop where
  sorted : work.seen.Pairwise fun a b => registry.distance names a ≤ registry.distance names b
  near : ∀ first rest, work.queue = first :: rest → ∀ name ∈ work.queue,
    registry.distance names name ≤ registry.distance names first + 1

theorem layered_start (registry : Registry) (names : List String) :
    Layered registry names (start names) := by
  have hzero : ∀ name ∈ fresh [] names, registry.distance names name = 0 := by
    intro name hn
    exact Nat.le_zero.mp (Registry.distance_le (.start (mem_fresh.mp hn).1))
  refine ⟨?_, ?_⟩
  · simp only [Worklist.seen, start, List.nil_append]
    refine List.pairwise_of_forall_mem_list ?_
    intro a ha b _
    rw [hzero a ha]
    exact Nat.zero_le _
  · intro first rest _ name hn
    rw [hzero name hn]
    exact Nat.zero_le _

/-- The first name of the queue is the nearest in it. -/
theorem Layered.first_le (h : Layered registry names work) {first : String} {rest : List String}
    (hq : work.queue = first :: rest) : ∀ name ∈ work.queue,
      registry.distance names first ≤ registry.distance names name := by
  have hsorted := (List.pairwise_append.mp h.sorted).2.1
  rw [hq] at hsorted ⊢
  intro name hn
  rcases List.mem_cons.mp hn with rfl | hn
  · exact Nat.le_refl _
  · exact (List.pairwise_cons.mp hsorted).1 name hn

/-- Whatever is no further away than the first name of the queue was seen. -/
theorem Traced.mem_seen_of_near (ht : Traced registry names work)
    (hl : Layered registry names work) {first : String} {rest : List String}
    (hq : work.queue = first :: rest) {count : Nat} {name : String}
    (hn : registry.ReachesIn names count name)
    (hc : count ≤ registry.distance names first) : name ∈ work.seen := by
  induction hn with
  | start h => exact ht.mem_seen_of_mem h
  | @step count name other h ho ih =>
    have hseen := ih (by omega)
    rcases List.mem_append.mp hseen with hv | hw
    · exact ht.mem_seen_of_namesIn hv ho
    · -- a name that still waits is as far away as the first
      have hfar := hl.first_le hq name hw
      have hnear := Registry.distance_le h
      omega

/-- What a name taken from the queue adds lies one reference beyond it. -/
theorem distance_of_mem_fresh (ht : Traced registry names work)
    (hl : Layered registry names work) {first : String} {rest : List String}
    (hq : work.queue = first :: rest) {name : String}
    (hn : name ∈ fresh work.seen (registry.namesIn first)) :
    registry.distance names name = registry.distance names first + 1 := by
  obtain ⟨ho, hnew⟩ := mem_fresh.mp hn
  have hfirst : registry.Reaches names first := ht.reached first (by simp [Worklist.seen, hq])
  have hle := Registry.distance_le_succ hfirst ho
  have hleast := Registry.isLeast_distance (hfirst.namesIn ho)
  -- anything as near as the name taken was seen before, and this one is new
  have hlt : registry.distance names first < registry.distance names name := by
    refine Nat.lt_of_not_le ?_
    intro hnear
    exact hnew (ht.mem_seen_of_near hl hq hleast.1 hnear)
  omega

theorem Layered.visit (ht : Traced registry names work) (hl : Layered registry names work)
    {first : String} {rest : List String} (hq : work.queue = first :: rest) :
    Layered registry names (work.visit registry first rest) where
  sorted := by
    rw [seen_visit hq]
    refine List.pairwise_append.mpr ⟨hl.sorted, ?_, ?_⟩
    · refine List.pairwise_of_forall_mem_list ?_
      intro a ha b hb
      rw [distance_of_mem_fresh ht hl hq ha, distance_of_mem_fresh ht hl hq hb]
    · intro a ha b hb
      rw [distance_of_mem_fresh ht hl hq hb]
      rcases List.mem_append.mp ha with hv | hw
      · have hle := (List.pairwise_append.mp hl.sorted).2.2 a hv first (by simp [hq])
        omega
      · exact hl.near first rest hq a hw
  near := by
    -- the queue lies between the distance of the name taken and one more
    have hbounds : ∀ name ∈ rest ++ fresh work.seen (registry.namesIn first),
        registry.distance names first ≤ registry.distance names name ∧
          registry.distance names name ≤ registry.distance names first + 1 := by
      intro name hn
      rcases List.mem_append.mp hn with hn | hn
      · have hmem : name ∈ work.queue := by
          rw [hq]
          exact List.mem_cons_of_mem _ hn
        exact ⟨hl.first_le hq name hmem, hl.near first rest hq name hmem⟩
      · rw [distance_of_mem_fresh ht hl hq hn]
        exact ⟨Nat.le_succ _, Nat.le_refl _⟩
    intro next more hnext name hn
    rw [queue_visit] at hnext hn
    have hlow := (hbounds next (by rw [hnext]; exact List.mem_cons_self)).1
    have hhigh := (hbounds name hn).2
    omega

theorem layered_run (registry : Registry) (names : List String) :
    Layered registry names ((start names).run registry) := by
  have hboth : Traced registry names ((start names).run registry) ∧
      Layered registry names ((start names).run registry) :=
    run_induction (motive := fun work => Traced registry names work ∧ Layered registry names work)
      (fun _ _ _ h hq => ⟨h.1.visit hq, Layered.visit h.1 h.2 hq⟩)
      ⟨traced_start registry names, layered_start registry names⟩
  exact hboth.2

end Worklist

namespace Registry

variable {registry : Registry} {names : List String}

/-- Names are discovered nearest first. -/
theorem pairwise_distance_discovered (registry : Registry) (names : List String) :
    (registry.discovered names).Pairwise
      fun a b => registry.distance names a ≤ registry.distance names b := by
  have h := (Worklist.layered_run registry names).sorted
  rw [Worklist.seen_run] at h
  exact h

/-- The names to start with come first, in order of first appearance. -/
theorem eraseDups_prefix_discovered (registry : Registry) (names : List String) :
    names.eraseDups <+: registry.discovered names := by
  rw [discovered_eq, eraseDups_append_eq_fresh]
  exact List.prefix_append _ _

/--
The bundle and the unresolved names are the two parts of one list without repeats: that of the
names to start with and of what each name of the list refers to, by first appearance. Along both
parts the distance never falls, and both start with their part of the names to start with.
-/
theorem resolveNames_discoveryOrder (registry : Registry) (names : List String) :
    ∃ order : List String,
      order.Nodup ∧
      order = (names ++ (order.filter registry.defines).flatMap registry.namesIn).eraseDups ∧
      (registry.resolveNames names).bundle.keys = order.filter registry.defines ∧
      (registry.resolveNames names).unresolved = order.filter (fun name => !registry.defines name) ∧
      (∀ name ∈ order, IsLeast {count | registry.ReachesIn names count name}
        (registry.distance names name)) ∧
      (registry.resolveNames names).bundle.keys.Pairwise
        (fun a b => registry.distance names a ≤ registry.distance names b) ∧
      (registry.resolveNames names).unresolved.Pairwise
        (fun a b => registry.distance names a ≤ registry.distance names b) ∧
      names.eraseDups.filter registry.defines <+: (registry.resolveNames names).bundle.keys ∧
      names.eraseDups.filter (fun name => !registry.defines name) <+:
        (registry.resolveNames names).unresolved := by
  have hkeys := keys_resolveNames registry names
  have hunresolved := unresolved_resolveNames registry names
  have hsorted := pairwise_distance_discovered registry names
  have hprefix := eraseDups_prefix_discovered registry names
  refine ⟨registry.discovered names, nodup_discovered registry names, ?_, hkeys, hunresolved,
    ?_, ?_, ?_, ?_, ?_⟩
  · rw [flatMap_namesIn_filter]
    exact discovered_eq registry names
  · intro name hn
    exact isLeast_distance (mem_discovered.mp hn)
  · rw [hkeys]
    exact hsorted.filter _
  · rw [hunresolved]
    exact hsorted.filter _
  · rw [hkeys]
    exact hprefix.filter _
  · rw [hunresolved]
    exact hprefix.filter _

end Registry

end SchemaBundle
