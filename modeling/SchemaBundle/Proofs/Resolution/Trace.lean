import SchemaBundle.Proofs.Dict
import SchemaBundle.Proofs.Resolution.Reachability

/-!
# The trace of a worklist

Everything that a worklist holds is told by the names that were taken from its queue. The names
seen are those to start with and those that the names taken refer to, each once and in order of
first appearance; the bundle has the schemas of the names taken, and the unresolved names are the
names taken that have none. `Worklist.Traced` says so of one state, each step keeps it, and so it
holds at the end, when nothing is left in the queue.

* `Worklist.Traced.run`: the end of every run is traced
* `Registry.discovered_eq`: the equation that the order of discovery satisfies
-/

namespace SchemaBundle

open Json (Value)

/-! ## Names in order of first appearance -/

/-- The new names of a list are what is left of it without the names seen and without repeats. -/
theorem fresh_eq_eraseDups (seen names : List String) :
    fresh seen names = (names.removeAll seen).eraseDups := by
  induction names generalizing seen with
  | nil => rfl
  | cons name rest ih =>
    by_cases h : name ∈ seen
    · simp only [fresh, if_pos h]
      rw [ih]
      simp [List.removeAll, h]
    · have hfilter : (rest.removeAll seen).filter (fun other => !other == name) =
          rest.removeAll (name :: seen) := by
        simp only [List.removeAll, List.filter_filter]
        congr 1
        funext other
        by_cases ho : other = name <;> simp [ho]
      simp only [fresh, if_neg h]
      rw [ih, ← hfilter]
      simp [List.removeAll, h, List.eraseDups_cons]

theorem fresh_nil_eq_eraseDups (names : List String) : fresh [] names = names.eraseDups := by
  rw [fresh_eq_eraseDups]
  simp [List.removeAll]

theorem nodup_eraseDups (names : List String) : names.eraseDups.Nodup := by
  rw [← fresh_nil_eq_eraseDups]
  exact nodup_fresh [] names

/-- Which names are new depends on which were seen, not on how often or in which order. -/
theorem fresh_congr {seen seen' : List String} (h : ∀ name, name ∈ seen ↔ name ∈ seen')
    (names : List String) : fresh seen names = fresh seen' names := by
  rw [fresh_eq_eraseDups, fresh_eq_eraseDups]
  congr 1
  simp only [List.removeAll]
  congr 1
  funext name
  simp [h name]

/-- Names that come after others add what is new among them. -/
theorem eraseDups_append_eq_fresh (before more : List String) :
    (before ++ more).eraseDups = before.eraseDups ++ fresh before.eraseDups more := by
  rw [List.eraseDups_append]
  have h : fresh before.eraseDups more = fresh before more :=
    fresh_congr (fun name => List.mem_eraseDups) more
  rw [h, fresh_eq_eraseDups]

/-! ## States of a worklist -/

namespace Worklist

variable {registry : Registry} {names : List String} {work : Worklist}

/-- The schemas of a list of names, each under its name. -/
def schemasOf (registry : Registry) (names : List String) : Entries Value :=
  names.filterMap fun name => (registry.schema? name).map fun schema => (name, schema)

/-- The names of a list that have no schema. -/
def undefinedOf (registry : Registry) (names : List String) : List String :=
  names.filter fun name => !registry.defines name

/-- The names under which a list of names has schemas are those that are defined. -/
theorem keys_schemasOf (registry : Registry) (names : List String) :
    Entries.keys (schemasOf registry names) = names.filter registry.defines := by
  induction names with
  | nil => rfl
  | cons name rest ih =>
    simp only [schemasOf, Entries.keys] at ih
    cases hs : registry.schema? name <;>
      simp [schemasOf, Entries.keys, Registry.defines, hs, ih]

theorem schemasOf_append (registry : Registry) (before after : List String) :
    schemasOf registry (before ++ after) =
      schemasOf registry before ++ schemasOf registry after :=
  List.filterMap_append

/-- What a worklist holds is told by the names that were taken from its queue. -/
structure Traced (registry : Registry) (names : List String) (work : Worklist) : Prop where
  seen : work.seen = (names ++ work.visited.flatMap registry.namesIn).eraseDups
  bundle : work.bundle.entries = schemasOf registry work.visited
  unresolved : work.unresolved = undefinedOf registry work.visited
  reached : ∀ name ∈ work.seen, registry.Reaches names name

theorem traced_start (registry : Registry) (names : List String) :
    Traced registry names (start names) where
  seen := by simp [Worklist.seen, start, fresh_nil_eq_eraseDups]
  bundle := rfl
  unresolved := rfl
  reached := by
    intro name hn
    simp only [Worklist.seen, start, List.nil_append, mem_fresh] at hn
    exact .start hn.1

theorem Traced.nodup_seen (h : Traced registry names work) : work.seen.Nodup := by
  rw [h.seen]
  exact nodup_eraseDups _

/-- The names that a name taken refers to are seen. -/
theorem Traced.mem_seen_of_namesIn (h : Traced registry names work) {name other : String}
    (hn : name ∈ work.visited) (ho : other ∈ registry.namesIn name) : other ∈ work.seen := by
  rw [h.seen, List.mem_eraseDups]
  exact List.mem_append_right _ (List.mem_flatMap.mpr ⟨name, hn, ho⟩)

/-- The names to start with are seen. -/
theorem Traced.mem_seen_of_mem (h : Traced registry names work) {name : String}
    (hn : name ∈ names) : name ∈ work.seen := by
  rw [h.seen, List.mem_eraseDups]
  exact List.mem_append_left _ hn

/-- A name that waits in the queue was not taken from it before. -/
theorem Traced.notMem_visited (h : Traced registry names work) {name : String}
    {rest : List String} (hq : work.queue = name :: rest) : name ∉ work.visited := by
  have hnodup := h.nodup_seen
  rw [Worklist.seen, hq, List.nodup_append] at hnodup
  exact fun hmem => hnodup.2.2 name hmem name List.mem_cons_self rfl

/-- The next name of the queue has no schema in the bundle yet. -/
theorem Traced.notMem_keys (h : Traced registry names work) {name : String}
    {rest : List String} (hq : work.queue = name :: rest) : name ∉ work.bundle.keys := by
  rw [Dict.keys, h.bundle, keys_schemasOf]
  exact fun hmem => h.notMem_visited hq (List.mem_filter.mp hmem).1

/-- The next name of the queue does not count as undefined yet. -/
theorem Traced.notMem_unresolved (h : Traced registry names work) {name : String}
    {rest : List String} (hq : work.queue = name :: rest) : name ∉ work.unresolved := by
  rw [h.unresolved]
  exact fun hmem => h.notMem_visited hq (List.mem_filter.mp hmem).1

/-! ## Steps -/

theorem visited_visit (registry : Registry) (name : String) (rest : List String)
    (work : Worklist) : (work.visit registry name rest).visited = work.visited ++ [name] := by
  unfold visit
  split <;> rfl

theorem queue_visit (registry : Registry) (name : String) (rest : List String)
    (work : Worklist) :
    (work.visit registry name rest).queue =
      rest ++ fresh work.seen (registry.namesIn name) := by
  unfold visit
  split
  · next hs => simp [Registry.namesIn_eq_nil hs, fresh]
  · next schema hs => simp [Registry.namesIn_of_schema hs]

/-- Taking a name adds to the names seen what is new among those it refers to. -/
theorem seen_visit {name : String} {rest : List String} (hq : work.queue = name :: rest) :
    (work.visit registry name rest).seen =
      work.seen ++ fresh work.seen (registry.namesIn name) := by
  rw [Worklist.seen, visited_visit, queue_visit, Worklist.seen, hq]
  simp

theorem Traced.visit (h : Traced registry names work) {name : String} {rest : List String}
    (hq : work.queue = name :: rest) :
    Traced registry names (work.visit registry name rest) where
  seen := by
    rw [seen_visit hq, visited_visit, List.flatMap_append, ← List.append_assoc,
      eraseDups_append_eq_fresh, ← h.seen]
    simp
  bundle := by
    -- no name is seen twice, so the schema of this one is written after the others
    have hnew : name ∉ Entries.keys work.bundle.entries := h.notMem_keys hq
    rw [visited_visit, schemasOf_append, ← h.bundle]
    unfold Worklist.visit
    split
    · next hs => simp [schemasOf, hs]
    · next schema hs =>
      show Entries.insert name schema work.bundle.entries = _
      rw [Entries.insert_of_notMem hnew]
      simp [schemasOf, hs]
  unresolved := by
    rw [visited_visit, undefinedOf, List.filter_append]
    unfold Worklist.visit
    split
    · next hs => simp [h.unresolved, undefinedOf, Registry.defines, hs]
    · next schema hs => simp [h.unresolved, undefinedOf, Registry.defines, hs]
  reached := by
    intro other ho
    rw [seen_visit hq, List.mem_append] at ho
    rcases ho with ho | ho
    · exact h.reached other ho
    · have hname : name ∈ work.seen := by simp [Worklist.seen, hq]
      exact (h.reached name hname).namesIn (mem_fresh.mp ho).1

/-! ## Runs -/

/-- What holds at the start and is kept by every step holds at the end. -/
theorem run_induction {motive : Worklist → Prop}
    (hvisit : ∀ work name rest, motive work → work.queue = name :: rest →
      motive (work.visit registry name rest))
    (hstart : motive work) : motive (work.run registry) := by
  fun_induction run registry work with
  | case1 work h => exact hstart
  | case2 work name rest h ih => exact ih (hvisit work name rest hstart h)

/-- At the end nothing is left in the queue. -/
theorem queue_run (registry : Registry) (work : Worklist) : (work.run registry).queue = [] := by
  fun_induction run registry work with
  | case1 work h => exact h
  | case2 work name rest h ih => exact ih

theorem seen_run (registry : Registry) (work : Worklist) :
    (work.run registry).seen = (work.run registry).visited := by
  rw [Worklist.seen, queue_run, List.append_nil]

theorem traced_run (registry : Registry) (names : List String) :
    Traced registry names ((start names).run registry) :=
  run_induction (fun _ _ _ h hq => h.visit hq) (traced_start registry names)

end Worklist

/-! ## The order of discovery -/

namespace Registry

variable {registry : Registry} {names : List String} {name : String}

/-- The names that a list of names leads to, in the order in which they are discovered. -/
def discovered (registry : Registry) (names : List String) : List String :=
  ((Worklist.start names).run registry).visited

/-- Discovery lists the names to start with, then those that each name listed refers to. -/
theorem discovered_eq (registry : Registry) (names : List String) :
    registry.discovered names =
      (names ++ (registry.discovered names).flatMap registry.namesIn).eraseDups := by
  have h := (Worklist.traced_run registry names).seen
  rw [Worklist.seen_run] at h
  exact h

theorem nodup_discovered (registry : Registry) (names : List String) :
    (registry.discovered names).Nodup := by
  rw [discovered_eq]
  exact nodup_eraseDups _

theorem entries_resolveNames (registry : Registry) (names : List String) :
    (registry.resolveNames names).bundle.entries =
      Worklist.schemasOf registry (registry.discovered names) :=
  (Worklist.traced_run registry names).bundle

theorem unresolved_resolveNames (registry : Registry) (names : List String) :
    (registry.resolveNames names).unresolved =
      Worklist.undefinedOf registry (registry.discovered names) :=
  (Worklist.traced_run registry names).unresolved

/-- Discovery lists exactly the names that are reached. -/
theorem mem_discovered : name ∈ registry.discovered names ↔ registry.Reaches names name := by
  have htraced := Worklist.traced_run registry names
  constructor
  · intro hn
    refine htraced.reached name ?_
    rw [Worklist.seen_run]
    exact hn
  · intro hr
    -- on the way to the name, each name before it was taken from the queue
    rw [discovered, ← Worklist.seen_run]
    induction hr with
    | start h => exact htraced.mem_seen_of_mem h
    | step _ hs ho ih =>
      rw [Worklist.seen_run] at ih
      exact htraced.mem_seen_of_namesIn ih (by rw [namesIn_of_schema hs]; exact ho)

end Registry

end SchemaBundle
