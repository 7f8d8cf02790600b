import SchemaBundle.Proofs.Naming.Distinct

/-!
# The numbers of names are the least ones

A pool remembers for each name the number that was reached for it, and looks for the next one from
there. Nothing is lost by that: every number below is used, also where it was given out for another
name or asked for as it is. So each name that is given out is the first one that is not used, as it
would be found by trying the name and then all numbers from 2 on.

* `NamePool.Tracks`: what a pool knows of the names given out
* `NamePool.give_firstUnused`: giving out one name
* `NamePool.giveAll_firstUnused`: giving out names one after another
-/

namespace SchemaBundle.NamePool

/-! ## The first name that is not used -/

/-- A name is used if it differs from a name given out in nothing but case. -/
def Used (earlier : List String) (name : String) : Prop :=
  foldName name ∈ earlier.map foldName

/-- The first name that is not used: the name itself, or else the name with the least number from 2
on. -/
inductive FirstUnused (earlier : List String) (name : String) : String → Prop where
  | unchanged (unused : ¬ Used earlier name) : FirstUnused earlier name name
  | withNumber (number : Nat) (used : Used earlier name) (le : 2 ≤ number)
      (unused : ¬ Used earlier (numbered name number))
      (least : ∀ smaller, 2 ≤ smaller → smaller < number →
        Used earlier (numbered name smaller)) :
      FirstUnused earlier name (numbered name number)

/-- With a number after it, a name is another name. -/
theorem foldName_numbered_ne (name : String) (number : Nat) :
    foldName (numbered name number) ≠ foldName name := by
  rw [foldName_numbered]
  intro h
  simp at h

theorem used_append {earlier : List String} {given name : String} :
    Used (earlier ++ [given]) name ↔ foldName name = foldName given ∨ Used earlier name := by
  simp [Used, or_comm]

/-- Names that are the same but for case are so with a number after them. -/
theorem used_numbered_congr {earlier : List String} {name other : String}
    (h : foldName name = foldName other) (number : Nat) :
    Used earlier (numbered name number) ↔ Used earlier (numbered other number) := by
  rw [Used, Used, foldName_numbered, foldName_numbered, h]

/-- There is only one first name that is not used. -/
theorem FirstUnused.unique {earlier : List String} {name first second : String}
    (h : FirstUnused earlier name first) (hother : FirstUnused earlier name second) :
    first = second := by
  cases h with
  | unchanged unused =>
    cases hother with
    | unchanged _ => rfl
    | withNumber _ used => exact absurd used unused
  | withNumber number used le unused least =>
    cases hother with
    | unchanged notUsed => exact absurd used notUsed
    | withNumber other _ le' unused' least' =>
      rcases Nat.lt_trichotomy number other with hlt | rfl | hlt
      · exact absurd (least' number le hlt) unused
      · rfl
      · exact absurd (least other le' hlt) unused'

/-- A number is at most one more than the names that are used: the name itself and all smaller
numbers of it are among them. -/
theorem number_le_of_used {earlier : List String} {name : String} {number : Nat}
    (hused : Used earlier name)
    (hleast : ∀ smaller, 2 ≤ smaller → smaller < number → Used earlier (numbered name smaller)) :
    number ≤ earlier.length + 1 := by
  let tried := name :: (List.range' 2 (number - 2)).map (numbered name)
  have hsubset : tried.map foldName ⊆ earlier.map foldName := by
    intro folded hfolded
    obtain ⟨candidate, hcandidate, rfl⟩ := List.mem_map.mp hfolded
    rcases List.mem_cons.mp hcandidate with rfl | hcandidate
    · exact hused
    · obtain ⟨smaller, hsmaller, rfl⟩ := List.mem_map.mp hcandidate
      rw [List.mem_range'_1] at hsmaller
      exact hleast smaller hsmaller.1 (by omega)
  have hnodup : (tried.map foldName).Nodup := by
    rw [List.map_cons, List.map_map, List.nodup_cons]
    constructor
    · intro hin
      obtain ⟨smaller, _, heq⟩ := List.mem_map.mp hin
      exact foldName_numbered_ne name smaller heq
    · exact (List.nodup_range' 1 Nat.one_pos).map fun _ _ heq => foldName_numbered_inj.mp heq
  have hlength := (hnodup.subperm hsubset).length_le
  simp only [tried, List.length_map, List.length_cons, List.length_range'] at hlength
  omega

/-! ## What a pool knows -/

/-- A pool knows which names are used, and of each number that it has reached for a name that all
numbers up to it are used. -/
structure Tracks (pool : NamePool) (earlier : List String) : Prop where
  taken : ∀ name, pool.isTaken name = true ↔ Used earlier name
  reached : ∀ name last, pool.reached.find? (foldName name) = some last → 1 ≤ last ∧
    ∀ number, 2 ≤ number → number ≤ last → Used earlier (numbered name number)

theorem tracks_empty : Tracks empty [] := by
  constructor
  · intro name
    constructor
    · intro h
      cases h
    · intro h
      cases h
  · intro name last h
    cases h

theorem find?_record (pool : NamePool) (name other : String) (number : Nat) :
    (pool.record name number).reached.find? (foldName other) =
      if foldName other = foldName name then some number
      else pool.reached.find? (foldName other) := by
  unfold record
  split
  · next heq => rw [heq, Dict.find?_insert_self]
  · next hne => rw [Dict.find?_insert_of_ne _ hne]

/-- Writing down a name makes it used, and keeps track of what is used if the numbers up to the one
that is reached are. -/
theorem Tracks.record {pool : NamePool} {earlier later : List String} (h : Tracks pool earlier)
    {name : String} {last : Nat}
    (hlater : ∀ other, Used later other ↔ foldName other = foldName name ∨ Used earlier other)
    (hlast : 1 ≤ last)
    (hreached : ∀ number, 2 ≤ number → number ≤ last → Used later (numbered name number)) :
    Tracks (pool.record name last) later := by
  constructor
  · intro other
    rw [isTaken_record, hlater, h.taken]
  · intro other reached hfind
    rw [find?_record] at hfind
    split at hfind
    · next heq =>
      cases hfind
      refine ⟨hlast, fun number htwo hle => ?_⟩
      exact (used_numbered_congr heq number).mpr (hreached number htwo hle)
    · obtain ⟨hone, hall⟩ := h.reached other reached hfind
      exact ⟨hone, fun number htwo hle => (hlater _).mpr (Or.inr (hall number htwo hle))⟩

/-! ## Giving out names -/

theorem le_of_freeNumber? {pool : NamePool} {name : String} {number count free : Nat}
    (h : pool.freeNumber? name number count = some free) :
    number ≤ free ∧ ∀ smaller, number ≤ smaller → smaller < free →
      pool.isTaken (numbered name smaller) = true := by
  induction count generalizing number with
  | zero => cases h
  | succ count ih =>
    rw [freeNumber?] at h
    split at h
    · next htaken =>
      obtain ⟨hle, hall⟩ := ih h
      refine ⟨by omega, fun smaller hfrom hto => ?_⟩
      rcases Nat.eq_or_lt_of_le hfrom with rfl | hlt
      · exact htaken
      · exact hall smaller hlt hto
    · cases h
      exact ⟨Nat.le_refl _, fun smaller hfrom hto => absurd hto (Nat.not_lt.mpr hfrom)⟩

/-- A name that is given out is the first one that is not used, and the pool keeps track of it. -/
theorem give_firstUnused {pool : NamePool} {earlier : List String} (h : Tracks pool earlier)
    (name : String) :
    FirstUnused earlier name (pool.give name).1 ∧
      Tracks (pool.give name).2 (earlier ++ [(pool.give name).1]) := by
  have hunused (other : String) (hfree : pool.isTaken other = false) : ¬ Used earlier other := by
    rw [← h.taken, hfree]
    exact Bool.false_ne_true
  unfold give
  split
  · next hnone =>
    have hfree : pool.isTaken name = false := by simp [isTaken, Dict.contains, hnone]
    exact ⟨.unchanged (hunused name hfree),
      h.record (fun _ => used_append) (Nat.le_refl 1) (by omega)⟩
  · next last hsome =>
    have hused : Used earlier name := by
      rw [← h.taken]
      simp [isTaken, Dict.contains, hsome]
    obtain ⟨hone, hreached⟩ := h.reached name last hsome
    split
    · next hnone => exact absurd hnone (pool.freeNumber?_ne_none name (last + 1))
    · next number hfind =>
      obtain ⟨hfrom, htried⟩ := le_of_freeNumber? hfind
      -- up to the number reached before all are used, and from there on all that were tried
      have hleast : ∀ smaller, 2 ≤ smaller → smaller < number →
          Used earlier (numbered name smaller) := by
        intro smaller htwo hlt
        rcases Nat.lt_or_ge last smaller with hafter | hbefore
        · exact (h.taken _).mp (htried smaller hafter hlt)
        · exact hreached smaller htwo hbefore
      refine ⟨.withNumber number hused (by omega) ?_ hleast, ?_⟩
      · exact hunused _ (not_isTaken_of_freeNumber? hfind)
      · have hgiven : Tracks (pool.record (numbered name number) 1)
            (earlier ++ [numbered name number]) :=
          h.record (fun _ => used_append) (Nat.le_refl 1) (by omega)
        refine hgiven.record (fun other => ?_) (by omega) (fun smaller htwo hle => ?_)
        · -- the name itself was used before
          constructor
          · exact Or.inr
          · rintro (heq | hother)
            · rw [used_append, Used, heq]
              exact Or.inr hused
            · exact hother
        · rw [used_append]
          rcases Nat.eq_or_lt_of_le hle with rfl | hlt
          · exact Or.inl rfl
          · exact Or.inr (hleast smaller htwo hlt)

/-- What comes of each name that is given out in a run, after the names that were given out before
it. -/
theorem firstUnused_giveAll {pool : NamePool} {earlier : List String} (h : Tracks pool earlier)
    (names : List String) : ∀ index name, names[index]? = some name →
      ∃ given, (pool.giveAll names).1[index]? = some given ∧
        FirstUnused (earlier ++ (pool.giveAll names).1.take index) name given := by
  induction names generalizing pool earlier with
  | nil => simp
  | cons first rest ih =>
    obtain ⟨hfirst, htracks⟩ := give_firstUnused h first
    intro index name hname
    cases index with
    | zero =>
      cases hname
      refine ⟨(pool.give first).1, rfl, ?_⟩
      rw [List.take_zero, List.append_nil]
      exact hfirst
    | succ index =>
      obtain ⟨given, hgiven, hunused⟩ := ih htracks index name hname
      refine ⟨given, hgiven, ?_⟩
      rw [List.append_assoc] at hunused
      exact hunused

/--
Names given out one after another are those that the search without a memory finds: each is the
first one that differs in more than case from all that were given out before. Its number is at most
one more than they are, so every search ends. All names of a run differ in more than case.
-/
theorem giveAll_firstUnused (names : List String) :
    (empty.giveAll names).1.length = names.length ∧
      (∀ index name, names[index]? = some name → ∀ given,
        (empty.giveAll names).1[index]? = some given ↔
          FirstUnused ((empty.giveAll names).1.take index) name given) ∧
      (∀ index name given, names[index]? = some name →
        (empty.giveAll names).1[index]? = some given →
          given = name ∨ ∃ number ≤ index + 1, given = numbered name number) ∧
      ((empty.giveAll names).1.map foldName).Nodup := by
  have hrun := firstUnused_giveAll tracks_empty names
  simp only [List.nil_append] at hrun
  refine ⟨(forall₂_giveAll empty names).length_eq.symm, ?_, ?_, (nodup_giveAll empty names).1⟩
  · intro index name hname given
    obtain ⟨found, hfound, hunused⟩ := hrun index name hname
    rw [hfound, Option.some.injEq]
    constructor
    · rintro rfl
      exact hunused
    · exact hunused.unique
  · intro index name given hname hgiven
    obtain ⟨found, hfound, hunused⟩ := hrun index name hname
    rw [hfound, Option.some.injEq] at hgiven
    subst hgiven
    cases hunused with
    | unchanged => exact Or.inl rfl
    | withNumber number used le unused least =>
      have hnumber := number_le_of_used used least
      have hlength := List.length_take_le index (empty.giveAll names).1
      exact Or.inr ⟨number, by omega, rfl⟩

/-- A number that is asked for as part of a name is passed over. -/
theorem giveAll_firstUnused_pets :
    (empty.giveAll ["Pet2", "Pet", "pet"]).1 = ["Pet2", "Pet", "pet3"] ∧
      FirstUnused ["Pet2", "Pet"] "pet" "pet3" := by
  have hgiven : (empty.giveAll ["Pet2", "Pet", "pet"]).1 = ["Pet2", "Pet", "pet3"] := by
    decide +kernel
  obtain ⟨-, hfirst, -, -⟩ := giveAll_firstUnused ["Pet2", "Pet", "pet"]
  rw [hgiven] at hfirst
  exact ⟨hgiven, (hfirst 2 "pet" rfl "pet3").mp rfl⟩

end SchemaBundle.NamePool
