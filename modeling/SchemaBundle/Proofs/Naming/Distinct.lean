import Mathlib.Data.List.Forall2
import Mathlib.Data.List.Nodup
import Mathlib.Data.List.Perm.Subperm
import SchemaBundle.Naming.Distinct
import SchemaBundle.Proofs.Dict

/-!
# Names that are given out differ

A name that is given out is the one asked for or that name with a number after it, and it differs
from all names given out before in more than case. The search for a number always ends with one:
folding leaves digits alone, so different numbers make different names, and a pool cannot have taken
more names than it holds.

* `NamePool.gives_give`: what giving out one name does
* `NamePool.nodup_giveAll`: names given out one after another differ in more than case
* `NamePool.mem_giveAll_iff`: whether a name without a number is given out
-/

namespace SchemaBundle.NamePool

/-! ## Numbers after names -/

theorem foldChar_of_isDigit {c : Char} (h : c.isDigit = true) : Text.foldChar c = [c] := by
  simp only [Char.isDigit, Bool.and_eq_true, decide_eq_true_eq, UInt32.le_iff_toNat_le] at h
  have hlt : c.toNat < 0x80 := by
    have : c.toNat ≤ 57 := h.2
    omega
  have hlower : c.toLower = c := by
    unfold Char.toLower
    rw [dif_neg]
    intro hupper
    have : 65 ≤ c.toNat := hupper.1
    have : c.toNat ≤ 57 := h.2
    omega
  rw [Text.foldChar, if_pos hlt, hlower]

theorem isDigit_of_mem_toString {number : Nat} {c : Char} (h : c ∈ (toString number).toList) :
    c.isDigit = true := by
  rw [Nat.toString_eq_ofList_toDigits, String.toList_ofList] at h
  exact Nat.isDigit_of_mem_toDigits (by omega) (by omega) h

/-- Folding leaves a number alone. -/
theorem fold_toString (number : Nat) :
    Text.fold (toString number).toList = (toString number).toList := by
  have hdigits : ∀ c ∈ (toString number).toList, c.isDigit = true :=
    fun _ => isDigit_of_mem_toString
  generalize (toString number).toList = digits at hdigits
  induction digits with
  | nil => rfl
  | cons c rest ih =>
    have hrest := ih fun d hd => hdigits d (List.mem_cons_of_mem _ hd)
    rw [Text.fold, List.flatMap_cons, foldChar_of_isDigit (hdigits c List.mem_cons_self)]
    exact congrArg (c :: ·) hrest

theorem foldName_numbered (name : String) (number : Nat) :
    foldName (numbered name number) = foldName name ++ toString number := by
  unfold foldName numbered
  rw [String.toList_append, Text.fold_append, fold_toString, String.ofList_append,
    String.ofList_toList]

/-- A name with a number after it ends in a digit. -/
theorem isDigit_getLast_numbered (name : String) (number : Nat) :
    ∃ c, (foldName (numbered name number)).toList.getLast? = some c ∧ c.isDigit = true := by
  have hne : (toString number).toList ≠ [] := by
    rw [Nat.toString_eq_ofList_toDigits, String.toList_ofList]
    exact Nat.toDigits_ne_nil
  refine ⟨(toString number).toList.getLast hne, ?_, isDigit_of_mem_toString (List.getLast_mem hne)⟩
  rw [foldName_numbered, String.toList_append, List.getLast?_append_of_ne_nil _ hne,
    List.getLast?_eq_some_getLast hne]

/-- Different numbers make different names. -/
theorem foldName_numbered_inj {name : String} {a b : Nat} :
    foldName (numbered name a) = foldName (numbered name b) ↔ a = b := by
  rw [foldName_numbered, foldName_numbered, String.append_right_inj]
  constructor
  · intro h
    have hread := congrArg (fun digits => Nat.ofDigitChars 10 digits.toList 0) h
    simpa [Nat.toString_eq_ofList_toDigits] using hread
  · exact congrArg toString

/-! ## The search for a number -/

theorem isTaken_iff {pool : NamePool} {name : String} :
    pool.isTaken name = true ↔ foldName name ∈ pool.reached.keys :=
  Entries.find?_isSome

theorem isTaken_record {pool : NamePool} {name other : String} {number : Nat} :
    (pool.record name number).isTaken other = true ↔
      foldName other = foldName name ∨ pool.isTaken other = true := by
  rw [isTaken_iff, isTaken_iff]
  exact Entries.mem_keys_insert

theorem not_isTaken_of_freeNumber? {pool : NamePool} {name : String} {number count free : Nat}
    (h : pool.freeNumber? name number count = some free) :
    pool.isTaken (numbered name free) = false := by
  induction count generalizing number with
  | zero => simp [freeNumber?] at h
  | succ count ih =>
    rw [freeNumber?] at h
    split at h
    · exact ih h
    · next hfree =>
      cases h
      simpa using hfree

/-- Where no number is free, all that were tried are taken. -/
theorem isTaken_of_freeNumber?_eq_none {pool : NamePool} {name : String} {number count : Nat}
    (h : pool.freeNumber? name number count = none) :
    ∀ step < count, pool.isTaken (numbered name (number + step)) = true := by
  induction count generalizing number with
  | zero => intro step hstep; omega
  | succ count ih =>
    rw [freeNumber?] at h
    split at h
    · next htaken =>
      intro step hstep
      cases step with
      | zero => exact htaken
      | succ step =>
        rw [Nat.add_comm step 1, ← Nat.add_assoc]
        exact ih h step (by omega)
    · cases h

/-- Among more numbers than a pool has names one is free. -/
theorem freeNumber?_ne_none (pool : NamePool) (name : String) (number : Nat) :
    pool.freeNumber? name number (pool.reached.size + 1) ≠ none := by
  intro h
  have htaken := isTaken_of_freeNumber?_eq_none h
  let tried := (List.range (pool.reached.size + 1)).map fun step =>
    foldName (numbered name (number + step))
  have hnodup : tried.Nodup := by
    refine List.nodup_range.map fun a b hab => ?_
    exact Nat.add_left_cancel (foldName_numbered_inj.mp hab)
  have hsubset : tried ⊆ pool.reached.keys := by
    intro folded hf
    obtain ⟨step, hstep, rfl⟩ := List.mem_map.mp hf
    exact isTaken_iff.mp (htaken step (List.mem_range.mp hstep))
  have hlength := (hnodup.subperm hsubset).length_le
  rw [List.length_map, List.length_range, Dict.keys, Entries.keys, List.length_map] at hlength
  exact absurd hlength (Nat.not_succ_le_self _)

/-! ## Giving out names -/

/-- What it is to give out a name: it is new, it counts as taken from now on, and it is the name
asked for, with a number after it or not. -/
structure Gives (pool : NamePool) (name given : String) (after : NamePool) : Prop where
  new : pool.isTaken given = false
  taken : ∀ other, after.isTaken other = true ↔
    foldName other = foldName given ∨ pool.isTaken other = true
  spelling : given = name ∨ ∃ number, given = numbered name number

theorem gives_give (pool : NamePool) (name : String) :
    Gives pool name (pool.give name).1 (pool.give name).2 := by
  unfold give
  split
  · next hnone => exact ⟨by simp [isTaken, Dict.contains, hnone], fun _ => isTaken_record, .inl rfl⟩
  · next last hsome =>
    have hname : pool.isTaken name = true := by simp [isTaken, Dict.contains, hsome]
    split
    · next hnone => exact absurd hnone (pool.freeNumber?_ne_none name (last + 1))
    · next number hfree =>
      refine ⟨not_isTaken_of_freeNumber? hfree, fun other => ?_, .inr ⟨number, rfl⟩⟩
      rw [isTaken_record, isTaken_record]
      constructor
      · rintro (heq | heq | htaken)
        · right
          rw [isTaken_iff, heq, ← isTaken_iff]
          exact hname
        · exact Or.inl heq
        · exact Or.inr htaken
      · rintro (heq | htaken)
        · exact Or.inr (Or.inl heq)
        · exact Or.inr (Or.inr htaken)

/-- Names given out one after another differ in more than case, and from those given out before. -/
theorem nodup_giveAll (pool : NamePool) (names : List String) :
    ((pool.giveAll names).1.map foldName).Nodup ∧
      ∀ given ∈ (pool.giveAll names).1, pool.isTaken given = false := by
  induction names generalizing pool with
  | nil => simp [giveAll]
  | cons name rest ih =>
    have hgives := gives_give pool name
    obtain ⟨hnodup, hnew⟩ := ih (pool.give name).2
    have hrest : ∀ other ∈ ((pool.give name).2.giveAll rest).1,
        foldName other ≠ foldName (pool.give name).1 ∧ pool.isTaken other = false := by
      intro other ho
      have hfree := hnew other ho
      constructor
      · intro heq
        rw [(hgives.taken other).mpr (Or.inl heq)] at hfree
        cases hfree
      · cases htaken : pool.isTaken other with
        | false => rfl
        | true =>
          rw [(hgives.taken other).mpr (Or.inr htaken)] at hfree
          cases hfree
    constructor
    · simp only [giveAll, List.map_cons, List.nodup_cons]
      refine ⟨?_, hnodup⟩
      intro hmem
      obtain ⟨other, ho, heq⟩ := List.mem_map.mp hmem
      exact (hrest other ho).1 heq
    · intro given hg
      rcases List.mem_cons.mp hg with rfl | hg
      · exact hgives.new
      · exact (hrest given hg).2

/-- Each name given out is the one asked for, with a number after it or not. -/
theorem forall₂_giveAll (pool : NamePool) (names : List String) :
    List.Forall₂ (fun name given => given = name ∨ ∃ number, given = numbered name number)
      names (pool.giveAll names).1 := by
  induction names generalizing pool with
  | nil => exact .nil
  | cons name rest ih => exact .cons (gives_give pool name).spelling (ih _)

/-! ## Whether a name is given out -/

theorem isTaken_congr {pool : NamePool} {name other : String} (h : foldName name = foldName other) :
    pool.isTaken name = pool.isTaken other := by
  rw [isTaken, isTaken, h]

theorem give_of_not_isTaken {pool : NamePool} {name : String} (h : pool.isTaken name = false) :
    (pool.give name).1 = name := by
  have hnone : pool.reached.find? (foldName name) = none := by
    simpa [isTaken, Dict.contains] using h
  rw [give, hnone]

/-- A name that does not come from another by a number is given out just if it was not taken, and
is the first of the names asked for that differ from it in nothing but case. -/
theorem mem_giveAll_iff {name : String}
    (hnumber : ∀ other number, foldName (numbered other number) ≠ foldName name)
    (pool : NamePool) (names : List String) :
    name ∈ (pool.giveAll names).1 ↔ pool.isTaken name = false ∧
      names.find? (fun other => foldName other == foldName name) = some name := by
  induction names generalizing pool with
  | nil => simp [giveAll]
  | cons first rest ih =>
    have hgives := gives_give pool first
    have htaken := hgives.taken name
    simp only [giveAll, List.mem_cons, ih]
    by_cases hfirst : foldName first = foldName name
    · have hname : pool.isTaken name = pool.isTaken first := isTaken_congr hfirst.symm
      rw [List.find?_cons_of_pos (by simpa using hfirst), hname, Option.some.injEq]
      cases hfree : pool.isTaken first with
      | false =>
        -- the name is the one asked for first, and no other is given out for it
        rw [give_of_not_isTaken hfree] at htaken ⊢
        have hafter : (pool.give first).2.isTaken name = true := htaken.mpr (Or.inl hfirst.symm)
        simp [hafter, eq_comm]
      | true =>
        have hne : name ≠ (pool.give first).1 := by
          intro heq
          have hnew := hgives.new
          rw [← heq, hname, hfree] at hnew
          cases hnew
        have hafter : (pool.give first).2.isTaken name = true :=
          htaken.mpr (Or.inr (hname.trans hfree))
        simp [hne, hafter]
    · have hgiven : foldName (pool.give first).1 ≠ foldName name := by
        rcases hgives.spelling with heq | ⟨number, heq⟩
        · rw [heq]
          exact hfirst
        · rw [heq]
          exact hnumber first number
      have hne : name ≠ (pool.give first).1 := fun heq => hgiven (congrArg foldName heq.symm)
      have hafter : (pool.give first).2.isTaken name = pool.isTaken name := by
        rw [Bool.eq_iff_iff, htaken]
        simp [hgiven.symm]
      rw [List.find?_cons_of_neg (by simpa using hfirst), hafter]
      simp [hne]

end SchemaBundle.NamePool
