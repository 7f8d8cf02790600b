import Mathlib.Data.List.TakeWhile
import SchemaBundle.Naming.Normalized
import SchemaBundle.Naming.TypeName

/-!
# Normalized names that are identifiers

Only the first run of separators in the name of an API is replaced, and no other character is
looked at. So the name in files and modules is an identifier exactly if the rest of it is one
already.

* `isIdentifier_normalizedName`: the names that are identifiers when they are normalized
-/

namespace SchemaBundle

variable {name before run after : List Char} {c : Char}

/-! ## Characters of identifiers -/

theorem isIdentifierChars_append (hne : before ≠ []) :
    isIdentifierChars (before ++ after) = true ↔
      isIdentifierChars before = true ∧ after.all continuesIdentifier = true := by
  cases before with
  | nil => exact absurd rfl hne
  | cons c rest =>
    rw [List.cons_append, isIdentifierChars, isIdentifierChars, List.all_append, ← Bool.and_assoc,
      Bool.and_eq_true]

/-- A character that neither starts an identifier nor goes on with one is in none. -/
theorem notMem_of_isIdentifierChars (h : isIdentifierChars name = true)
    (hstarts : startsIdentifier c = false) (hcontinues : continuesIdentifier c = false) :
    c ∉ name := by
  cases name with
  | nil => exact List.not_mem_nil
  | cons first rest =>
    rw [isIdentifierChars, Bool.and_eq_true] at h
    intro hin
    rcases List.mem_cons.mp hin with rfl | hin
    · rw [hstarts] at h
      exact absurd h.1 Bool.false_ne_true
    · have hrest := List.all_eq_true.mp h.2 c hin
      rw [hcontinues] at hrest
      exact Bool.false_ne_true hrest

/-- Below U+0080 an identifier is of letters, digits, underscores and dollar signs. -/
theorem startsIdentifier_of_lt (h : c.toNat < 0x80) :
    startsIdentifier c = (c == '$' || c == '_' || c.isAlpha) := by
  rw [startsIdentifier, Text.isIdentifierStart, if_pos h]

theorem continuesIdentifier_of_lt (h : c.toNat < 0x80) :
    continuesIdentifier c = (c == '$' || (c.isAlphanum || c == '_')) := by
  rw [continuesIdentifier, Text.isIdentifierContinue, if_pos h]

theorem continuesIdentifier_of_isSeparator (h : isSeparator c = true) :
    startsIdentifier c = false ∧ continuesIdentifier c = false := by
  rcases Bool.or_eq_true _ _ ▸ h with h | h <;> rw [beq_iff_eq.mp h] <;>
    rw [startsIdentifier_of_lt (by decide), continuesIdentifier_of_lt (by decide)] <;> decide

/-- There is no separator in an identifier. -/
theorem isSeparator_of_isIdentifierChars (h : isIdentifierChars name = true) :
    ∀ c ∈ name, isSeparator c = false := by
  intro c hc
  cases hseparator : isSeparator c with
  | false => rfl
  | true =>
    obtain ⟨hstarts, hcontinues⟩ := continuesIdentifier_of_isSeparator hseparator
    exact absurd hc (notMem_of_isIdentifierChars h hstarts hcontinues)

theorem isSeparator_of_continuesIdentifier (h : continuesIdentifier c = true) :
    isSeparator c = false := by
  cases hseparator : isSeparator c with
  | false => rfl
  | true =>
    rw [(continuesIdentifier_of_isSeparator hseparator).2] at h
    cases h

/-! ## The first run of separators -/

theorem normalizedChars_of_forall (h : ∀ c ∈ name, isSeparator c = false) :
    normalizedChars name = name := by
  have hnone : name.dropWhile (!isSeparator ·) = [] :=
    List.dropWhile_eq_nil_iff.mpr fun c hc => by rw [h c hc]; rfl
  rw [normalizedChars, hnone]

/-- What is before a run of separators and after it stays as it is. -/
theorem normalizedChars_append (hbefore : ∀ c ∈ before, isSeparator c = false) (hne : run ≠ [])
    (hrun : ∀ c ∈ run, isSeparator c = true) (hafter : ∀ c ∈ after, isSeparator c = false) :
    normalizedChars (before ++ (run ++ after)) = before ++ '_' :: after := by
  obtain ⟨c, more, rfl⟩ := List.exists_cons_of_ne_nil hne
  have hkeep : ∀ d ∈ before, (!isSeparator d) = true := fun d hd => by rw [hbefore d hd]; rfl
  have hstop : (!isSeparator c) = false := by rw [hrun c List.mem_cons_self]; rfl
  have hdrop : after.dropWhile isSeparator = after := by
    cases after with
    | nil => rfl
    | cons d rest =>
      exact List.dropWhile_cons_of_neg (by rw [hafter d List.mem_cons_self]; exact nofun)
  have htake : (before ++ (c :: more ++ after)).takeWhile (!isSeparator ·) = before := by
    rw [List.takeWhile_append_of_pos hkeep, List.cons_append,
      List.takeWhile_cons_of_neg (by rw [hstop]; exact nofun), List.append_nil]
  have hrest : (before ++ (c :: more ++ after)).dropWhile (!isSeparator ·) =
      c :: more ++ after := by
    rw [List.dropWhile_append_of_pos hkeep, List.cons_append,
      List.dropWhile_cons_of_neg (by rw [hstop]; exact nofun)]
  have hskip : (c :: more ++ after).dropWhile isSeparator = after := by
    rw [List.dropWhile_append_of_pos hrun, hdrop]
  rw [normalizedChars, hrest]
  simp only [List.cons_append] at htake hskip ⊢
  rw [htake, hskip]

/-- A name has no separator, or its first run of them is what becomes an underscore. -/
theorem normalizedChars_cases (name : List Char) :
    normalizedChars name = name ∨
      ∃ before run after, name = before ++ (run ++ after) ∧ run ≠ [] ∧
        (∀ c ∈ run, isSeparator c = true) ∧ normalizedChars name = before ++ '_' :: after := by
  rw [normalizedChars]
  cases hrest : name.dropWhile (!isSeparator ·) with
  | nil => exact Or.inl rfl
  | cons c more =>
    have hhead := List.head_dropWhile_not (!isSeparator ·) (l := name) (by simp [hrest])
    simp only [hrest, List.head_cons, Bool.not_eq_false'] at hhead
    refine Or.inr ⟨name.takeWhile (!isSeparator ·), (c :: more).takeWhile isSeparator,
      (c :: more).dropWhile isSeparator, ?_, ?_, fun d hd => List.mem_takeWhile_imp hd, rfl⟩
    · rw [List.takeWhile_append_dropWhile, ← hrest, List.takeWhile_append_dropWhile]
    · rw [List.takeWhile_cons_of_pos hhead]
      exact List.cons_ne_nil _ _

/-! ## Normalized names -/

/-- A name whose only run of separators, if there is one, has nothing before it or an identifier,
and after it what an identifier can go on with. -/
def BecomesIdentifier (name : List Char) : Prop :=
  ∃ before run after, name = before ++ (run ++ after) ∧
    (∀ c ∈ run, isSeparator c = true) ∧
    (isIdentifierChars before = true ∨ before = [] ∧ run ≠ []) ∧
    after.all continuesIdentifier = true

/-- The underscore for separators can start an identifier, or go on with one. -/
theorem isIdentifierChars_underscore :
    isIdentifierChars (before ++ '_' :: after) = true ↔
      (isIdentifierChars before = true ∨ before = []) ∧ after.all continuesIdentifier = true := by
  have hstarts : startsIdentifier '_' = true := by rw [startsIdentifier_of_lt] <;> decide
  have hcontinues : continuesIdentifier '_' = true := by rw [continuesIdentifier_of_lt] <;> decide
  cases before with
  | nil =>
    rw [List.nil_append, isIdentifierChars.eq_2, hstarts, Bool.true_and]
    simp only [or_true, true_and]
  | cons c rest =>
    rw [isIdentifierChars_append (List.cons_ne_nil c rest), List.all_cons, hcontinues,
      Bool.true_and]
    simp only [reduceCtorEq, or_false]

theorem isIdentifierChars_normalizedChars :
    isIdentifierChars (normalizedChars name) = true ↔ BecomesIdentifier name := by
  constructor
  · intro h
    rcases normalizedChars_cases name with hsame | ⟨before, run, after, rfl, hne, hrun, hname⟩
    · rw [hsame] at h
      exact ⟨name, [], [], by simp, nofun, Or.inl h, rfl⟩
    · rw [hname] at h
      obtain ⟨hbefore, hafter⟩ := isIdentifierChars_underscore.mp h
      exact ⟨before, run, after, rfl, hrun, hbefore.imp id fun hnil => ⟨hnil, hne⟩, hafter⟩
  · rintro ⟨before, run, after, rfl, hrun, hbefore, hafter⟩
    have hplain : ∀ c ∈ after, isSeparator c = false := fun c hc =>
      isSeparator_of_continuesIdentifier (List.all_eq_true.mp hafter c hc)
    by_cases hne : run = []
    · subst hne
      have hidentifier : isIdentifierChars before = true :=
        hbefore.resolve_right fun hnone => hnone.2 rfl
      have hall : isIdentifierChars (before ++ after) = true := by
        refine (isIdentifierChars_append ?_).mpr ⟨hidentifier, hafter⟩
        rintro rfl
        cases hidentifier
      rw [List.nil_append, normalizedChars_of_forall (isSeparator_of_isIdentifierChars hall), hall]
    · have hchars : ∀ c ∈ before, isSeparator c = false := by
        rcases hbefore with hbefore | ⟨rfl, _⟩
        · exact isSeparator_of_isIdentifierChars hbefore
        · exact nofun
      rw [normalizedChars_append hchars hne hrun hplain, isIdentifierChars_underscore]
      exact ⟨hbefore.imp id And.left, hafter⟩

/-- The normalized name of an API is an identifier exactly if a single run of separators is all
that keeps the name from being one. -/
theorem isIdentifier_normalizedName (name : String) :
    isIdentifier (normalizedName name) = true ↔ BecomesIdentifier name.toList := by
  rw [isIdentifier, normalizedName, String.toList_ofList, isIdentifierChars_normalizedChars]

example : isIdentifier (normalizedName "win.-api") = true ∧
    isIdentifier (normalizedName "a-b-c") = false := by
  decide +kernel

end SchemaBundle
