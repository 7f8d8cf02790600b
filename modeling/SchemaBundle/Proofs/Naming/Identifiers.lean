import Mathlib.Data.List.SplitBy
import SchemaBundle.Naming.TypeName
import SchemaBundle.Proofs.Naming.Distinct
import SchemaBundle.Reference.Basic

/-!
# Type names that are identifiers

The words of a schema's name are made of letters and digits of ASCII, and stay so in Pascal case;
what is put before them, an underscore, and after them, a number, keeps the name an identifier.

* `isIdentifier_typeName`: the type of a schema has an identifier as its name
* `isIdentifier_numbered`: a number after an identifier leaves it one
-/

namespace SchemaBundle

/-! ## Words -/

namespace Naming

/-- The characters of words are those of the text, and of the word that was begun. -/
theorem mem_of_mem_splitWords {run : Run} {word text : List Char} :
    ∀ piece ∈ splitWords run word text, ∀ c ∈ piece, c ∈ word ∨ c ∈ text := by
  fun_induction splitWords run word text with
  | case1 => simp
  | case2 run word c =>
    intro piece hp d hd
    rw [List.mem_singleton.mp hp, List.mem_reverse, List.mem_cons] at hd
    rcases hd with rfl | hd
    · exact Or.inr List.mem_cons_self
    · exact Or.inl hd
  | case3 run word c next rest hsplit ih =>
    intro piece hp d hd
    rcases List.mem_cons.mp hp with rfl | hp
    · rw [List.mem_reverse, List.mem_cons] at hd
      rcases hd with rfl | hd
      · exact Or.inr List.mem_cons_self
      · exact Or.inl hd
    · rcases ih piece hp d hd with hd | hd
      · cases hd
      · exact Or.inr (List.mem_cons_of_mem _ hd)
  | case4 run word c next rest hsplit hcapital ih =>
    intro piece hp d hd
    rcases List.mem_cons.mp hp with rfl | hp
    · exact Or.inl (List.mem_reverse.mp hd)
    · rcases ih piece hp d hd with hd | hd
      · rw [List.mem_singleton.mp hd]
        exact Or.inr List.mem_cons_self
      · exact Or.inr (List.mem_cons_of_mem _ hd)
  | case5 run word c next rest hsplit hcapital ih =>
    intro piece hp d hd
    rcases ih piece hp d hd with hd | hd
    · rcases List.mem_cons.mp hd with rfl | hd
      · exact Or.inr List.mem_cons_self
      · exact Or.inl hd
    · exact Or.inr (List.mem_cons_of_mem _ hd)

/-- The characters of words are letters and digits of the name. -/
theorem mem_of_mem_words {name word : List Char} (hword : word ∈ words name) {c : Char}
    (hc : c ∈ word) : c ∈ name ∧ Text.isAlphanumeric c = true := by
  obtain ⟨piece, hpiece, hword⟩ := List.mem_flatMap.mp hword
  obtain ⟨hsplit, hall⟩ := List.mem_filter.mp hpiece
  have hin : c ∈ piece := by
    rcases mem_of_mem_splitWords word hword c hc with h | h
    · cases h
    · exact h
  refine ⟨?_, List.all_eq_true.mp hall c hin⟩
  rw [← List.flatten_splitBy (fun a b => Text.isAlphanumeric a && Text.isAlphanumeric b) name]
  exact List.mem_flatten.mpr ⟨piece, hsplit, hin⟩

/-! ## Letters and digits of ASCII -/

theorem lt_of_isAlphanum {c : Char} (h : c.isAlphanum = true) : c.toNat < 0x80 := by
  delta Char.isAlphanum Char.isAlpha Char.isUpper Char.isLower Char.isDigit at h
  simp only [Bool.or_eq_true, Bool.and_eq_true, decide_eq_true_eq, UInt32.le_iff_toNat_le,
    ge_iff_le] at h
  show c.val.toNat < 0x80
  rcases h with (⟨_, h⟩ | ⟨_, h⟩) | ⟨_, h⟩
  · exact Nat.lt_of_le_of_lt h (by decide)
  · exact Nat.lt_of_le_of_lt h (by decide)
  · exact Nat.lt_of_le_of_lt h (by decide)

/-- Changing the case of a letter or digit gives a letter or digit. -/
theorem isAlphanum_changeCase {c : Char} (h : c.isAlphanum = true) :
    c.toUpper.isAlphanum = true ∧ c.toLower.isAlphanum = true := by
  have hall : ∀ n < 0x80, (Char.ofNat n).isAlphanum = true →
      (Char.ofNat n).toUpper.isAlphanum = true ∧ (Char.ofNat n).toLower.isAlphanum = true := by
    decide +kernel
  have hchar := hall c.toNat (lt_of_isAlphanum h)
  rw [Char.ofNat_toNat] at hchar
  exact hchar h

theorem isAlphanum_of_mem_lowered {word : List Char} (h : ∀ c ∈ word, c.isAlphanum = true) :
    ∀ c ∈ lowered word, c.isAlphanum = true := by
  have hone {c : Char} (hc : c.isAlphanum = true) :
      ∀ d ∈ Text.toLowercase c, d.isAlphanum = true := by
    simpa [Text.toLowercase, lt_of_isAlphanum hc] using (isAlphanum_changeCase hc).2
  fun_induction lowered word with
  | case1 => simp
  | case2 c hsigma =>
    have := lt_of_isAlphanum (h c List.mem_cons_self)
    omega
  | case3 c hsigma => exact hone (h c List.mem_cons_self)
  | case4 c rest hrest ih =>
    intro d hd
    rcases List.mem_append.mp hd with hd | hd
    · exact hone (h c List.mem_cons_self) d hd
    · exact ih (fun e he => h e (List.mem_cons_of_mem _ he)) d hd

theorem isAlphanum_of_mem_capitalized {word : List Char} (h : ∀ c ∈ word, c.isAlphanum = true) :
    ∀ c ∈ capitalized word, c.isAlphanum = true := by
  cases word with
  | nil => simp [capitalized]
  | cons c rest =>
    have hc := h c List.mem_cons_self
    intro d hd
    rcases List.mem_append.mp hd with hd | hd
    · rw [Text.toUppercase, if_pos (lt_of_isAlphanum hc), List.mem_singleton] at hd
      rw [hd]
      exact (isAlphanum_changeCase hc).1
    · exact isAlphanum_of_mem_lowered (fun e he => h e (List.mem_cons_of_mem _ he)) d hd

/-- A name of name characters is of letters and digits in Pascal case. -/
theorem isAlphanum_of_mem_pascal {name : List Char} (h : ∀ c ∈ name, isNameChar c = true) :
    ∀ c ∈ pascal name, c.isAlphanum = true := by
  intro c hc
  obtain ⟨word, hword, hc⟩ := List.mem_flatMap.mp hc
  refine isAlphanum_of_mem_capitalized (fun d hd => ?_) c hc
  obtain ⟨hname, halphanumeric⟩ := mem_of_mem_words hword hd
  rcases Bool.or_eq_true _ _ ▸ h d hname with hd | hd
  · exact hd
  · rw [beq_iff_eq.mp hd] at halphanumeric
    exact absurd halphanumeric (by decide)

end Naming

/-! ## Identifiers -/

theorem continuesIdentifier_of_isAlphanum {c : Char} (h : c.isAlphanum = true) :
    continuesIdentifier c = true := by
  rw [continuesIdentifier,
    Text.isIdentifierContinue_of_isAlphanum (Naming.lt_of_isAlphanum h) h, Bool.or_true]

/-- Letters and digits as the name of a type are an identifier. -/
theorem isIdentifierChars_asTypeName {name : List Char} (h : ∀ c ∈ name, c.isAlphanum = true) :
    isIdentifierChars (asTypeName name) = true := by
  cases name with
  | nil => decide
  | cons c rest =>
    have hrest : rest.all continuesIdentifier = true := by
      refine List.all_eq_true.mpr fun d hd => ?_
      exact continuesIdentifier_of_isAlphanum (h d (List.mem_cons_of_mem _ hd))
    have hc := continuesIdentifier_of_isAlphanum (h c List.mem_cons_self)
    simp only [asTypeName]
    split
    · next hstart => rw [isIdentifierChars, hstart, hrest, Bool.and_self]
    · have hunderscore : startsIdentifier '_' = true := by decide
      rw [isIdentifierChars, hunderscore, List.all_cons, hc, hrest, Bool.and_self, Bool.and_self]

theorem isIdentifier_typeName {name : String} (h : isSchemaName name = true) :
    isIdentifier (typeName name) = true := by
  rw [isIdentifier, typeName, String.toList_ofList]
  refine isIdentifierChars_asTypeName (Naming.isAlphanum_of_mem_pascal ?_)
  exact List.all_eq_true.mp (Bool.and_eq_true _ _ ▸ h).2

theorem isIdentifier_numbered {name : String} (h : isIdentifier name = true) (number : Nat) :
    isIdentifier (NamePool.numbered name number) = true := by
  have hdigits : (toString number).toList.all continuesIdentifier = true := by
    refine List.all_eq_true.mpr fun c hc => ?_
    have hdigit := NamePool.isDigit_of_mem_toString hc
    exact continuesIdentifier_of_isAlphanum (by rw [Char.isAlphanum, hdigit, Bool.or_true])
  unfold isIdentifier at h ⊢
  rw [NamePool.numbered, String.toList_append]
  cases hname : name.toList with
  | nil =>
    rw [hname] at h
    cases h
  | cons c rest =>
    rw [hname, isIdentifierChars, Bool.and_eq_true] at h
    rw [List.cons_append, isIdentifierChars, List.all_append, h.1, h.2, hdigits, Bool.and_self,
      Bool.and_self]

end SchemaBundle
