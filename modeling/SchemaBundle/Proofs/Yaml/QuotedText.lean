import SchemaBundle.Proofs.Yaml.Place

/-!
# The text of a quoted scalar

What stands between the two quotation marks of a scalar is its text, unless the text was folded,
has a quotation mark in it that was written twice, or was written with a backslash. So a text
without gaps and quotation marks stands in the source as it is, or a backslash stands there.

* `Verbatim`: a raw text as it is, or with a backslash
* `quotedScalar_text`: the two marks, and what stands between them
-/

namespace SchemaBundle.Yaml

open Cursor

variable {chars : List Char} {cursor after : Cursor}

/-- The mark on either side of a quoted scalar. -/
def quoteMark (double : Bool) : Char :=
  if double then '"' else '\''

/-- A text between marks is written as it is, or with a backslash between double ones. -/
def Verbatim (double : Bool) (raw text : List Char) : Prop :=
  raw = text ∨ (double = true ∧ '\\' ∈ raw)

theorem Verbatim.append {double : Bool} {raw raw' text text' : List Char}
    (h : Verbatim double raw text) (h' : Verbatim double raw' text') :
    Verbatim double (raw ++ raw') (text ++ text') := by
  rcases h with rfl | ⟨hdouble, hmem⟩
  · rcases h' with rfl | ⟨hdouble, hmem⟩
    · exact .inl rfl
    · exact .inr ⟨hdouble, List.mem_append_right _ hmem⟩
  · exact .inr ⟨hdouble, List.mem_append_left _ hmem⟩

/-! ## Words -/

theorem singleQuotedWord_text (rest : List Char) :
    '\'' ∉ (singleQuotedWord rest).text →
      rest.take (singleQuotedWord rest).length = (singleQuotedWord rest).text := by
  fun_induction singleQuotedWord rest with
  | case1 rest ih =>
    intro h
    exact absurd List.mem_cons_self h
  | case2 c rest _ hend =>
    intro _
    rfl
  | case3 c rest _ hend ih =>
    intro h
    simp only [QuotedWord.cons, List.mem_cons, not_or] at h ⊢
    rw [List.take_succ_cons, ih h.2]
  | case4 =>
    intro _
    rfl

theorem singleQuotedWord_joined (rest : List Char) : (singleQuotedWord rest).joined = false := by
  fun_induction singleQuotedWord rest with
  | case1 rest ih => exact ih
  | case2 c rest _ hend => rfl
  | case3 c rest _ hend ih => exact ih
  | case4 => rfl

/-- A word between double quotes is what stands there, or a backslash does. -/
theorem doubleQuotedWord_text {bound : Nat} {rest : List Char} {word : QuotedWord}
    (h : doubleQuotedWord bound rest = some word) :
    (word.joined = false ∧ rest.take word.length = word.text) ∨ '\\' ∈ rest.take word.length := by
  induction bound generalizing rest word with
  | zero =>
    cases h
    exact .inl ⟨rfl, rfl⟩
  | succ bound ih =>
    cases rest with
    | nil =>
      cases h
      exact .inl ⟨rfl, rfl⟩
    | cons c rest =>
      unfold doubleQuotedWord at h
      split at h
      · cases h
        exact .inl ⟨rfl, rfl⟩
      · split at h
        · next hc =>
          -- the word starts with a backslash, whatever it stands for
          subst hc
          right
          split at h
          · cases h
            exact List.mem_cons_self
          · split at h
            · cases h
            · next d length _ =>
              obtain ⟨word', _, rfl⟩ := Option.map_eq_some_iff.mp h
              exact List.mem_cons_self
        · obtain ⟨word', hword, rfl⟩ := Option.map_eq_some_iff.mp h
          rcases ih hword with ⟨hjoined, htext⟩ | hmem
          · refine .inl ⟨hjoined, ?_⟩
            show (c :: rest).take (word'.length + 1) = c :: word'.text
            rw [List.take_succ_cons, htext]
          · right
            show '\\' ∈ (c :: rest).take (word'.length + 1)
            rw [List.take_succ_cons]
            exact List.mem_cons_of_mem _ hmem

/-! ## Gaps -/

theorem isGap_of_mem_foldGap {run : List Char} (hrun : ∀ c ∈ run, isGap c = true) {c : Char}
    (hc : c ∈ foldGap run) : isGap c = true := by
  have hbreaks : ∀ d ∈ run.filter isBreak, isGap d = true := fun d hd =>
    hrun d (List.mem_filter.mp hd).1
  unfold foldGap at hc
  split at hc
  · exact hrun c hc
  · next first more hfilter =>
    rw [hfilter] at hbreaks
    split at hc
    · split at hc
      · rw [List.mem_singleton.mp hc]
        decide
      · exact hbreaks c (List.mem_cons_of_mem _ hc)
    · exact hbreaks c hc

/-- Only an empty run is read as nothing. -/
theorem eq_nil_of_foldGap_eq_nil {run : List Char} (h : foldGap run = []) : run = [] := by
  unfold foldGap at h
  split at h
  · exact h
  · split at h
    · split at h
      · cases h
      · next hmore =>
        rw [h] at hmore
        exact absurd rfl hmore
    · cases h

theorem isGap_of_mem_takeWhile {text : List Char} : ∀ c ∈ text.takeWhile isGap, isGap c = true :=
  fun c hc => List.all_eq_true.mp List.all_takeWhile c hc

/-! ## The whole scalar -/

/-- A text in which nothing was folded, and no mark written twice. -/
def Unbroken (text : List Char) : Prop :=
  ∀ c ∈ text, isGap c = false ∧ c ≠ '\''

theorem Unbroken.left {text more : List Char} (h : Unbroken (text ++ more)) : Unbroken text :=
  fun c hc => h c (List.mem_append_left _ hc)

theorem Unbroken.right {text more : List Char} (h : Unbroken (text ++ more)) : Unbroken more :=
  fun c hc => h c (List.mem_append_right _ hc)

theorem joinPieces_cons (piece : List Char) (pieces : List (List Char)) :
    joinPieces (piece :: pieces) = joinPieces pieces ++ piece := by
  simp [joinPieces]

/-- A word without marks in it is what stands there, or a backslash does. -/
theorem quotedWord_text {double : Bool} {bound : Nat} {rest : List Char} {word : QuotedWord}
    (h : (if double then doubleQuotedWord bound rest else some (singleQuotedWord rest)) =
      some word) (hmark : '\'' ∉ word.text) :
    (word.joined = false ∧ rest.take word.length = word.text) ∨
      (double = true ∧ '\\' ∈ rest.take word.length) := by
  split at h
  · next hdouble =>
    rcases doubleQuotedWord_text h with htext | hmem
    · exact .inl htext
    · exact .inr ⟨hdouble, hmem⟩
  · cases h
    exact .inl ⟨singleQuotedWord_joined rest, singleQuotedWord_text rest hmark⟩

/-- What is read of a scalar after its first mark. -/
theorem quotedRest_text {double : Bool} {bound : Nat} {pieces : List (List Char)}
    {content : List Char} (h : quotedRest double bound pieces cursor = some (content, after)) :
    ∃ raw text, content = joinPieces pieces ++ text ∧
      cursor.rest = raw ++ quoteMark double :: after.rest ∧
      (Unbroken text → Verbatim double raw text) := by
  induction bound generalizing pieces cursor with
  | zero => cases h
  | succ bound ih =>
    unfold quotedRest at h
    split at h
    · cases h
    · simp only at h
      split at h
      · cases h
      · next word hword =>
        change (if (cursor.skip word.length).nextIs (· == quoteMark double) then _ else _) = _ at h
        split at h
        · next hclose =>
          simp only [Option.some.injEq, Prod.mk.injEq] at h
          obtain ⟨rfl, rfl⟩ := h
          refine ⟨cursor.rest.take word.length, word.text, joinPieces_cons _ _, ?_, ?_⟩
          · obtain ⟨c, rest, hrest, hmark⟩ := nextIs_eq_true.mp hclose
            rw [rest_skip] at hrest
            rw [rest_advance, rest_skip, hrest, List.tail_cons, ← beq_iff_eq.mp hmark, ← hrest,
              List.take_append_drop]
          · intro hunbroken
            rcases quotedWord_text hword fun hc => (hunbroken _ hc).2 rfl with ⟨_, htext⟩ | hmem
            · exact .inl htext
            · exact .inr hmem
        · -- after the word come a gap and the rest of the scalar
          obtain ⟨raw, text, hcontent, hrest, hmore⟩ := ih h
          rw [joinPieces_cons, joinPieces_cons, List.append_assoc, List.append_assoc] at hcontent
          refine ⟨cursor.rest.take word.length ++
            ((cursor.rest.drop word.length).takeWhile isGap ++ raw), _, hcontent, ?_, ?_⟩
          · rw [rest_readWhile, rest_skip] at hrest
            rw [List.append_assoc, List.append_assoc, ← hrest, List.takeWhile_append_dropWhile,
              List.take_append_drop]
          · intro hunbroken
            have hraw := hmore hunbroken.right.right
            have hgap := hunbroken.right.left
            rcases quotedWord_text hword fun hc => (hunbroken.left _ hc).2 rfl with
              ⟨hjoined, htext⟩ | ⟨hdouble, hmem⟩
            · simp only [hjoined, Bool.false_eq_true, if_false, readWhile, rest_skip] at hgap ⊢
              -- the gap leaves nothing in the text, so there is none
              have hnone : foldGap ((cursor.rest.drop word.length).takeWhile isGap) = [] := by
                refine List.eq_nil_iff_forall_not_mem.mpr fun c hc => ?_
                have hyes := isGap_of_mem_foldGap isGap_of_mem_takeWhile hc
                rw [(hgap c hc).1] at hyes
                cases hyes
              rw [hnone, eq_nil_of_foldGap_eq_nil hnone]
              exact Verbatim.append (.inl htext) (.append (.inl rfl) hraw)
            · exact .inr ⟨hdouble, List.mem_append_left _ hmem⟩

/-- A quoted scalar stands between two marks, and a text without gaps and quotation marks stands
there as it is, unless a backslash does. -/
theorem quotedScalar_text {bound : Nat} {double : Bool} {content rest : List Char}
    (hmark : cursor.rest = quoteMark double :: rest)
    (h : quotedScalar bound double cursor = some (content, after)) :
    ∃ raw, cursor.rest = quoteMark double :: raw ++ quoteMark double :: after.rest ∧
      (Unbroken content → Verbatim double raw content) := by
  obtain ⟨raw, text, hcontent, hrest, hverbatim⟩ := quotedRest_text h
  rw [rest_advance, hmark, List.tail_cons] at hrest
  rw [show joinPieces [] = [] from rfl, List.nil_append] at hcontent
  subst hcontent
  exact ⟨raw, by rw [hmark, hrest]; rfl, hverbatim⟩

/-- What follows a quoted scalar is at a place apart: the mark that closes it comes before. -/
theorem apart_quotedScalar {bound : Nat} {double : Bool} {content rest : List Char}
    (hsuffix : cursor.rest <:+ chars) (hmark : cursor.rest = quoteMark double :: rest)
    (h : quotedScalar bound double cursor = some (content, after)) : Apart chars after := by
  obtain ⟨before, hb⟩ := hsuffix
  obtain ⟨raw, hrest, _⟩ := quotedScalar_text hmark h
  refine ⟨before ++ quoteMark double :: raw ++ [quoteMark double], ?_, ?_⟩
  · rw [← hb, hrest]
    simp
  · intro _ c hc
    rw [List.getLast?_append, List.getLast?_singleton] at hc
    cases hc
    cases double <;> decide

end SchemaBundle.Yaml
