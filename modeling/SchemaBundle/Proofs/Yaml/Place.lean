import SchemaBundle.Proofs.Reference.Occurrences
import SchemaBundle.Yaml.Properties
import SchemaBundle.Yaml.ScalarText

/-!
# Places between tokens

Reading goes on at places of a text. A place is `Apart` from what was read if no quotation mark
follows a name character there: no quotation mark at which a scalar starts can then be the end of
a quoted name. A place is apart where what was read last is no name character, and where what
follows is no quotation mark.

* `Cursor.Apart`: the places of which this is said
* `Cursor.Apart.skipWhile`, `Cursor.apart_skipLineEnd?`: gaps and comments end at such places
-/

namespace SchemaBundle.Yaml

variable {chars : List Char} {cursor after : Cursor}

theorem isNameChar_of_isGap {c : Char} (h : isGap c = true) : isNameChar c = false := by
  have hnat : ∀ n, c.toNat = n → c = Char.ofNat n := fun n hn => by rw [← hn, Char.ofNat_toNat]
  simp only [isGap, isSpaceOrTab, isBreak, Bool.or_eq_true, beq_iff_eq] at h
  rcases h with (rfl | rfl) | ((((rfl | rfl) | h) | h) | h)
  · decide
  · decide
  · decide
  · decide
  all_goals rw [hnat _ h]; decide

theorem isQuote_of_isGap {c : Char} (h : isGap c = true) : isQuote c = false := by
  cases hq : isQuote c with
  | false => rfl
  | true =>
    rcases isQuote_eq_true.mp hq with rfl | rfl <;> exact absurd h (by decide)

theorem isGap_of_isBreak {c : Char} (h : isBreak c = true) : isGap c = true := by
  simp [isGap, h]

namespace Cursor

/-! ## What is left -/

theorem rest_advance (cursor : Cursor) : cursor.advance.rest = cursor.rest.tail := by
  unfold advance
  split
  · next h => rw [h]; rfl
  · next c rest h => rw [h]; split <;> rfl

theorem rest_skip (count : Nat) (cursor : Cursor) :
    (cursor.skip count).rest = cursor.rest.drop count := by
  induction count generalizing cursor with
  | zero => rfl
  | succ count ih =>
    rw [skip, ih, rest_advance, List.drop_tail]

theorem rest_readWhile (p : Char → Bool) (cursor : Cursor) :
    (cursor.readWhile p).2.rest = cursor.rest.dropWhile p := by
  show (cursor.skip (cursor.rest.takeWhile p).length).rest = _
  have hsplit : cursor.rest.takeWhile p ++ cursor.rest.dropWhile p = cursor.rest :=
    List.takeWhile_append_dropWhile
  calc (cursor.skip (cursor.rest.takeWhile p).length).rest
      = (cursor.rest.takeWhile p ++ cursor.rest.dropWhile p).drop
          (cursor.rest.takeWhile p).length := by rw [rest_skip, hsplit]
    _ = cursor.rest.dropWhile p := List.drop_left

theorem suffix_advance (cursor : Cursor) : cursor.advance.rest <:+ cursor.rest := by
  rw [rest_advance]
  exact List.tail_suffix _

theorem suffix_skip (count : Nat) (cursor : Cursor) :
    (cursor.skip count).rest <:+ cursor.rest := by
  rw [rest_skip]
  exact List.drop_suffix _ _

theorem suffix_readWhile (p : Char → Bool) (cursor : Cursor) :
    (cursor.readWhile p).2.rest <:+ cursor.rest :=
  suffix_skip _ _

theorem suffix_skipWhile (p : Char → Bool) (cursor : Cursor) :
    (cursor.skipWhile p).rest <:+ cursor.rest :=
  suffix_readWhile p cursor

theorem nextIs_eq_true {p : Char → Bool} :
    cursor.nextIs p = true ↔ ∃ c rest, cursor.rest = c :: rest ∧ p c = true := by
  unfold nextIs next?
  cases cursor.rest with
  | nil => simp
  | cons c rest => simp

theorem nextIs_eq_false {p : Char → Bool} :
    cursor.nextIs p = false ↔ ∀ c rest, cursor.rest = c :: rest → p c = false := by
  unfold nextIs next?
  cases cursor.rest with
  | nil => simp
  | cons c rest => simp

/-! ## Places apart -/

/-- At a place no quotation mark follows a name character. -/
def Apart (chars : List Char) (cursor : Cursor) : Prop :=
  ∃ before, chars = before ++ cursor.rest ∧
    (cursor.nextIs isQuote = true → ∀ c, before.getLast? = some c → isNameChar c = false)

theorem Apart.suffix (h : Apart chars cursor) : cursor.rest <:+ chars := by
  obtain ⟨before, hb, _⟩ := h
  exact ⟨before, hb.symm⟩

theorem apart_start (chars : List Char) : Apart chars (start chars) :=
  ⟨[], rfl, fun _ c hc => by simp at hc⟩

/-- A place is apart if no quotation mark follows. -/
theorem apart_of_next (hsuffix : cursor.rest <:+ chars) (h : cursor.nextIs isQuote = false) :
    Apart chars cursor := by
  obtain ⟨before, hb⟩ := hsuffix
  refine ⟨before, hb.symm, ?_⟩
  intro hq
  rw [h] at hq
  cases hq

/-- A place is apart if nothing follows. -/
theorem apart_of_rest_eq_nil (h : cursor.rest = []) : Apart chars cursor := by
  refine apart_of_next ⟨chars, by rw [h, List.append_nil]⟩ ?_
  rw [nextIs_eq_false, h]
  intro c rest hc
  cases hc

/-- A place is apart if the character before it is no name character. -/
theorem apart_advance (hsuffix : cursor.rest <:+ chars) {c : Char} {rest : List Char}
    (hrest : cursor.rest = c :: rest) (hc : isNameChar c = false) :
    Apart chars cursor.advance := by
  obtain ⟨before, hb⟩ := hsuffix
  refine ⟨before ++ [c], ?_, ?_⟩
  · rw [rest_advance, hrest, ← hb, hrest]
    simp
  · intro _ d hd
    rw [List.getLast?_append, List.getLast?_singleton] at hd
    cases hd
    exact hc

/-- A place stays apart where characters are skipped that are no name characters. -/
theorem Apart.skip (h : Apart chars cursor) (count : Nat)
    (hskip : ∀ c ∈ cursor.rest.take count, isNameChar c = false) :
    Apart chars (cursor.skip count) := by
  induction count generalizing cursor with
  | zero => exact h
  | succ count ih =>
    cases hrest : cursor.rest with
    | nil =>
      refine apart_of_rest_eq_nil ?_
      rw [rest_skip, hrest, List.drop_nil]
    | cons c rest =>
      rw [hrest, List.take_succ_cons] at hskip
      refine ih (apart_advance h.suffix hrest (hskip c List.mem_cons_self)) ?_
      rw [rest_advance, hrest]
      exact fun d hd => hskip d (List.mem_cons_of_mem _ hd)

theorem Apart.skipWhile (h : Apart chars cursor) {p : Char → Bool}
    (hp : ∀ c, p c = true → isNameChar c = false) : Apart chars (cursor.skipWhile p) := by
  refine Apart.skip h _ ?_
  intro c hc
  have hprefix : cursor.rest.takeWhile p <+: cursor.rest := List.takeWhile_prefix p
  rw [← List.prefix_iff_eq_take.mp hprefix] at hc
  exact hp c (List.all_eq_true.mp List.all_takeWhile c hc)

theorem nextIs_skipWhile {p q : Char → Bool} (cursor : Cursor)
    (h : ∀ c, p c = false → q c = false) : (cursor.skipWhile p).nextIs q = false := by
  rw [nextIs_eq_false]
  intro c rest hc
  have hdrop : cursor.rest.dropWhile p = c :: rest := by
    rw [← rest_readWhile]
    exact hc
  refine h c ?_
  have hhead := List.head?_dropWhile_not p cursor.rest
  rw [hdrop] at hhead
  simpa using hhead

/-! ## Line ends -/

/-- The place after the end of a line is apart. -/
theorem apart_advance_of_atLineEnd (hsuffix : cursor.rest <:+ chars)
    (h : cursor.atLineEnd = true) : Apart chars cursor.advance := by
  cases hrest : cursor.rest with
  | nil =>
    refine apart_of_rest_eq_nil ?_
    rw [rest_advance, hrest]
    rfl
  | cons c rest =>
    rw [atLineEnd, hrest] at h
    exact apart_advance hsuffix hrest (isNameChar_of_isGap (isGap_of_isBreak h))

theorem apart_skipLineEnd? (hsuffix : cursor.rest <:+ chars)
    (h : cursor.skipLineEnd? = some after) : Apart chars after := by
  have hend : ∀ line : Cursor, line.rest <:+ chars →
      (if line.atLineEnd then some line.advance else none) = some after → Apart chars after := by
    intro line hline hafter
    split at hafter
    · next hl =>
      cases hafter
      exact apart_advance_of_atLineEnd hline hl
    · cases hafter
  unfold skipLineEnd? at h
  refine hend _ ?_ h
  split
  · exact ((suffix_skipWhile _ _).trans (suffix_skipWhile _ _)).trans hsuffix
  · exact (suffix_skipWhile _ _).trans hsuffix

/-- A gap or the end is at a place apart. -/
theorem apart_of_gapAfter (hsuffix : cursor.rest <:+ chars) {count : Nat}
    (h : cursor.gapAfter count = true) : Apart chars (cursor.skip count) := by
  refine apart_of_next ((suffix_skip _ _).trans hsuffix) (nextIs_eq_false.mpr ?_)
  intro c rest hrest
  rw [rest_skip] at hrest
  rw [gapAfter, hrest] at h
  exact isQuote_of_isGap h

end Cursor

end SchemaBundle.Yaml
