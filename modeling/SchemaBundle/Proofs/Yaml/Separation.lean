import SchemaBundle.Proofs.Yaml.Place

/-!
# What ends at a place apart

Whatever is read between two quoted scalars ends at a place apart: anchors and tags, since a gap or
a mark of their own must follow, directives and blocks, since they end with a line, and plain
scalars, since no quotation mark ends a word of theirs.

* `apart_anchorName?`, `apart_tag?`, `apart_directive?`: what stands before a node or a document
* `apart_plainScalar`, `apart_blockScalar`: scalars without quotes
-/

namespace SchemaBundle.Yaml

open Cursor

variable {chars : List Char} {cursor after : Cursor}

/-! ## Anchors, tags and directives -/

theorem apart_anchorName? {name : String} (hsuffix : cursor.rest <:+ chars)
    (h : anchorName? cursor = some (name, after)) : Apart chars after := by
  unfold anchorName? at h
  simp only at h
  split at h
  · cases h
  · next hends =>
    simp only [Option.some.injEq, Prod.mk.injEq] at h
    obtain ⟨-, rfl⟩ := h
    refine apart_of_next (((suffix_readWhile _ _).trans (suffix_advance _)).trans hsuffix) ?_
    rw [nextIs_eq_false]
    intro c rest hrest
    simp only [next?, hrest, not_or, Decidable.not_not] at hends
    have hc := hends.2
    simp only [List.head?_cons, Option.all_some, Bool.or_eq_true, decide_eq_true_eq] at hc
    rcases hc with hc | hc
    · exact isQuote_of_isGap hc
    · simp only [List.mem_cons, List.not_mem_nil, or_false] at hc
      rcases hc with rfl | rfl | rfl | rfl | rfl | rfl | rfl | rfl <;> decide

theorem suffix_tagHandle? {handle : List Char} (h : tagHandle? cursor = some (handle, after)) :
    after.rest <:+ cursor.rest := by
  unfold tagHandle? at h
  simp only at h
  have hread := (suffix_readWhile isWordChar cursor.advance).trans (suffix_advance cursor)
  split at h
  · split at h
    · cases h
      exact (suffix_advance _).trans hread
    · cases h
      exact hread
  · cases h

theorem suffix_tagText? {bound : Nat} {bracketed : Bool} {text : List Char}
    (h : tagText? bound bracketed cursor = some (text, after)) : after.rest <:+ cursor.rest := by
  obtain ⟨⟨content, count⟩, _, heq⟩ := Option.map_eq_some_iff.mp h
  cases heq
  exact suffix_skip _ _

theorem suffix_tagBody? {bound : Nat} {tag : TagText}
    (h : tagBody? bound cursor = some (tag, after)) : after.rest <:+ cursor.rest := by
  unfold tagBody? at h
  split at h
  · obtain ⟨⟨suffix, close⟩, htext, h⟩ := Option.bind_eq_some_iff.mp h
    have hclose := (suffix_tagText? htext).trans (suffix_skip _ _)
    simp only at h
    split at h
    · cases h
    · cases h
      exact (suffix_advance _).trans hclose
  · obtain ⟨⟨handle, start⟩, hhandle, h⟩ := Option.bind_eq_some_iff.mp h
    obtain ⟨⟨suffix, close⟩, htext, h⟩ := Option.bind_eq_some_iff.mp h
    have hclose := (suffix_tagText? htext).trans (suffix_tagHandle? hhandle)
    simp only at h
    split at h
    · split at h
      · cases h
      · cases h
        exact hclose
    · split at h <;> cases h <;> exact hclose

theorem apart_tag? {bound : Nat} {inFlow : Bool} {tag : TagText} (hsuffix : cursor.rest <:+ chars)
    (h : tag? bound inFlow cursor = some (tag, after)) : Apart chars after := by
  obtain ⟨⟨text, close⟩, hbody, h⟩ := Option.bind_eq_some_iff.mp h
  have hclose := (suffix_tagBody? hbody).trans hsuffix
  simp only at h
  split at h
  · next hends =>
    cases h
    rcases hends with hgap | ⟨-, hcomma⟩
    · exact apart_of_gapAfter hclose hgap
    · refine apart_of_next hclose (nextIs_eq_false.mpr ?_)
      intro c rest hrest
      simp only [nextIs, next?, hrest, List.head?_cons, Option.any_some, beq_iff_eq] at hcomma
      rw [hcomma]
      decide
  · cases h

theorem suffix_versionNumber? {n : Nat} (h : versionNumber? cursor = some (n, after)) :
    after.rest <:+ cursor.rest := by
  unfold versionNumber? at h
  simp only at h
  split at h
  · cases h
  · cases h
    exact suffix_readWhile _ _

theorem suffix_version? {token : Token} (h : version? cursor = some (token, after)) :
    after.rest <:+ cursor.rest := by
  obtain ⟨⟨major, dot⟩, hmajor, h⟩ := Option.bind_eq_some_iff.mp h
  simp only at h
  split at h
  · obtain ⟨⟨minor, close⟩, hminor, heq⟩ := Option.map_eq_some_iff.mp h
    cases heq
    exact (((suffix_versionNumber? hminor).trans (suffix_advance _)).trans
      (suffix_versionNumber? hmajor)).trans (suffix_skipWhile _ _)
  · cases h

theorem suffix_tagDefinition? {bound : Nat} {token : Token}
    (h : tagDefinition? bound cursor = some (token, after)) : after.rest <:+ cursor.rest := by
  obtain ⟨⟨handle, gap⟩, hhandle, h⟩ := Option.bind_eq_some_iff.mp h
  simp only at h
  split at h
  · cases h
  · split at h
    · cases h
    · obtain ⟨⟨expansion, close⟩, htext, h⟩ := Option.bind_eq_some_iff.mp h
      simp only at h
      split at h
      · cases h
      · cases h
        exact (((suffix_tagText? htext).trans (suffix_skipWhile _ _)).trans
          (suffix_tagHandle? hhandle)).trans (suffix_skipWhile _ _)

theorem apart_directive? {bound : Nat} {token : Token} (hsuffix : cursor.rest <:+ chars)
    (h : directive? bound cursor = some (token, after)) : Apart chars after := by
  have hname := ((suffix_readWhile isWordChar cursor.advance).trans (suffix_advance cursor)).trans
    hsuffix
  unfold directive? at h
  simp only at h
  split at h
  · cases h
  · obtain ⟨⟨body, close⟩, hbody, h⟩ := Option.bind_eq_some_iff.mp h
    obtain ⟨line, hline, heq⟩ := Option.map_eq_some_iff.mp h
    cases heq
    refine apart_skipLineEnd? ?_ hline
    split at hbody
    · exact (suffix_version? hbody).trans hname
    · split at hbody
      · exact (suffix_tagDefinition? hbody).trans hname
      · cases hbody

/-! ## Plain scalars -/

/-- What follows a word of a plain scalar is no quotation mark. -/
theorem nextIs_skip_plainWordLength {inFlow : Bool} {length : Nat}
    (h : plainWordLength inFlow cursor.rest = some length) :
    (cursor.skip length).nextIs isQuote = false := by
  -- a word ends at a gap, at a colon, at a mark of flow collections or with the text
  have hword : ∀ (text : List Char) (length : Nat), plainWordLength inFlow text = some length →
      ∀ c rest, text.drop length = c :: rest → isQuote c = false := by
    intro text
    induction text with
    | nil => intro length h c rest hrest; simp at hrest
    | cons d text ih =>
      intro length h c rest hrest
      unfold plainWordLength at h
      split at h
      · next hgap =>
        cases h
        cases hrest
        exact isQuote_of_isGap hgap
      · split at h
        · cases h
        · split at h
          · next hcolon =>
            cases h
            cases hrest
            rw [hcolon.1]
            decide
          · split at h
            · next hflow =>
              cases h
              cases hrest
              have hmem := hflow.2
              simp only [isFlowIndicator, decide_eq_true_eq, List.mem_cons, List.not_mem_nil,
                or_false] at hmem
              rcases hmem with rfl | rfl | rfl | rfl | rfl <;> decide
            · obtain ⟨count, hcount, rfl⟩ := Option.map_eq_some_iff.mp h
              rw [List.drop_succ_cons] at hrest
              exact ih count hcount c rest hrest
  rw [nextIs_eq_false]
  intro c rest hrest
  rw [rest_skip] at hrest
  exact hword cursor.rest length h c rest hrest

theorem apart_plainWords {inFlow : Bool} {indent bound : Nat} {pieces : List (List Char)}
    {plain : PlainScalar} (hapart : Apart chars cursor)
    (h : plainWords inFlow indent bound pieces cursor = some plain) :
    Apart chars plain.cursor := by
  induction bound generalizing pieces cursor with
  | zero =>
    cases h
    exact hapart
  | succ bound ih =>
    have hgap : Apart chars (cursor.readWhile isGap).2 :=
      hapart.skipWhile fun _ => isNameChar_of_isGap
    unfold plainWords at h
    simp only at h
    split at h
    · cases h
      exact hapart
    · split at h
      · cases h
      · split at h
        · cases h
          exact hgap
        · split at h
          · cases h
          · cases h
            exact hgap
          · next length _ hlength =>
            refine ih ?_ h
            exact apart_of_next ((suffix_skip _ _).trans hgap.suffix)
              (nextIs_skip_plainWordLength hlength)

theorem apart_plainScalar {inFlow : Bool} {indent bound : Nat} {plain : PlainScalar}
    (hsuffix : cursor.rest <:+ chars)
    (h : plainScalar bound inFlow indent cursor = some plain) : Apart chars plain.cursor := by
  obtain ⟨length, hlength, h⟩ := Option.bind_eq_some_iff.mp h
  refine apart_plainWords ?_ h
  exact apart_of_next ((suffix_skip _ _).trans hsuffix) (nextIs_skip_plainWordLength hlength)

/-! ## Block scalars -/

theorem apart_blockHeader? {chomping : Chomping} {increment : Option Nat}
    (hsuffix : cursor.rest <:+ chars)
    (h : blockHeader? cursor = some (chomping, increment, after)) : Apart chars after := by
  have hone := (suffix_advance cursor).trans hsuffix
  have htwo := (suffix_advance cursor.advance).trans hone
  have hend : ∀ signs : Chomping × Option Nat × Cursor, signs.2.2.rest <:+ chars →
      (if signs.2.1 = some 0 then none
        else signs.2.2.skipLineEnd?.map fun line => (signs.1, signs.2.1, line)) =
          some (chomping, increment, after) → Apart chars after := by
    intro signs hsigns hafter
    split at hafter
    · cases hafter
    · obtain ⟨line, hline, heq⟩ := Option.map_eq_some_iff.mp hafter
      cases heq
      exact apart_skipLineEnd? hsigns hline
  unfold blockHeader? at h
  refine hend _ ?_ h
  split
  · split
    · exact htwo
    · exact hone
  · split
    · exact hsuffix
    · split
      · exact htwo
      · exact hone

theorem apart_blockGap {indent : Option Nat} {bound deepest : Nat} {breaks : List Char}
    {result : List Char × Nat × Cursor} (hapart : Apart chars cursor)
    (h : blockGap indent bound breaks deepest cursor = some result) :
    Apart chars result.2.2 := by
  induction bound generalizing breaks deepest cursor with
  | zero =>
    cases h
    exact hapart
  | succ bound ih =>
    have hblanks : ∀ count, count ≤ (cursor.rest.takeWhile (· == ' ')).length →
        Apart chars (cursor.skip count) := by
      intro count hcount
      refine hapart.skip count ?_
      intro c hc
      have hprefix : cursor.rest.takeWhile (· == ' ') <+: cursor.rest := List.takeWhile_prefix _
      have hmem : c ∈ cursor.rest.takeWhile (· == ' ') := by
        rw [List.prefix_iff_eq_take.mp hprefix]
        exact List.take_subset_take_left _ hcount hc
      have hblank := List.all_eq_true.mp List.all_takeWhile c hmem
      rw [beq_iff_eq.mp hblank]
      decide
    unfold blockGap at h
    simp only at h
    -- whether or not the indentation is known, no more than the blanks are skipped
    split at h
    all_goals
      split at h
      · cases h
      · split at h
        · next c hc =>
          split at h
          · next hbreak =>
            refine ih ?_ h
            obtain ⟨rest, hrest⟩ := List.head?_eq_some_iff.mp hc
            exact apart_advance (Apart.suffix (hblanks _ (by omega))) hrest
              (isNameChar_of_isGap (isGap_of_isBreak hbreak))
          · cases h
            exact hblanks _ (by omega)
        · cases h
          exact hblanks _ (by omega)

theorem apart_blockLines {folded : Bool} {indent bound : Nat} {block : BlockText}
    {result : BlockText × Cursor} (hapart : Apart chars cursor)
    (h : blockLines folded indent bound block cursor = some result) :
    Apart chars result.2 := by
  induction bound generalizing block cursor with
  | zero =>
    cases h
    exact hapart
  | succ bound ih =>
    unfold blockLines at h
    simp only at h
    split at h
    · cases h
      exact hapart
    · split at h
      · cases h
      · next hgap =>
        refine ih ?_ h
        refine apart_blockGap (apart_advance_of_atLineEnd ?_ ?_) hgap
        · exact (suffix_readWhile _ _).trans hapart.suffix
        · -- a line is read up to its end
          rw [atLineEnd, rest_readWhile]
          split
          · rfl
          · next c rest hrest =>
            have hhead := List.head?_dropWhile_not (fun c => !isBreak c) cursor.rest
            rw [hrest] at hhead
            simpa using hhead

theorem apart_blockScalar {bound : Nat} {folded : Bool} {column : Option Nat}
    {result : List Char × Cursor} (hsuffix : cursor.rest <:+ chars)
    (h : blockScalar bound folded column cursor = some result) : Apart chars result.2 := by
  obtain ⟨⟨chomping, increment, first⟩, hheader, h⟩ := Option.bind_eq_some_iff.mp h
  obtain ⟨⟨empty, deepest, start⟩, hgap, h⟩ := Option.bind_eq_some_iff.mp h
  obtain ⟨⟨block, close⟩, hlines, rfl⟩ := Option.map_eq_some_iff.mp h
  have hfirst := apart_blockHeader? ((suffix_advance cursor).trans hsuffix) hheader
  exact apart_blockLines (apart_blockGap hfirst hgap) hlines

end SchemaBundle.Yaml
