import SchemaBundle.Proofs.Yaml.QuotedText
import SchemaBundle.Proofs.Yaml.Separation
import SchemaBundle.Yaml.TokenStream

/-!
# Scalars among the tokens of a text

What the scalars among the tokens say of the text: a quoted one is read at a place apart, and a
plain one does not start with a number sign. The invariant is that every place at which reading
goes on is apart; each reader of a token keeps it.

* `Token.Faithful`: what is said of a token
* `Scan.Sound.step?`: the invariant is kept
* `faithful_of_mem_tokens`: every token of a text is faithful
-/

namespace SchemaBundle.Yaml

open Cursor

variable {chars : List Char}

/-! ## The invariant -/

/-- What a scalar among the tokens says of the text that is read. -/
def Token.Faithful (chars : List Char) : Token → Prop
  | .scalar text .plain => text.toList.head? ≠ some '#'
  | .scalar text .quoted => ∃ double bound place after rest, Apart chars place ∧
      place.rest = quoteMark double :: rest ∧
      quotedScalar bound double place = some (text.toList, after)
  | _ => True

namespace Scan

variable {scan after : Scan}

/-- Reading goes on at a place apart, and the tokens that are held are faithful. -/
structure Sound (chars : List Char) (scan : Scan) : Prop where
  apart : Apart chars scan.cursor
  faithful : ∀ token ∈ scan.held, token.Faithful chars

theorem sound_start (chars : List Char) : (start chars).Sound chars :=
  ⟨apart_start chars, fun _ h => by cases h⟩

theorem Sound.push (h : scan.Sound chars) {token : Token} (ht : token.Faithful chars) :
    (scan.push token).Sound chars := by
  refine ⟨h.apart, fun t hmem => ?_⟩
  rcases List.mem_append.mp hmem with hmem | hmem
  · exact h.faithful t hmem
  · rw [List.mem_singleton.mp hmem]
    exact ht

theorem Sound.insertAt (h : scan.Sound chars) (position : Nat) {token : Token}
    (ht : token.Faithful chars) : (scan.insertAt position token).Sound chars := by
  refine ⟨h.apart, fun t hmem => ?_⟩
  rcases List.mem_append.mp hmem with hmem | hmem
  · exact h.faithful t (List.mem_of_mem_take hmem)
  · rcases List.mem_cons.mp hmem with rfl | hmem
    · exact ht
    · exact h.faithful t (List.mem_of_mem_drop hmem)

theorem Sound.goTo (h : scan.Sound chars) {cursor : Cursor} (hapart : Apart chars cursor) :
    (scan.goTo cursor).Sound chars :=
  ⟨hapart, h.faithful⟩

theorem Sound.allowKey (h : scan.Sound chars) (allowed : Bool) :
    (scan.allowKey allowed).Sound chars :=
  ⟨h.apart, h.faithful⟩

/-! ## Keys and indentation -/

theorem Sound.dropStale? (h : scan.Sound chars) (hdrop : scan.dropStale? = some after) :
    after.Sound chars := by
  unfold Scan.dropStale? at hdrop
  simp only at hdrop
  split at hdrop
  · cases hdrop
  · cases hdrop
    exact ⟨h.apart, h.faithful⟩

theorem cursor_dropCandidate? (hdrop : scan.dropCandidate? = some after) :
    after.cursor = scan.cursor ∧ after.held = scan.held := by
  unfold dropCandidate? at hdrop
  split at hdrop
  · split at hdrop
    · cases hdrop
    · cases hdrop
      exact ⟨rfl, rfl⟩
  · cases hdrop
    exact ⟨rfl, rfl⟩

theorem cursor_saveCandidate? (hsave : scan.saveCandidate? = some after) :
    after.cursor = scan.cursor ∧ after.held = scan.held := by
  unfold saveCandidate? at hsave
  split at hsave
  · obtain ⟨dropped, hdrop, rfl⟩ := Option.map_eq_some_iff.mp hsave
    have heq := cursor_dropCandidate? hdrop
    exact heq
  · cases hsave
    exact ⟨rfl, rfl⟩

theorem Sound.of_eq (h : scan.Sound chars)
    (heq : after.cursor = scan.cursor ∧ after.held = scan.held) : after.Sound chars :=
  ⟨heq.1 ▸ h.apart, heq.2 ▸ h.faithful⟩

theorem cursor_openBlock (column : Nat) (position : Option Nat) (token : Token) (scan : Scan) :
    (scan.openBlock column position token).cursor = scan.cursor := by
  unfold openBlock
  split
  · rfl
  · split <;> rfl

theorem Sound.openBlock (h : scan.Sound chars) (column : Nat) (position : Option Nat)
    {token : Token} (ht : token.Faithful chars) :
    (scan.openBlock column position token).Sound chars := by
  unfold Scan.openBlock
  split
  · exact h
  · have hcolumns : ({ scan with columns := column :: scan.columns } : Scan).Sound chars :=
      ⟨h.apart, h.faithful⟩
    split
    · exact hcolumns.push ht
    · exact hcolumns.insertAt _ ht

theorem cursor_closeBlocks (column : Option Nat) (scan : Scan) :
    (scan.closeBlocks column).cursor = scan.cursor := by
  unfold closeBlocks
  split <;> rfl

theorem Sound.closeBlocks (h : scan.Sound chars) (column : Option Nat) :
    (scan.closeBlocks column).Sound chars := by
  unfold Scan.closeBlocks
  split
  · exact h
  · refine ⟨h.apart, fun t hmem => ?_⟩
    rcases List.mem_append.mp hmem with hmem | hmem
    · exact h.faithful t hmem
    · obtain ⟨_, _, rfl⟩ := List.mem_map.mp hmem
      trivial

/-! ## Gaps -/

theorem Sound.skipByteOrderMark (h : scan.Sound chars) : scan.skipByteOrderMark.Sound chars := by
  unfold Scan.skipByteOrderMark
  split
  · next hmark =>
    obtain ⟨c, rest, hrest, hbom⟩ := nextIs_eq_true.mp hmark.2
    refine h.goTo (apart_advance h.apart.suffix hrest ?_)
    rw [beq_iff_eq.mp hbom]
    decide
  · exact h

theorem Sound.skipGap (h : scan.Sound chars) (bound : Nat) : (scan.skipGap bound).Sound chars := by
  induction bound generalizing scan with
  | zero => exact h
  | succ bound ih =>
    -- a comment goes to the end of its line
    have hcomment : ∀ cursor : Cursor, Apart chars cursor →
        Apart chars
          (if cursor.nextIs (· == '#') then cursor.skipWhile (!isBreak ·) else cursor) := by
      intro cursor hcursor
      split
      · refine apart_of_next ((suffix_skipWhile _ _).trans hcursor.suffix) ?_
        refine nextIs_skipWhile _ fun c hc => isQuote_of_isGap (isGap_of_isBreak ?_)
        simpa using hc
      · exact hcursor
    have hnext : ∀ place : Cursor, Apart chars place →
        (if place.nextIs isBreak then
          Scan.skipGap bound
            { scan with cursor := place.advance, keyAllowed := scan.keyAllowed || !scan.inFlow }
        else { scan with cursor := place }).Sound chars := by
      intro place hplace
      split
      · next hbreak =>
        obtain ⟨c, rest, hrest, hbreak⟩ := nextIs_eq_true.mp hbreak
        refine ih ⟨?_, h.faithful⟩
        exact apart_advance hplace.suffix hrest (isNameChar_of_isGap (isGap_of_isBreak hbreak))
      · exact ⟨hplace, h.faithful⟩
    refine hnext _ (hcomment _ (h.apart.skipWhile ?_))
    intro c hc
    refine isNameChar_of_isGap ?_
    simp only [Bool.or_eq_true, Bool.and_eq_true] at hc
    simp only [isGap, isSpaceOrTab, Bool.or_eq_true]
    exact hc.elim (fun hc => .inl (.inl hc)) (fun hc => .inl (.inr hc.2))

/-! ## One token -/

/-- A mark that is no name character may be read over. -/
theorem Sound.advance (h : after.Sound chars) (heq : after.cursor = scan.cursor) {c : Char}
    {rest : List Char} (hrest : scan.cursor.rest = c :: rest) (hc : isNameChar c = false) :
    (after.goTo after.cursor.advance).Sound chars := by
  rw [← heq] at hrest
  exact h.goTo (apart_advance h.apart.suffix hrest hc)

theorem Sound.endText? (h : scan.Sound chars) (hread : scan.endText? = some after) :
    after.Sound chars := by
  obtain ⟨dropped, hdrop, rfl⟩ := Option.map_eq_some_iff.mp hread
  have hended : Apart chars (if scan.cursor.column = 0 then scan.cursor
      else { scan.cursor with line := scan.cursor.line + 1, column := 0 }) := by
    split
    · exact h.apart
    · exact h.apart
  have hclosed := ((h.goTo hended).closeBlocks none).of_eq (cursor_dropCandidate? hdrop)
  exact (hclosed.allowKey false).push trivial

theorem token_directive? {bound : Nat} {cursor place : Cursor} {token : Token}
    (h : directive? bound cursor = some (token, place)) : token.Faithful chars := by
  unfold directive? at h
  simp only at h
  split at h
  · cases h
  · obtain ⟨⟨body, close⟩, hbody, h⟩ := Option.bind_eq_some_iff.mp h
    obtain ⟨line, _, heq⟩ := Option.map_eq_some_iff.mp h
    cases heq
    split at hbody
    · obtain ⟨⟨major, dot⟩, _, hbody⟩ := Option.bind_eq_some_iff.mp hbody
      simp only at hbody
      split at hbody
      · obtain ⟨⟨minor, _⟩, _, heq⟩ := Option.map_eq_some_iff.mp hbody
        cases heq
        trivial
      · cases hbody
    · split at hbody
      · obtain ⟨⟨handle, gap⟩, _, hbody⟩ := Option.bind_eq_some_iff.mp hbody
        simp only at hbody
        split at hbody
        · cases hbody
        · split at hbody
          · cases hbody
          · obtain ⟨⟨expansion, _⟩, _, hbody⟩ := Option.bind_eq_some_iff.mp hbody
            simp only at hbody
            split at hbody
            · cases hbody
            · cases hbody
              trivial
      · cases hbody

theorem Sound.readDirective? (h : scan.Sound chars) (hread : scan.readDirective? = some after) :
    after.Sound chars := by
  obtain ⟨dropped, hdrop, hread⟩ := Option.bind_eq_some_iff.mp hread
  obtain ⟨⟨token, place⟩, hdirective, rfl⟩ := Option.map_eq_some_iff.mp hread
  have hclosed := (h.closeBlocks none).of_eq (cursor_dropCandidate? hdrop)
  exact ((hclosed.allowKey false).goTo (apart_directive? hclosed.apart.suffix hdirective)).push
    (token_directive? hdirective)

theorem Sound.readMarker? (h : scan.Sound chars) (hmarker : scan.cursor.atMarker = true)
    {token : Token} (ht : token.Faithful chars) (hread : scan.readMarker? token = some after) :
    after.Sound chars := by
  obtain ⟨dropped, hdrop, rfl⟩ := Option.map_eq_some_iff.mp hread
  have hcursor := (cursor_dropCandidate? hdrop).1
  rw [cursor_closeBlocks] at hcursor
  have hclosed := (h.closeBlocks none).of_eq (cursor_dropCandidate? hdrop)
  have hgap : dropped.cursor.gapAfter 3 = true := by
    rw [atMarker, Bool.and_eq_true] at hmarker
    rw [hcursor]
    exact hmarker.2
  exact ((hclosed.allowKey false).goTo (apart_of_gapAfter hclosed.apart.suffix hgap)).push ht

section Marks

variable {c : Char} {rest : List Char} {token : Token}

theorem Sound.openFlow? (h : scan.Sound chars) (hrest : scan.cursor.rest = c :: rest)
    (hc : isNameChar c = false) (ht : token.Faithful chars)
    (hread : scan.openFlow? token = some after) : after.Sound chars := by
  obtain ⟨saved, hsave, rfl⟩ := Option.map_eq_some_iff.mp hread
  have heq := cursor_saveCandidate? hsave
  have hpushed := ((h.of_eq heq).advance heq.1 hrest hc).push ht
  exact ⟨hpushed.apart, hpushed.faithful⟩

theorem Sound.closeFlow? (h : scan.Sound chars) (hrest : scan.cursor.rest = c :: rest)
    (hc : isNameChar c = false) (ht : token.Faithful chars)
    (hread : scan.closeFlow? token = some after) : after.Sound chars := by
  obtain ⟨dropped, hdrop, rfl⟩ := Option.map_eq_some_iff.mp hread
  have heq := cursor_dropCandidate? hdrop
  have hpushed := ((h.of_eq heq).advance heq.1 hrest hc).push ht
  exact ⟨hpushed.apart, hpushed.faithful⟩

theorem Sound.readFlowEntry? (h : scan.Sound chars) (hrest : scan.cursor.rest = c :: rest)
    (hc : isNameChar c = false) (hread : scan.readFlowEntry? = some after) :
    after.Sound chars := by
  obtain ⟨dropped, hdrop, rfl⟩ := Option.map_eq_some_iff.mp hread
  have heq := cursor_dropCandidate? hdrop
  have hallowed := (h.of_eq heq).allowKey true
  exact (hallowed.advance heq.1 hrest hc).push trivial

theorem Sound.readBlockEntry? (h : scan.Sound chars) (hrest : scan.cursor.rest = c :: rest)
    (hc : isNameChar c = false) (hread : scan.readBlockEntry? = some after) :
    after.Sound chars := by
  unfold Scan.readBlockEntry? at hread
  split at hread
  · cases hread
  · obtain ⟨dropped, hdrop, rfl⟩ := Option.map_eq_some_iff.mp hread
    have heq := cursor_dropCandidate? hdrop
    have hopened : (scan.openBlock scan.cursor.column none .blockSequenceStart).Sound chars :=
      h.openBlock _ _ trivial
    have hallowed := (hopened.of_eq heq).allowKey true
    exact (hallowed.advance (heq.1.trans (cursor_openBlock _ _ _ _)) hrest hc).push trivial

theorem Sound.readKey? (h : scan.Sound chars) (hrest : scan.cursor.rest = c :: rest)
    (hc : isNameChar c = false) (hread : scan.readKey? = some after) : after.Sound chars := by
  unfold Scan.readKey? at hread
  split at hread
  · cases hread
  · obtain ⟨dropped, hdrop, rfl⟩ := Option.map_eq_some_iff.mp hread
    have heq := cursor_dropCandidate? hdrop
    have hopened : (scan.openBlock scan.cursor.column none .blockMappingStart).Sound chars :=
      h.openBlock _ _ trivial
    have hallowed := (hopened.of_eq heq).allowKey (!dropped.inFlow)
    exact (hallowed.advance (heq.1.trans (cursor_openBlock _ _ _ _)) hrest hc).push trivial

theorem Sound.readValue? (h : scan.Sound chars) (hrest : scan.cursor.rest = c :: rest)
    (hc : isNameChar c = false) (hread : scan.readValue? = some after) : after.Sound chars := by
  -- the start of a mapping is put before the value, but reading stays where it is
  have hvalue : ∀ place : Scan, place.cursor = scan.cursor → place.Sound chars →
      ((place.goTo place.cursor.advance).push .value).Sound chars := fun place heq hplace =>
    (hplace.advance heq hrest hc).push trivial
  unfold Scan.readValue? at hread
  simp only at hread
  split at hread
  · next key candidates _ =>
    cases hread
    have hkey : ({ scan with candidates := none :: candidates, keyAllowed := false } : Scan).Sound
        chars := ⟨h.apart, h.faithful⟩
    refine hvalue _ (cursor_openBlock _ _ _ _) (Sound.openBlock ?_ _ _ trivial)
    exact hkey.insertAt key.position trivial
  · split at hread
    · cases hread
    · cases hread
      refine hvalue _ (cursor_openBlock _ _ _ _) (Sound.allowKey ?_ _)
      exact h.openBlock _ _ trivial

end Marks

theorem Sound.readContent? (h : scan.Sound chars) {read : Cursor → Option (Token × Cursor)}
    (hkeep : ∀ token place, read scan.cursor = some (token, place) →
      token.Faithful chars ∧ Apart chars place)
    (hread : scan.readContent? read = some after) : after.Sound chars := by
  obtain ⟨saved, hsave, hread⟩ := Option.bind_eq_some_iff.mp hread
  obtain ⟨⟨token, place⟩, hcontent, rfl⟩ := Option.map_eq_some_iff.mp hread
  have heq := cursor_saveCandidate? hsave
  rw [heq.1] at hcontent
  obtain ⟨ht, hplace⟩ := hkeep token place hcontent
  exact (((h.of_eq heq).allowKey false).goTo hplace).push ht

theorem Sound.readBlockScalar? (h : scan.Sound chars) {folded : Bool}
    (hread : scan.readBlockScalar? folded = some after) : after.Sound chars := by
  obtain ⟨dropped, hdrop, hread⟩ := Option.bind_eq_some_iff.mp hread
  obtain ⟨⟨text, place⟩, hblock, rfl⟩ := Option.map_eq_some_iff.mp hread
  have hdropped := h.of_eq (cursor_dropCandidate? hdrop)
  refine ((hdropped.allowKey true).goTo (apart_blockScalar hdropped.apart.suffix hblock)).push ?_
  cases folded <;> trivial

theorem Sound.readQuoted? (h : scan.Sound chars) (double : Bool) {rest : List Char}
    (hmark : scan.cursor.rest = quoteMark double :: rest)
    (hread : scan.readQuoted? double = some after) : after.Sound chars := by
  -- the scalar is read where the scan stands, which is apart
  refine h.readContent? ?_ hread
  intro token place hquoted
  obtain ⟨⟨text, close⟩, htext, hpair⟩ := Option.map_eq_some_iff.mp hquoted
  cases hpair
  refine ⟨⟨double, scan.size + 1, scan.cursor, place, rest, h.apart, hmark, ?_⟩,
    apart_quotedScalar h.apart.suffix hmark htext⟩
  rw [String.toList_ofList]
  exact htext

/-! ## Plain scalars -/

/-- What follows the first word of a plain scalar starts with a gap. -/
theorem text_plainWords {inFlow : Bool} {indent bound : Nat} {pieces : List (List Char)}
    {cursor : Cursor} {plain : PlainScalar}
    (h : plainWords inFlow indent bound pieces cursor = some plain) :
    ∃ more, plain.text = joinPieces pieces ++ more ∧
      ∀ c, more.head? = some c → isGap c = true := by
  have hend : ∀ pieces : List (List Char), ∃ more, joinPieces pieces = joinPieces pieces ++ more ∧
      ∀ c, more.head? = some c → isGap c = true := fun _ =>
    ⟨[], (List.append_nil _).symm, fun c hc => by cases hc⟩
  induction bound generalizing pieces cursor with
  | zero =>
    cases h
    exact hend _
  | succ bound ih =>
    unfold plainWords at h
    simp only at h
    split at h
    · cases h
      exact hend _
    · next hrun =>
      split at h
      · cases h
      · split at h
        · cases h
          exact hend _
        · split at h
          · cases h
          · cases h
            exact hend _
          · -- the words that follow come after a gap that is not empty
            obtain ⟨more, htext, -⟩ := ih h
            rw [joinPieces_cons, joinPieces_cons, List.append_assoc, List.append_assoc] at htext
            refine ⟨_, htext, fun c hc => ?_⟩
            cases hgap : foldGap (cursor.readWhile isGap).1 with
            | nil =>
              rw [eq_nil_of_foldGap_eq_nil hgap] at hrun
              exact absurd rfl hrun
            | cons d gap =>
              rw [hgap, List.cons_append, List.head?_cons] at hc
              cases hc
              exact isGap_of_mem_foldGap isGap_of_mem_takeWhile (hgap ▸ List.mem_cons_self)

theorem head?_plainScalar {inFlow : Bool} {indent bound : Nat} {cursor : Cursor}
    {plain : PlainScalar} {c : Char} {rest : List Char} (hrest : cursor.rest = c :: rest)
    (h : plainScalar bound inFlow indent cursor = some plain) :
    ∀ d, plain.text.head? = some d → d = c ∨ isGap d = true := by
  obtain ⟨length, _, h⟩ := Option.bind_eq_some_iff.mp h
  obtain ⟨more, htext, hmore⟩ := text_plainWords h
  intro d hd
  have hfirst : joinPieces [cursor.rest.take length] = cursor.rest.take length := by
    simp [joinPieces]
  rw [htext, hfirst, hrest] at hd
  cases length with
  | zero => exact .inr (hmore d hd)
  | succ length =>
    rw [List.take_succ_cons, List.cons_append, List.head?_cons] at hd
    cases hd
    exact .inl rfl

theorem Sound.readPlain? (h : scan.Sound chars) (hstarts : scan.plainStarts = true)
    (hread : scan.readPlain? = some after) : after.Sound chars := by
  obtain ⟨saved, hsave, hread⟩ := Option.bind_eq_some_iff.mp hread
  obtain ⟨plain, hplain, rfl⟩ := Option.map_eq_some_iff.mp hread
  have heq := cursor_saveCandidate? hsave
  have hsaved := h.of_eq heq
  refine ((hsaved.allowKey _).goTo (apart_plainScalar hsaved.apart.suffix hplain)).push ?_
  show (String.ofList plain.text).toList.head? ≠ some '#'
  rw [String.toList_ofList]
  intro hd
  -- a gap cannot be a number sign, and no plain scalar starts at one
  unfold plainStarts at hstarts
  split at hstarts
  · cases hstarts
  · next c rest hrest =>
    rw [heq.1] at hplain
    rcases head?_plainScalar hrest hplain _ hd with rfl | hgap
    · simp at hstarts
    · exact absurd hgap (by decide)

/-! ## All tokens -/

theorem Sound.readToken? (h : scan.Sound chars) (hread : scan.readToken? = some after) :
    after.Sound chars := by
  unfold Scan.readToken? at hread
  simp only at hread
  split at hread
  · exact h.endText? hread
  · next c rest hrest =>
    split at hread
    · exact h.readDirective? hread
    · split at hread
      · next hmarker =>
        refine h.readMarker? hmarker ?_ hread
        split <;> trivial
      · split at hread
        · exact h.openFlow? hrest (by decide) (by trivial) hread
        · exact h.openFlow? hrest (by decide) (by trivial) hread
        · exact h.closeFlow? hrest (by decide) (by trivial) hread
        · exact h.closeFlow? hrest (by decide) (by trivial) hread
        · exact h.readFlowEntry? hrest (by decide) hread
        · refine h.readContent? (fun token place hcontent => ?_) hread
          obtain ⟨⟨name, close⟩, hname, hpair⟩ := Option.map_eq_some_iff.mp hcontent
          cases hpair
          exact ⟨trivial, apart_anchorName? h.apart.suffix hname⟩
        · refine h.readContent? (fun token place hcontent => ?_) hread
          obtain ⟨⟨name, close⟩, hname, hpair⟩ := Option.map_eq_some_iff.mp hcontent
          cases hpair
          exact ⟨trivial, apart_anchorName? h.apart.suffix hname⟩
        · refine h.readContent? (fun token place hcontent => ?_) hread
          obtain ⟨⟨tag, close⟩, htag, hpair⟩ := Option.map_eq_some_iff.mp hcontent
          cases hpair
          exact ⟨trivial, apart_tag? h.apart.suffix htag⟩
        · exact h.readQuoted? false hrest hread
        · exact h.readQuoted? true hrest hread
        · split at hread
          · next hc => exact h.readBlockEntry? hrest (hc.1 ▸ by decide) hread
          · split at hread
            · next hc => exact h.readKey? hrest (hc.1 ▸ by decide) hread
            · split at hread
              · next hc => exact h.readValue? hrest (hc.1 ▸ by decide) hread
              · split at hread
                · exact h.readBlockScalar? hread
                · split at hread
                  · exact h.readBlockScalar? hread
                  · split at hread
                    · next hstarts => exact h.readPlain? hstarts hread
                    · cases hread

/-- The invariant is kept from one token to the next. -/
theorem Sound.step? (h : scan.Sound chars) (hstep : scan.step? = some after) :
    after.Sound chars := by
  obtain ⟨fresh, hfresh, hstep⟩ := Option.bind_eq_some_iff.mp hstep
  have hgap := (h.skipByteOrderMark.skipGap (scan.size + 1)).dropStale? hfresh
  exact (hgap.closeBlocks (some fresh.cursor.column)).readToken? hstep

end Scan

theorem faithful_of_mem_scanTokens {complete : Bool} {bound : Nat} {read : List Token}
    {scan : Scan} (h : scan.Sound chars) (hread : ∀ token ∈ read, token.Faithful chars) :
    ∀ token ∈ scanTokens complete bound read scan, token.Faithful chars := by
  have hend : ∀ read : List Token, (∀ token ∈ read, token.Faithful chars) →
      ∀ token ∈ read.reverse, token.Faithful chars := fun _ hread token hmem =>
    hread token (List.mem_reverse.mp hmem)
  induction bound generalizing read scan with
  | zero => exact hend read hread
  | succ bound ih =>
    unfold scanTokens
    split
    · exact hend read hread
    · next after hstep =>
      obtain ⟨stepped, hstep, hdrop⟩ := Option.bind_eq_some_iff.mp hstep
      have hafter := (h.step? hstep).dropStale? hdrop
      split
      · exact hend read hread
      · have hgiven : ∀ token ∈ (after.held.take after.settled).reverse ++ read,
            token.Faithful chars := by
          intro token hmem
          rcases List.mem_append.mp hmem with hmem | hmem
          · exact hafter.faithful token (List.mem_of_mem_take (List.mem_reverse.mp hmem))
          · exact hread token hmem
        have hrest : after.handOn.2.Sound chars :=
          ⟨hafter.apart, fun token hmem => hafter.faithful token (List.mem_of_mem_drop hmem)⟩
        simp only
        split
        · exact hend _ hgiven
        · exact ih hrest hgiven

/-- The characters of a text that are read, with line ends made alike. -/
def charsOf (text : String) : List Char :=
  normalizeBreaks (readable (text.length + 1) text.toList).1

/-- Every token of a text is faithful to it. -/
theorem faithful_of_mem_tokens {text : String} {token : Token} (h : token ∈ tokens text) :
    token.Faithful (charsOf text) := by
  unfold tokens at h
  simp only at h
  split at h
  · cases h
  · exact faithful_of_mem_scanTokens (Scan.sound_start _) (fun _ hmem => by cases hmem) token h

end SchemaBundle.Yaml
