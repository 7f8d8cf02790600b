import SchemaBundle.Proofs.Yaml.LoadedStrings
import SchemaBundle.Proofs.Yaml.Scanning

/-!
# Pointers in the source of a document

A document holds a pointer because its source writes it. If the source writes it between two
quotation marks as it is, the search in the source finds it. There are two other ways: in a block,
where there are no quotation marks, and between double ones with a backslash.

* `WritesOtherwise`: the two other ways
* `mem_scan_of_parse`: a pointer of a document is found, or written otherwise
-/

namespace SchemaBundle.Yaml

open Json (Value)

/-! ## Line ends made alike -/

/-- What precedes and follows a place of the text with line ends made alike. -/
theorem exists_split_of_normalizeBreaks {text before after : List Char}
    (h : normalizeBreaks text = before ++ after) :
    ∃ first second, text = first ++ second ∧ normalizeBreaks first = before ∧
      normalizeBreaks second = after := by
  fun_induction normalizeBreaks text generalizing before with
  | case1 rest ih =>
    cases before with
    | nil => exact ⟨[], _, rfl, rfl, h⟩
    | cons b before =>
      obtain ⟨rfl, htail⟩ := List.cons.inj h
      obtain ⟨first, second, rfl, hfirst, hsecond⟩ := ih htail
      -- the two characters that became one stay together
      exact ⟨'\r' :: '\n' :: first, second, rfl, by rw [normalizeBreaks, hfirst], hsecond⟩
  | case2 c rest hpair ih =>
    cases before with
    | nil =>
      refine ⟨[], c :: rest, rfl, rfl, ?_⟩
      rw [normalizeBreaks]
      · exact h
      · exact hpair
    | cons b before =>
      obtain ⟨hb, htail⟩ := List.cons.inj h
      obtain ⟨first, second, rfl, hfirst, hsecond⟩ := ih htail
      refine ⟨c :: first, second, rfl, ?_, hsecond⟩
      rw [normalizeBreaks, hfirst, hb]
      intro tail hc hf
      exact hpair _ hc (by rw [hf, List.cons_append])
  | case3 =>
    obtain ⟨rfl, rfl⟩ := List.append_eq_nil_iff.mp h.symm
    exact ⟨[], [], rfl, rfl, rfl⟩

/-- A word without line feeds stands in the text as it is. -/
theorem exists_rest_of_normalizeBreaks {text word after : List Char} (hword : '\n' ∉ word)
    (h : normalizeBreaks text = word ++ after) : ∃ rest, text = word ++ rest := by
  fun_induction normalizeBreaks text generalizing word with
  | case1 rest ih =>
    cases word with
    | nil => exact ⟨_, rfl⟩
    | cons w word =>
      obtain ⟨rfl, -⟩ := List.cons.inj h
      exact absurd List.mem_cons_self hword
  | case2 c rest hpair ih =>
    cases word with
    | nil => exact ⟨_, rfl⟩
    | cons w word =>
      obtain ⟨hw, htail⟩ := List.cons.inj h
      obtain ⟨tail, rfl⟩ := ih (fun hmem => hword (List.mem_cons_of_mem _ hmem)) htail
      split at hw
      · exact absurd (hw ▸ List.mem_cons_self) hword
      · exact ⟨tail, by rw [hw]; rfl⟩
  | case3 =>
    obtain ⟨rfl, -⟩ := List.append_eq_nil_iff.mp h.symm
    exact ⟨[], rfl⟩

theorem getLast?_normalizeBreaks {text : List Char} {c : Char} (h : text.getLast? = some c)
    (hc : isNameChar c = true) : (normalizeBreaks text).getLast? = some c := by
  fun_induction normalizeBreaks text with
  | case1 rest ih =>
    rw [List.getLast?_cons, List.getLast?_cons, Option.getD_some, Option.some.injEq] at h
    cases hrest : rest.getLast? with
    | none =>
      rw [hrest] at h
      cases h
      exact absurd hc (by decide)
    | some d =>
      rw [hrest] at h
      cases h
      rw [List.getLast?_cons, ih hrest]
      rfl
  | case2 d rest hpair ih =>
    rw [List.getLast?_cons, Option.some.injEq] at h
    cases hrest : rest.getLast? with
    | none =>
      rw [hrest] at h
      cases h
      rw [List.getLast?_eq_none_iff.mp hrest, if_neg]
      · rfl
      · intro hbreak
        refine absurd hc (ne_true_of_eq_false (isNameChar_of_isGap (isGap_of_isBreak ?_)))
        rw [Bool.or_eq_true] at hbreak
        rcases hbreak with hbreak | hbreak
        · show isBreak d = true
          simp [isBreak, beq_iff_eq.mp hbreak]
        · show isBreak d = true
          simp [isBreak, beq_iff_eq.mp hbreak]
    | some e =>
      rw [hrest] at h
      cases h
      rw [List.getLast?_cons, ih hrest]
      rfl
  | case3 => cases h

/-! ## What is read of a text -/

theorem splitBlock_append (room : Nat) (text : List Char) :
    (splitBlock room text).1 ++ (splitBlock room text).2 = text := by
  fun_induction splitBlock room text with
  | case1 => rfl
  | case2 room c rest hroom block after heq ih =>
    rw [heq] at ih
    rw [List.cons_append, ih]
  | case3 => rfl

theorem readable_prefix (bound : Nat) (text : List Char) : (readable bound text).1 <+: text := by
  induction bound generalizing text with
  | zero => exact List.nil_prefix
  | succ bound ih =>
    unfold readable
    split
    · exact List.nil_prefix
    · simp only
      split
      · obtain ⟨more, hmore⟩ := ih (splitBlock blockSize text).2
        refine ⟨more, ?_⟩
        rw [List.append_assoc, hmore, splitBlock_append]
      · exact List.nil_prefix

theorem isGap_of_mem_pointer {ref : SchemaRef} {c : Char} (h : c ∈ ref.pointer.toList) :
    isGap c = false := by
  have hno : ∀ c ∈ ref.pointer.toList, (!isGap c) = true := by
    refine SchemaRef.forall_mem_pointer (by decide) fun c hc => ?_
    cases hgap : isGap c with
    | false => rfl
    | true =>
      rw [isNameChar_of_isGap hgap] at hc
      cases hc
  simpa using hno c h

/-- A pointer that is quoted in what is read of a text is found by a search in the text. -/
theorem mem_scan_of_charsOf {source : String} {before after : List Char} {mark : Char}
    (ref : SchemaRef) (hmark : isQuote mark = true)
    (hlast : ∀ c, before.getLast? = some c → isNameChar c = false)
    (h : charsOf source = before ++ (mark :: ref.pointer.toList ++ mark :: after)) :
    ref ∈ SchemaRef.scan source := by
  obtain ⟨first, second, hread, rfl, hsecond⟩ := exists_split_of_normalizeBreaks h
  -- a pointer between its marks has no line end in it, and so stands in the source as it is
  have hword : '\n' ∉ mark :: ref.pointer.toList ++ [mark] := by
    have hne : '\n' ≠ mark := by
      rintro rfl
      cases hmark
    have hpointer : '\n' ∉ ref.pointer.toList := by
      intro hmem
      cases isGap_of_mem_pointer hmem
    simp [hne, hpointer]
  have hsplit : normalizeBreaks second = (mark :: ref.pointer.toList ++ [mark]) ++ after := by
    rw [hsecond]
    simp
  obtain ⟨rest, rfl⟩ := exists_rest_of_normalizeBreaks hword hsplit
  obtain ⟨more, hmore⟩ := readable_prefix (source.length + 1) source.toList
  rw [SchemaRef.scan, List.mem_eraseDups, ← hmore, hread]
  have hfirst : ∀ c, first.getLast? = some c → isNameChar c = false := by
    intro c hc
    cases hname : isNameChar c with
    | false => rfl
    | true =>
      rw [hlast c (getLast?_normalizeBreaks hc hname)] at hname
      cases hname
  have htext : first ++ (mark :: ref.pointer.toList ++ [mark] ++ rest) ++ more =
      first ++ (mark :: ref.pointer.toList ++ mark :: (rest ++ more)) := by
    simp
  rw [htext]
  exact SchemaRef.mem_occurrences ref hmark hfirst

/-! ## Spellings -/

/-- A text writes a scalar as a block, or between double quotes with a backslash. -/
inductive WritesOtherwise (source text : String) : Prop
  | literal (htoken : Token.scalar text .literal ∈ tokens source)
  | folded (htoken : Token.scalar text .folded ∈ tokens source)
  | escaped {bound : Nat} {place after : Cursor} {raw : List Char}
      (htoken : Token.scalar text .quoted ∈ tokens source)
      (hplace : place.rest <:+ charsOf source)
      (hrest : place.rest = '"' :: raw ++ '"' :: after.rest)
      (hbackslash : '\\' ∈ raw)
      (hread : quotedScalar bound true place = some (text.toList, after))

/-- A pointer among the scalars of a text is found by a search in it, or written otherwise. -/
theorem mem_scan_of_mem_tokens {source : String} {ref : SchemaRef} {writing : Writing}
    (h : Token.scalar ref.pointer writing ∈ tokens source) :
    ref ∈ SchemaRef.scan source ∨ WritesOtherwise source ref.pointer := by
  cases writing with
  | plain =>
    -- a plain scalar does not start like a comment
    refine absurd ?_ (faithful_of_mem_tokens h)
    rw [SchemaRef.pointer, String.toList_append]
    rfl
  | literal => exact Or.inr (.literal h)
  | folded => exact Or.inr (.folded h)
  | quoted =>
    obtain ⟨double, bound, place, after, rest, hapart, hmark, hread⟩ := faithful_of_mem_tokens h
    obtain ⟨before, hbefore, hlast⟩ := hapart
    obtain ⟨raw, hrest, hverbatim⟩ := quotedScalar_text hmark hread
    have hquote : isQuote (quoteMark double) = true := by
      cases double <;> rfl
    have hunbroken : Unbroken ref.pointer.toList := by
      intro c hc
      refine ⟨isGap_of_mem_pointer hc, ?_⟩
      rintro rfl
      cases SchemaRef.isQuote_of_mem_pointer hc
    -- what stands between the marks is the pointer, or there is a backslash
    rcases hverbatim hunbroken with rfl | ⟨rfl, hbackslash⟩
    · refine Or.inl (mem_scan_of_charsOf ref hquote (hlast ?_) (hrest ▸ hbefore))
      rw [Cursor.nextIs, Cursor.next?, hmark]
      exact hquote
    · exact Or.inr (.escaped h ⟨before, hbefore.symm⟩ hrest hbackslash hread)

/-- A pointer that a document holds is found by a search in its source, or written otherwise. -/
theorem mem_scan_of_parse {source : String} {document : Value} {ref : SchemaRef}
    (h : parse source = .ok document) (hpointer : ref.pointer ∈ document.strings) :
    ref ∈ SchemaRef.scan source ∨ WritesOtherwise source ref.pointer := by
  rcases exists_token_of_parse h hpointer with hempty | ⟨writing, htoken⟩
  · rw [SchemaRef.pointer, String.append_eq_empty_iff] at hempty
    exact absurd hempty.1 (by decide)
  · exact mem_scan_of_mem_tokens htoken

end SchemaBundle.Yaml
