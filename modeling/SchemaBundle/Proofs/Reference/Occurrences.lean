import SchemaBundle.Reference.Scan

/-!
# Which quoted pointers a search finds

The search does not look again at what it has passed, so a pointer can be missed if its first mark
closes a pointer before it. Such a mark follows the last character of a name; every other quoted
pointer is found.

* `SchemaRef.quotedAt?_eq_some`: what is found at a place
* `SchemaRef.mem_occurrences`: the quoted pointers that are found
* `SchemaRef.occurrences_append_newline`: lines are searched one after another
-/

namespace SchemaBundle

/-- The marks between which pointers and scalars stand. -/
def isQuote (c : Char) : Bool :=
  c == '"' || c == '\''

theorem isQuote_eq_true {c : Char} : isQuote c = true ↔ c = '"' ∨ c = '\'' := by
  simp [isQuote]

namespace SchemaRef

variable {mark : Char} {text rest : List Char} {ref : SchemaRef}

/-! ## One place -/

theorem nameBefore?_eq_some :
    nameBefore? mark text = some (ref, rest) ↔
      text.takeWhile isNameChar = ref.name.toList ∧ text.dropWhile isNameChar = mark :: rest := by
  have hne : ref.name.toList ≠ [] := by
    have hvalid := ref.valid
    intro hnil
    rw [isSchemaName, hnil] at hvalid
    cases hvalid
  constructor
  · intro h
    unfold nameBefore? at h
    split at h
    · split at h
      · cases h
      · next c tail hdrop =>
        split at h
        · next hmark =>
          cases h
          exact ⟨String.toList_ofList.symm, by rw [hdrop, hmark]⟩
        · cases h
    · cases h
  · rintro ⟨hname, hdrop⟩
    have hread : String.ofList (text.takeWhile isNameChar) = ref.name := by
      rw [hname, String.ofList_toList]
    unfold nameBefore?
    rw [dif_pos (by rw [hname]; exact hne), hdrop]
    simp only [↓reduceIte, Option.some.injEq, Prod.mk.injEq, and_true]
    exact ext hread

/-- What is found at a place is a pointer between two marks of one kind. -/
theorem quotedAt?_eq_some :
    quotedAt? text = some (ref, rest) ↔
      ∃ mark, isQuote mark = true ∧ text = mark :: ref.pointer.toList ++ mark :: rest := by
  have hall : ∀ c ∈ ref.name.toList, isNameChar c = true := by
    have hvalid := ref.valid
    rw [isSchemaName, Bool.and_eq_true] at hvalid
    exact List.all_eq_true.mp hvalid.2
  constructor
  · intro h
    cases text with
    | nil => cases h
    | cons mark text =>
      change (if mark = '"' ∨ mark = '\'' then _ else none) = _ at h
      split at h
      · next hmark =>
        obtain ⟨after, hafter, hname⟩ := Option.bind_eq_some_iff.mp h
        rw [afterStart?_eq_some] at hafter
        rw [nameBefore?_eq_some] at hname
        refine ⟨mark, isQuote_eq_true.mpr hmark, ?_⟩
        have hsplit : after.takeWhile isNameChar ++ after.dropWhile isNameChar = after :=
          List.takeWhile_append_dropWhile
        rw [hname.1, hname.2] at hsplit
        rw [hafter, ← hsplit, pointer, String.toList_append]
        simp
      · cases h
  · rintro ⟨mark, hmark, rfl⟩
    have hstop : isNameChar mark = false := by
      rcases isQuote_eq_true.mp hmark with rfl | rfl <;> decide
    show (if mark = '"' ∨ mark = '\'' then _ else none) = _
    rw [if_pos (isQuote_eq_true.mp hmark), Option.bind_eq_some_iff]
    refine ⟨ref.name.toList ++ mark :: rest, ?_, ?_⟩
    · rw [afterStart?_eq_some, pointer, String.toList_append]
      simp
    · rw [nameBefore?_eq_some, List.takeWhile_append_of_pos hall, List.dropWhile_append_of_pos hall]
      simp [hstop]

/-! ## The whole text -/

theorem getLast?_pointer (ref : SchemaRef) :
    ∃ c, ref.pointer.toList.getLast? = some c ∧ isNameChar c = true := by
  have hvalid := ref.valid
  rw [isSchemaName, Bool.and_eq_true, Bool.not_eq_true', List.isEmpty_eq_false_iff] at hvalid
  refine ⟨ref.name.toList.getLast hvalid.1, ?_, ?_⟩
  · rw [pointer, String.toList_append, List.getLast?_append,
      List.getLast?_eq_some_getLast hvalid.1]
    rfl
  · exact List.all_eq_true.mp hvalid.2 _ (List.getLast_mem hvalid.1)

/-- What holds of the start of pointers and of name characters holds all through a pointer. -/
theorem forall_mem_pointer {p : Char → Bool} (hstart : schemasPointer.toList.all p = true)
    (hname : ∀ c, isNameChar c = true → p c = true) :
    ∀ c ∈ ref.pointer.toList, p c = true := by
  intro c hc
  rw [pointer, String.toList_append] at hc
  rcases List.mem_append.mp hc with hc | hc
  · exact List.all_eq_true.mp hstart c hc
  · have hvalid := ref.valid
    rw [isSchemaName, Bool.and_eq_true] at hvalid
    exact hname c (List.all_eq_true.mp hvalid.2 c hc)

theorem isQuote_of_mem_pointer {c : Char} (h : c ∈ ref.pointer.toList) : isQuote c = false := by
  have hno : ∀ c ∈ ref.pointer.toList, (!isQuote c) = true := by
    refine forall_mem_pointer (by decide) fun c hc => ?_
    cases hquote : isQuote c with
    | false => rfl
    | true => rcases isQuote_eq_true.mp hquote with rfl | rfl <;> exact absurd hc (by decide)
  simpa using hno c h

/-- What precedes a mark that follows no name character does not end with a pointer. -/
theorem ne_cons_pointer (mark : Char) {before : List Char}
    (hlast : ∀ c, before.getLast? = some c → isNameChar c = false) (ref : SchemaRef) :
    before ≠ mark :: ref.pointer.toList := by
  rintro rfl
  obtain ⟨c, hc, hname⟩ := getLast?_pointer ref
  rw [hlast c (by rw [List.getLast?_cons, hc]; rfl)] at hname
  cases hname

/-- A quoted pointer is found if its first mark follows no name character. -/
theorem mem_occurrences {before : List Char} (ref : SchemaRef) (hmark : isQuote mark = true)
    (hlast : ∀ c, before.getLast? = some c → isNameChar c = false) :
    ref ∈ occurrences (before ++ (mark :: ref.pointer.toList ++ mark :: rest)) := by
  have hhere : quotedAt? (mark :: ref.pointer.toList ++ mark :: rest) = some (ref, rest) :=
    quotedAt?_eq_some.mpr ⟨mark, hmark, rfl⟩
  generalize htext : before ++ (mark :: ref.pointer.toList ++ mark :: rest) = text
  fun_induction occurrences text generalizing before with
  | case1 => simp at htext
  | case2 c text found after hfound ih =>
    cases before with
    | nil =>
      rw [← htext, List.nil_append, hhere] at hfound
      cases hfound
      exact List.mem_cons_self
    | cons b before =>
      obtain ⟨m, hm, hsplit⟩ := quotedAt?_eq_some.mp hfound
      rw [hsplit] at htext
      have hno := ne_cons_pointer m hlast found
      -- what is found ends before the pointer, or else has the first mark of the pointer in it
      rcases List.append_eq_append_iff.mp htext with ⟨more, hmore, hrest⟩ | ⟨more, hmore, hrest⟩
      · cases more with
        | nil => exact absurd (by rw [hmore, List.append_nil]) hno
        | cons x more =>
          obtain ⟨rfl, -⟩ := List.cons.inj hrest
          have hmem : mark ∈ found.pointer.toList := by
            rw [(List.cons.inj hmore).2]
            exact List.mem_append_right _ List.mem_cons_self
          rw [isQuote_of_mem_pointer hmem] at hmark
          cases hmark
      · cases more with
        | nil => exact absurd (by rw [hmore, List.append_nil]) hno
        | cons x more =>
          cases hrest
          refine List.mem_cons_of_mem _ (ih (fun c hc => hlast c ?_) rfl)
          rw [hmore, List.getLast?_append, List.getLast?_cons, hc]
          rfl
  | case3 c text hnone ih =>
    cases before with
    | nil =>
      rw [← htext, List.nil_append, hhere] at hnone
      cases hnone
    | cons b before =>
      cases htext
      refine ih (fun c hc => hlast c ?_) rfl
      rw [List.getLast?_cons, hc]
      rfl

/-- The second pointer has no first mark of its own. -/
example : (occurrences "'#/components/schemas/Pet'#/components/schemas/Owner'".toList).map name =
    ["Pet"] := by
  decide +kernel

/-! ## Lines -/

theorem newline_notMem_pointer (ref : SchemaRef) : '\n' ∉ ref.pointer.toList := by
  intro hin
  have hno : ∀ c ∈ ref.pointer.toList, (c != '\n') = true := by
    refine forall_mem_pointer (by decide) fun c hc => ?_
    rw [bne_iff_ne]
    rintro rfl
    exact absurd hc (by decide)
  have hnewline := hno '\n' hin
  simp at hnewline

/-- No quoted pointer goes on over the end of a line. -/
theorem quotedAt?_append_newline (text more : List Char) :
    quotedAt? (text ++ '\n' :: more) =
      (quotedAt? text).map fun (ref, rest) => (ref, rest ++ '\n' :: more) := by
  cases htext : quotedAt? text with
  | some found =>
    obtain ⟨ref, rest⟩ := found
    obtain ⟨mark, hmark, rfl⟩ := quotedAt?_eq_some.mp htext
    refine quotedAt?_eq_some.mpr ⟨mark, hmark, ?_⟩
    simp
  | none =>
    rw [Option.map_none, Option.eq_none_iff_forall_ne_some]
    rintro ⟨ref, rest⟩ hfound
    obtain ⟨mark, hmark, hsplit⟩ := quotedAt?_eq_some.mp hfound
    have hnewline : '\n' ∉ mark :: ref.pointer.toList ++ [mark] := by
      have hne : '\n' ≠ mark := by
        rintro rfl
        exact absurd hmark (by decide)
      simp [newline_notMem_pointer ref, hne]
    have hends : text ++ '\n' :: more = mark :: ref.pointer.toList ++ [mark] ++ rest := by
      rw [hsplit]
      simp
    -- the pointer ends before the line does, or else the end of the line is in it
    have hbefore : ∃ after, text = mark :: ref.pointer.toList ++ [mark] ++ after := by
      rcases List.append_eq_append_iff.mp hends with ⟨after, hpointer, hrest⟩ | ⟨after, htext, _⟩
      · cases after with
        | nil => exact ⟨[], by rw [hpointer, List.append_nil, List.append_nil]⟩
        | cons c after =>
          obtain ⟨rfl, _⟩ := List.cons.inj hrest
          exact absurd (hpointer ▸ List.mem_append_right _ List.mem_cons_self) hnewline
      · exact ⟨after, htext⟩
    obtain ⟨after, rfl⟩ := hbefore
    have hhere : quotedAt? (mark :: ref.pointer.toList ++ [mark] ++ after) = some (ref, after) :=
      quotedAt?_eq_some.mpr ⟨mark, hmark, by simp⟩
    rw [hhere] at htext
    cases htext

theorem occurrences_cons_of_some {c : Char} {after : List Char}
    (h : quotedAt? (c :: rest) = some (ref, after)) :
    occurrences (c :: rest) = ref :: occurrences after := by
  rw [occurrences]
  split
  · next hfound =>
    rw [h] at hfound
    cases hfound
    rfl
  · next hnone =>
    rw [h] at hnone
    cases hnone

theorem occurrences_cons_of_none {c : Char} (h : quotedAt? (c :: rest) = none) :
    occurrences (c :: rest) = occurrences rest := by
  rw [occurrences]
  split
  · next hfound =>
    rw [h] at hfound
    cases hfound
  · rfl

/-- Lines are searched one after another. -/
theorem occurrences_append_newline (text more : List Char) :
    occurrences (text ++ '\n' :: more) = occurrences text ++ occurrences more := by
  fun_induction occurrences text with
  | case1 => exact occurrences_cons_of_none (by simp [quotedAt?])
  | case2 c rest ref after hfound ih =>
    have hlonger := quotedAt?_append_newline (c :: rest) more
    rw [hfound, List.cons_append] at hlonger
    rw [List.cons_append, occurrences_cons_of_some hlonger, ih, List.cons_append]
  | case3 c rest hnone ih =>
    have hlonger := quotedAt?_append_newline (c :: rest) more
    rw [hnone, List.cons_append] at hlonger
    rw [List.cons_append, occurrences_cons_of_none hlonger, ih]

end SchemaRef

end SchemaBundle
