import SchemaBundle.Reference.Basic

/-!
# References in raw text

A text need not be a document to be searched: what counts is a pointer between two quotation
marks of one kind. The search goes from left to right and continues after the closing mark, so
that one mark never serves as the end of one pointer and the start of another.
-/

namespace SchemaBundle

namespace SchemaRef

/-- A run of name characters that is not empty is a name. -/
theorem isSchemaName_takeWhile {text : List Char} (h : text.takeWhile isNameChar ≠ []) :
    isSchemaName (String.ofList (text.takeWhile isNameChar)) = true := by
  simp only [isSchemaName, String.toList_ofList, Bool.and_eq_true, Bool.not_eq_true',
    List.isEmpty_eq_false_iff]
  exact ⟨h, List.all_takeWhile⟩

/-- The name at the start of a text up to a quotation mark, and what follows the mark. -/
def nameBefore? (mark : Char) (text : List Char) : Option (SchemaRef × List Char) :=
  if h : text.takeWhile isNameChar ≠ [] then
    match text.dropWhile isNameChar with
    | [] => none
    | c :: rest =>
      if c = mark then
        some (⟨String.ofList (text.takeWhile isNameChar), isSchemaName_takeWhile h⟩, rest)
      else none
  else none

/-- The quoted reference at the start of a text, and what follows it. -/
def quotedAt? : List Char → Option (SchemaRef × List Char)
  | [] => none
  | mark :: text =>
    if mark = '"' ∨ mark = '\'' then
      (afterStart? schemasPointer.toList text).bind (nameBefore? mark)
    else none

theorem nameBefore?_length {mark : Char} {text rest : List Char} {ref : SchemaRef}
    (h : nameBefore? mark text = some (ref, rest)) : rest.length < text.length := by
  unfold nameBefore? at h
  split at h
  · split at h
    · cases h
    · rename_i c tail hdrop
      split at h
      · cases h
        have := List.dropWhile_suffix isNameChar (l := text) |>.length_le
        rw [hdrop] at this
        exact this
      · cases h
  · cases h

theorem quotedAt?_length {text rest : List Char} {ref : SchemaRef}
    (h : quotedAt? text = some (ref, rest)) : rest.length < text.length := by
  cases text with
  | nil => simp [quotedAt?] at h
  | cons mark text =>
    simp only [quotedAt?] at h
    split at h
    · rw [Option.bind_eq_some_iff] at h
      obtain ⟨after, hstart, hname⟩ := h
      rw [afterStart?_eq_some] at hstart
      have := nameBefore?_length hname
      simp only [List.length_cons, hstart, List.length_append]
      omega
    · cases h

/-- The quoted references of a text from left to right, with repeats. -/
def occurrences (text : List Char) : List SchemaRef :=
  match text with
  | [] => []
  | c :: rest =>
    match _h : quotedAt? (c :: rest) with
    | some (ref, after) => ref :: occurrences after
    | none => occurrences rest
termination_by text.length
decreasing_by
  · exact quotedAt?_length _h
  · simp

/-- The references of a text in order of first appearance, each once. -/
def scan (text : String) : List SchemaRef :=
  (occurrences text.toList).eraseDups

end SchemaRef

end SchemaBundle
