import SchemaBundle.Json.Printer
import SchemaBundle.Proofs.Json.Strings
import SchemaBundle.Proofs.Naming.Identifiers
import SchemaBundle.Proofs.Reference.Occurrences

/-!
# References in rendered values

The references of a value are found in its text, in either layout. Other strings of the value may
hold whole pointers between marks that are found as well, but none of them hides a reference: what
stands before a string is a bracket, a comma, a colon, a blank or a new line, no character of a
name, and so no pointer ends at the first mark of the string.

* `Json.Value.follows_compactChars`, `Json.Value.follows_prettyChars`: where strings stand in a text
* `references_subset_scan`: references are found
-/

namespace SchemaBundle

open Json (Value)

namespace Json

/-! ## Pointers as strings -/

theorem escapeChar_of_isNameChar {c : Char} (h : isNameChar c = true) : escapeChar c = [c] := by
  have hall : ∀ n < 0x80, isNameChar (Char.ofNat n) = true →
      escapeChar (Char.ofNat n) = [Char.ofNat n] := by
    decide +kernel
  have hlt : c.toNat < 0x80 := by
    rcases Bool.or_eq_true _ _ ▸ h with h | h
    · exact Naming.lt_of_isAlphanum h
    · rw [beq_iff_eq.mp h]
      decide
  have hchar := hall c.toNat hlt
  rw [Char.ofNat_toNat] at hchar
  exact hchar h

/-- In a pointer there is nothing to escape. -/
theorem quote_pointer (ref : SchemaRef) :
    quote ref.pointer = '"' :: ref.pointer.toList ++ ['"'] := by
  have hplain : ∀ c ∈ ref.pointer.toList, (escapeChar c == [c]) = true :=
    SchemaRef.forall_mem_pointer (by decide) fun c hc =>
      beq_iff_eq.mpr (escapeChar_of_isNameChar hc)
  rw [quote, List.flatMap_congr fun c hc => beq_iff_eq.mp (hplain c hc), List.flatMap_singleton']
  rfl

/-! ## Strings in a text -/

/-- A string stands in a text, behind a character that no name has. -/
def Follows (text : String) (chars : List Char) : Prop :=
  ∃ before c after, chars = before ++ c :: (quote text ++ after) ∧ isNameChar c = false

namespace Follows

variable {text : String} {chars : List Char}

theorem append_left (h : Follows text chars) (more : List Char) : Follows text (more ++ chars) := by
  obtain ⟨before, c, after, rfl, hc⟩ := h
  exact ⟨more ++ before, c, after, (List.append_assoc ..).symm, hc⟩

theorem append_right (h : Follows text chars) (more : List Char) :
    Follows text (chars ++ more) := by
  obtain ⟨before, c, after, rfl, hc⟩ := h
  exact ⟨before, c, after ++ more, by simp, hc⟩

theorem cons (h : Follows text chars) (c : Char) : Follows text (c :: chars) :=
  h.append_left [c]

/-- A pointer that stands in a text as a string is found, also at the start of the text. -/
theorem mem_scan {ref : SchemaRef} (h : Follows ref.pointer ('\n' :: chars)) :
    ref ∈ SchemaRef.scan (String.ofList chars) := by
  obtain ⟨before, c, after, hchars, hc⟩ := h
  have hlast : ∀ d, (before ++ [c]).getLast? = some d → isNameChar d = false := by
    intro d hd
    rw [List.getLast?_append, List.getLast?_singleton] at hd
    rw [← Option.some.inj hd]
    exact hc
  have hfound : ref ∈ SchemaRef.occurrences
      (before ++ [c] ++ ('"' :: ref.pointer.toList ++ '"' :: after)) :=
    SchemaRef.mem_occurrences ref rfl hlast
  have htext : before ++ [c] ++ ('"' :: ref.pointer.toList ++ '"' :: after) =
      [] ++ '\n' :: chars := by
    rw [List.nil_append, hchars, quote_pointer]
    simp
  -- the line that is put before the text is searched for itself
  rw [htext, SchemaRef.occurrences_append_newline, SchemaRef.occurrences, List.nil_append] at hfound
  rw [SchemaRef.scan, List.mem_eraseDups, String.toList_ofList]
  exact hfound

end Follows

namespace Value

/-! ## The compact layout -/

mutual

/-- Each string of a value stands in its text behind what is before it, if that ends no name. -/
theorem follows_compactChars {text : String} {c : Char} (hc : isNameChar c = false) :
    ∀ value : Value, text ∈ value.strings → Follows text (c :: value.compactChars)
  | .string _, h => by
    rw [List.mem_singleton.mp h]
    exact ⟨[], c, [], by rw [compactChars, List.append_nil]; rfl, hc⟩
  | .array (item :: rest), h => by
    rw [compactChars]
    rcases List.mem_append.mp h with h | h
    · exact ((follows_compactChars (c := '[') (by decide) item h).append_right _).cons c
    · exact ((follows_compactItems rest h).append_left ('[' :: item.compactChars)).cons c
  | .object ((key, value) :: rest), h => by
    rw [compactChars]
    rcases List.mem_append.mp h with h | h
    · have hvalue := (follows_compactChars (c := ':') (by decide) value h).append_right
        (compactEntries rest)
      exact ((hvalue.append_left (quote key)).cons '\x7b').cons c
    · have hrest := (follows_compactEntries rest h).append_left (':' :: value.compactChars)
      exact ((hrest.append_left (quote key)).cons '\x7b').cons c

theorem follows_compactItems {text : String} :
    ∀ items : List Value, text ∈ stringsOfItems items → Follows text (compactItems items)
  | item :: rest, h => by
    rw [compactItems]
    rcases List.mem_append.mp h with h | h
    · exact (follows_compactChars (c := ',') (by decide) item h).append_right _
    · exact (follows_compactItems rest h).append_left (',' :: item.compactChars)

theorem follows_compactEntries {text : String} :
    ∀ entries : List (String × Value), text ∈ stringsOfEntries entries →
      Follows text (compactEntries entries)
  | (key, value) :: rest, h => by
    rw [compactEntries]
    rcases List.mem_append.mp h with h | h
    · have hvalue := (follows_compactChars (c := ':') (by decide) value h).append_right
        (compactEntries rest)
      exact (hvalue.append_left (quote key)).cons ','
    · have hrest := (follows_compactEntries rest h).append_left (':' :: value.compactChars)
      exact (hrest.append_left (quote key)).cons ','

end

/-! ## The pretty layout -/

/-- A new line ends no name. -/
theorem follows_newLine {text : String} {chars : List Char} (depth : Nat)
    (h : ∀ c, isNameChar c = false → Follows text (c :: chars)) :
    Follows text (newLine depth ++ chars) := by
  cases depth with
  | zero => exact h '\n' (by decide)
  | succ depth =>
    have hline : newLine (depth + 1) ++ chars =
        ('\n' :: List.replicate (2 * depth + 1) ' ') ++ ' ' :: chars := by
      rw [newLine, Nat.mul_succ, List.replicate_succ']
      simp
    rw [hline]
    exact (h ' ' (by decide)).append_left _

mutual

theorem follows_prettyChars {text : String} {c : Char} (hc : isNameChar c = false) (depth : Nat) :
    ∀ value : Value, text ∈ value.strings → Follows text (c :: value.prettyChars depth)
  | .string _, h => by
    rw [List.mem_singleton.mp h]
    exact ⟨[], c, [], by rw [prettyChars, List.append_nil]; rfl, hc⟩
  | .array (item :: rest), h => by
    rw [prettyChars]
    refine Follows.cons (Follows.cons ?_ '[') c
    rcases List.mem_append.mp h with h | h
    · exact follows_newLine _ fun d hd =>
        (follows_prettyChars hd (depth + 1) item h).append_right _
    · exact ((follows_prettyItems depth rest h).append_left _).append_left _
  | .object ((key, value) :: rest), h => by
    rw [prettyChars]
    refine Follows.cons (Follows.cons (Follows.append_left (Follows.append_left ?_ _) _) '\x7b') c
    rcases List.mem_append.mp h with h | h
    · have hvalue := follows_prettyChars (c := ' ') (by decide) (depth + 1) value h
      exact (hvalue.append_right _).cons ':'
    · exact (((follows_prettyEntries depth rest h).append_left _).cons ' ').cons ':'

theorem follows_prettyItems {text : String} (depth : Nat) :
    ∀ items : List Value, text ∈ stringsOfItems items → Follows text (prettyItems depth items)
  | item :: rest, h => by
    rw [prettyItems]
    refine Follows.cons ?_ ','
    rcases List.mem_append.mp h with h | h
    · exact follows_newLine _ fun d hd =>
        (follows_prettyChars hd (depth + 1) item h).append_right _
    · exact ((follows_prettyItems depth rest h).append_left _).append_left _

theorem follows_prettyEntries {text : String} (depth : Nat) :
    ∀ entries : List (String × Value), text ∈ stringsOfEntries entries →
      Follows text (prettyEntries depth entries)
  | (key, value) :: rest, h => by
    rw [prettyEntries]
    refine Follows.cons (Follows.append_left (Follows.append_left ?_ _) _) ','
    rcases List.mem_append.mp h with h | h
    · have hvalue := follows_prettyChars (c := ' ') (by decide) (depth + 1) value h
      exact (hvalue.append_right _).cons ':'
    · exact (((follows_prettyEntries depth rest h).append_left _).cons ' ').cons ':'

end

end Value

end Json

/-- What a walk through a value finds, a search finds in the text of the value, in either layout. -/
theorem references_subset_scan (value : Value) :
    (Visitor.start value).toList ⊆ SchemaRef.scan value.compact ∧
      (Visitor.start value).toList ⊆ SchemaRef.scan value.pretty := by
  rw [Visitor.toList_start]
  constructor
  · intro ref href
    have hstring := Json.Value.mem_references.mp href
    exact (Json.Value.follows_compactChars (by decide) value hstring).mem_scan
  · intro ref href
    have hstring := Json.Value.mem_references.mp href
    exact (Json.Value.follows_prettyChars (by decide) 0 value hstring).mem_scan

/-- A whole pointer between marks as a key, and a reference behind it. -/
def tags : Value :=
  .object [("'#/components/schemas/Tag'", .array [.string "#/components/schemas/Pet"])]

theorem references_subset_scan_tags :
    (Visitor.start tags).toList.map SchemaRef.name = ["Pet"] ∧
    (SchemaRef.scan tags.compact).map SchemaRef.name = ["Tag", "Pet"] ∧
    ∀ ref ∈ (Visitor.start tags).toList,
      ref ∈ SchemaRef.scan tags.compact ∧ ref ∈ SchemaRef.scan tags.pretty := by
  obtain ⟨hcompact, hpretty⟩ := references_subset_scan tags
  refine ⟨?_, by decide +kernel, fun ref href => ⟨hcompact href, hpretty href⟩⟩
  rw [Visitor.toList_start]
  decide +kernel

end SchemaBundle
