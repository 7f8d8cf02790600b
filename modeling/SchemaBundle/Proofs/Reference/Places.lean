import Mathlib.Data.List.Nodup
import SchemaBundle.Proofs.Reference.Occurrences

/-!
# Places of quoted pointers

An occurrence is a quoted pointer at a place of a text. No quotation mark stands inside a pointer,
so two occurrences have at most one mark in common, which closes the one and opens the other. Where
they hang together in this way a search from left to right takes the first, and then those whose
opening mark closes none that is taken.

* `Occurrence.AreTaken`: the occurrences that are taken, by what they are and not by a search
* `exists_areTaken`, `AreTaken.unique`: there is one list of them, which the search goes through
* `scan_taken`: what a search finds
-/

namespace SchemaBundle.SchemaRef

/-- A pointer between two marks of one kind, at a place of a text. -/
structure Occurrence where
  place : Nat
  mark : Char
  ref : SchemaRef

namespace Occurrence

variable {text : List Char} {taken : List Occurrence} {occurrence other : Occurrence}

/-- What an occurrence reads. -/
def chars (occurrence : Occurrence) : List Char :=
  occurrence.mark :: occurrence.ref.pointer.toList ++ [occurrence.mark]

/-- The place of the closing mark. -/
def closing (occurrence : Occurrence) : Nat :=
  occurrence.place + occurrence.ref.pointer.length + 1

/-- A text has an occurrence. -/
structure StandsIn (text : List Char) (occurrence : Occurrence) : Prop where
  isQuote : isQuote occurrence.mark = true
  reads : occurrence.chars <+: text.drop occurrence.place

/-- The occurrences that are taken, from left to right: one is taken unless the closing mark of one
that is taken opens it. -/
structure AreTaken (text : List Char) (taken : List Occurrence) : Prop where
  increasing : taken.Pairwise fun a b => a.place < b.place
  mem_iff : ∀ occurrence, occurrence ∈ taken ↔
    occurrence.StandsIn text ∧ ∀ other ∈ taken, other.closing ≠ occurrence.place

/-! ## One occurrence -/

theorem place_lt_closing (occurrence : Occurrence) : occurrence.place < occurrence.closing := by
  unfold closing
  omega

/-- An occurrence stands where a search at its place finds its pointer. -/
theorem standsIn_iff : occurrence.StandsIn text ↔
    (text.drop occurrence.place).head? = some occurrence.mark ∧
      quotedAt? (text.drop occurrence.place) =
        some (occurrence.ref, text.drop (occurrence.closing + 1)) := by
  have hlength : occurrence.chars.length = occurrence.ref.pointer.length + 2 := by
    simp [chars, String.length_toList]
  have hrest : (text.drop occurrence.place).drop occurrence.chars.length =
      text.drop (occurrence.closing + 1) := by
    rw [List.drop_drop, hlength, closing]
    rfl
  rw [quotedAt?_eq_some]
  constructor
  · rintro ⟨hquote, rest, hreads⟩
    have hdrop : rest = text.drop (occurrence.closing + 1) := by
      rw [← hrest, ← hreads, List.drop_left]
    rw [← hreads, ← hdrop]
    exact ⟨rfl, occurrence.mark, hquote, by simp [chars]⟩
  · rintro ⟨hhead, mark, hquote, hreads⟩
    have hmark : mark = occurrence.mark := by
      rw [hreads] at hhead
      exact Option.some.inj hhead
    subst hmark
    refine ⟨hquote, text.drop (occurrence.closing + 1), ?_⟩
    rw [hreads]
    simp [chars]

/-- At a place there is one occurrence at most. -/
theorem StandsIn.eq (h : occurrence.StandsIn text) (hother : other.StandsIn text)
    (hplace : occurrence.place = other.place) : occurrence = other := by
  obtain ⟨hmark, href⟩ := standsIn_iff.mp h
  obtain ⟨hothermark, hotherref⟩ := standsIn_iff.mp hother
  rw [hplace, hothermark] at hmark
  rw [hplace, hotherref] at href
  obtain ⟨place, mark, ref⟩ := occurrence
  cases hplace
  cases Option.some.inj hmark
  cases (Prod.mk.inj (Option.some.inj href)).1
  rfl

/-- An occurrence does not begin inside another one. -/
theorem StandsIn.closing_le (h : occurrence.StandsIn text) (hother : other.StandsIn text)
    (hplace : occurrence.place < other.place) : occurrence.closing ≤ other.place := by
  by_contra hinside
  obtain ⟨inner, hinner⟩ : ∃ inner, other.place = occurrence.place + (inner + 1) :=
    ⟨other.place - occurrence.place - 1, by omega⟩
  have hlt : inner < occurrence.ref.pointer.toList.length := by
    rw [String.length_toList]
    unfold closing at hinside
    omega
  obtain ⟨rest, hreads⟩ := h.reads
  -- the opening mark would be one of the characters of the pointer
  have hmark : (text.drop other.place).head? = some occurrence.ref.pointer.toList[inner] := by
    rw [hinner, ← List.drop_drop, ← hreads, chars, List.cons_append, List.cons_append,
      List.drop_succ_cons, List.append_assoc, List.head?_drop,
      List.getElem?_append_left hlt, List.getElem?_eq_getElem hlt]
  rw [(standsIn_iff.mp hother).1] at hmark
  have hquote := hother.isQuote
  rw [Option.some.inj hmark, isQuote_of_mem_pointer (List.getElem_mem hlt)] at hquote
  cases hquote

/-- What a search finds at a place is an occurrence, and it goes on behind it. -/
theorem standsIn_of_quotedAt? {place : Nat} {c : Char} {rest after : List Char} {ref : SchemaRef}
    (hrest : text.drop place = c :: rest) (hfound : quotedAt? (c :: rest) = some (ref, after)) :
    StandsIn text ⟨place, c, ref⟩ ∧ text.drop (closing ⟨place, c, ref⟩ + 1) = after := by
  obtain ⟨mark, hquote, hreads⟩ := quotedAt?_eq_some.mp hfound
  obtain ⟨rfl, -⟩ := List.cons.inj hreads
  have hstands : StandsIn text ⟨place, c, ref⟩ := by
    refine ⟨hquote, after, ?_⟩
    rw [hrest, hreads]
    simp [chars]
  have hbehind := (standsIn_iff.mp hstands).2
  rw [hrest, hfound] at hbehind
  exact ⟨hstands, (Prod.mk.inj (Option.some.inj hbehind)).2.symm⟩

/-! ## The occurrences that are taken -/

/-- From a place on, the search goes through the occurrences that are taken. -/
theorem exists_taken_from (place : Nat) {rest : List Char} (hrest : text.drop place = rest) :
    ∃ taken : List Occurrence, occurrences rest = taken.map ref ∧
      (taken.Pairwise fun a b => a.place < b.place) ∧
      ∀ occurrence, occurrence ∈ taken ↔ place ≤ occurrence.place ∧
        occurrence.StandsIn text ∧ ∀ other ∈ taken, other.closing ≠ occurrence.place := by
  fun_induction occurrences rest generalizing place with
  | case1 =>
    refine ⟨[], rfl, .nil, fun occurrence => ?_⟩
    constructor
    · intro htaken
      cases htaken
    · rintro ⟨hplace, hstands, -⟩
      have hshort := List.drop_eq_nil_iff.mp hrest
      have hempty : text.drop occurrence.place = [] := List.drop_eq_nil_iff.mpr (by omega)
      rw [standsIn_iff, hempty] at hstands
      cases hstands.1
  | case2 c rest found after hfound ih =>
    obtain ⟨hfirst, hafter⟩ := standsIn_of_quotedAt? hrest hfound
    obtain ⟨taken, hrefs, hincreasing, hmem⟩ := ih _ hafter
    refine ⟨⟨place, c, found⟩ :: taken, by rw [hrefs, List.map_cons], ?_⟩
    have hplace : place = (⟨place, c, found⟩ : Occurrence).place := rfl
    generalize (⟨place, c, found⟩ : Occurrence) = first at hfirst hmem hplace
    subst hplace
    have hclosing := place_lt_closing first
    have hlater : ∀ other ∈ taken, first.closing < other.place :=
      fun other hother => ((hmem other).mp hother).1
    constructor
    · refine List.pairwise_cons.mpr ⟨fun other hother => ?_, hincreasing⟩
      exact Nat.lt_trans hclosing (hlater other hother)
    · intro occurrence
      rw [List.mem_cons, List.forall_mem_cons]
      constructor
      · rintro (rfl | htaken)
        · refine ⟨Nat.le_refl _, hfirst, Nat.ne_of_gt hclosing, fun other hother => ?_⟩
          have hopening := hlater other hother
          have hother := place_lt_closing other
          omega
        · obtain ⟨hbehind, hstands, hopens⟩ := (hmem occurrence).mp htaken
          exact ⟨by omega, hstands, by omega, hopens⟩
      · rintro ⟨hplace, hstands, hne, hopens⟩
        -- an occurrence is the one that is found, or begins at its closing mark or behind it
        rcases Nat.eq_or_lt_of_le hplace with heq | hgt
        · exact Or.inl (hstands.eq hfirst heq.symm)
        · have hbehind := hfirst.closing_le hstands hgt
          exact Or.inr ((hmem occurrence).mpr ⟨by omega, hstands, hopens⟩)
  | case3 c rest hnone ih =>
    have htail : text.drop (place + 1) = rest := by
      rw [← List.drop_drop, hrest, List.drop_one, List.tail_cons]
    obtain ⟨taken, hrefs, hincreasing, hmem⟩ := ih _ htail
    refine ⟨taken, hrefs, hincreasing, fun occurrence => (hmem occurrence).trans ?_⟩
    constructor
    · rintro ⟨hbehind, hstands, hopens⟩
      exact ⟨by omega, hstands, hopens⟩
    · rintro ⟨hplace, hstands, hopens⟩
      refine ⟨?_, hstands, hopens⟩
      rcases Nat.eq_or_lt_of_le hplace with rfl | hgt
      · rw [standsIn_iff, hrest, hnone] at hstands
        cases hstands.2
      · exact hgt

theorem exists_areTaken (text : List Char) :
    ∃ taken, AreTaken text taken ∧ occurrences text = taken.map ref := by
  obtain ⟨taken, hrefs, hincreasing, hmem⟩ := exists_taken_from 0 (List.drop_zero (l := text))
  refine ⟨taken, ⟨hincreasing, fun occurrence => (hmem occurrence).trans ?_⟩, hrefs⟩
  exact and_iff_right (Nat.zero_le _)

namespace AreTaken

variable {more : List Occurrence}

/-- Whether an occurrence is taken hangs on those before it, and so on the text alone. -/
theorem mem_congr (h : AreTaken text taken) (hmore : AreTaken text more)
    (occurrence : Occurrence) : occurrence ∈ taken ↔ occurrence ∈ more := by
  induction hplace : occurrence.place using Nat.strongRecOn generalizing occurrence with
  | _ place ih =>
    subst hplace
    rw [h.mem_iff, hmore.mem_iff]
    refine and_congr_right fun _ => forall_congr' fun other => ?_
    by_cases hcloses : other.closing = occurrence.place
    · have hbefore := place_lt_closing other
      rw [hcloses] at hbefore
      rw [ih _ hbefore other rfl]
    · simp [hcloses]

theorem nodup (h : AreTaken text taken) : taken.Nodup :=
  h.increasing.imp fun hlt heq => absurd (congrArg place heq) (Nat.ne_of_lt hlt)

/-- There is only one list of occurrences that are taken from a text. -/
theorem unique (h : AreTaken text taken) (hmore : AreTaken text more) : more = taken := by
  have hperm : more.Perm taken :=
    (List.perm_ext_iff_of_nodup hmore.nodup h.nodup).mpr (hmore.mem_congr h)
  exact hperm.eq_of_pairwise (fun _ _ _ _ hlt hgt => absurd hlt (Nat.lt_asymm hgt))
    hmore.increasing h.increasing

end AreTaken

end Occurrence

open Occurrence (AreTaken StandsIn)

/--
A search finds the names of the occurrences that are taken, in the order of their places, each name
where it comes first. So it finds every occurrence whose opening mark closes no other one; it finds
nothing but names that stand in a pointer between two marks of one kind; and each pointer is read
as the reference that it was found as.
-/
theorem scan_taken (text : String) :
    ∃ taken, AreTaken text.toList taken ∧
      (∀ more, AreTaken text.toList more → more = taken) ∧
      scan text = (taken.map Occurrence.ref).eraseDups ∧
      (∀ occurrence : Occurrence, occurrence.StandsIn text.toList →
        (∀ other : Occurrence, other.StandsIn text.toList → other.closing ≠ occurrence.place) →
        occurrence.ref ∈ scan text) ∧
      (∀ ref ∈ scan text, ∃ occurrence : Occurrence,
        occurrence.StandsIn text.toList ∧ occurrence.ref = ref) ∧
      ∀ ref ∈ scan text, parse ref.pointer = .ok ref := by
  obtain ⟨taken, htaken, hrefs⟩ := Occurrence.exists_areTaken text.toList
  have hscan : scan text = (taken.map Occurrence.ref).eraseDups := by rw [scan, hrefs]
  have hmem (ref : SchemaRef) : ref ∈ scan text ↔ ∃ occurrence ∈ taken, occurrence.ref = ref := by
    rw [hscan, List.mem_eraseDups, List.mem_map]
  refine ⟨taken, htaken, fun _ hmore => htaken.unique hmore, hscan, ?_, ?_, ?_⟩
  · intro occurrence hstands hopens
    refine (hmem _).mpr ⟨occurrence, (htaken.mem_iff _).mpr ⟨hstands, fun other hother => ?_⟩, rfl⟩
    exact hopens other ((htaken.mem_iff other).mp hother).1
  · intro ref href
    obtain ⟨occurrence, hin, heq⟩ := (hmem ref).mp href
    exact ⟨occurrence, ((htaken.mem_iff occurrence).mp hin).1, heq⟩
  · exact fun ref _ => parse_pointer ref

/-- Of three pointers with a mark between each two, the first and the last are taken. -/
example : (scan ("'#/components/schemas/Pet'#/components/schemas/Owner'" ++
    "#/components/schemas/Farm'")).map name = ["Pet", "Farm"] := by
  decide +kernel

end SchemaBundle.SchemaRef
