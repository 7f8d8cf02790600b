import SchemaBundle.Text.CodePoints

/-!
# Laws of character tables

A set of code points given by ranges is read as one number, whose bits are the members. What two
tables have to do with each other is then an equation between numbers, or a look at as many bits
as a table has places, and not a search through all pairs of ranges.

* `CodePoints.inRanges_of_bits`: one set within another
* `CodePoints.all_mapChar`: a map that carries no character into a set or out of it
-/

namespace SchemaBundle.Text.CodePoints

variable {ranges inner outer : List (Nat × Nat)} {shifts : List (Nat × Nat × Nat × Nat)}
  {expansions : List (Nat × List Nat)}

/-- A set of code points as a number: a bit for each member. -/
def bits : List (Nat × Nat) → Nat
  | [] => 0
  | (first, last) :: rest => ((1 <<< (last + 1 - first) - 1) <<< first) ||| bits rest

theorem testBit_bits (ranges : List (Nat × Nat)) (n : Nat) :
    (bits ranges).testBit n = inRanges ranges n := by
  induction ranges with
  | nil => simp [bits, inRanges]
  | cons range rest ih =>
    obtain ⟨first, last⟩ := range
    have hrange : (decide (n ≥ first) && decide (n - first < last + 1 - first)) =
        (decide (first ≤ n) && decide (n ≤ last)) := by
      rw [Bool.eq_iff_iff]
      simp only [Bool.and_eq_true, decide_eq_true_eq]
      omega
    rw [bits, Nat.testBit_or, Nat.testBit_shiftLeft, Nat.one_shiftLeft,
      Nat.testBit_two_pow_sub_one, ih, hrange]
    rfl

/-- A set whose bits are among those of another lies in it. -/
theorem inRanges_of_bits (h : bits inner &&& bits outer = bits inner) {n : Nat}
    (hn : inRanges inner n = true) : inRanges outer n = true := by
  rw [← testBit_bits, ← h, Nat.testBit_and, Bool.and_eq_true] at hn
  rw [← testBit_bits]
  exact hn.2

/-! ## Maps -/

/-- Whether a map leaves every character in a set, or out of it, at each place of its tables. -/
def keepsMembership (ranges : List (Nat × Nat)) (shifts : List (Nat × Nat × Nat × Nat))
    (expansions : List (Nat × List Nat)) : Bool :=
  (shifts.all fun (first, last, step, image) =>
    (List.range (last - first + 1)).all fun distance =>
      distance % step != 0 ||
        (bits ranges).testBit (Char.ofNat (image + distance)).toNat ==
          (bits ranges).testBit (first + distance)) &&
  expansions.all fun (code, codes) =>
    (codes.map Char.ofNat).all (fun c => (bits ranges).testBit c.toNat) ==
      (bits ranges).testBit code

/-- A character is in such a set exactly if everything that it is mapped to is. -/
theorem all_mapChar (h : keepsMembership ranges shifts expansions = true) (c : Char) :
    (mapChar shifts expansions c).all (fun d => inRanges ranges d.toNat) =
      inRanges ranges c.toNat := by
  simp only [keepsMembership, testBit_bits, Bool.and_eq_true, List.all_eq_true] at h
  obtain ⟨hshifts, hexpansions⟩ := h
  unfold mapChar
  split
  · next codes hlookup =>
    obtain ⟨before, after, heq, -⟩ := List.lookup_eq_some_iff.mp hlookup
    have hmem : (c.toNat, codes) ∈ expansions := by simp [heq]
    exact beq_iff_eq.mp (hexpansions _ hmem)
  · split
    · next first last step image hfind =>
      have hon := List.find?_some hfind
      simp only [onProgression, Bool.and_eq_true, decide_eq_true_eq, beq_iff_eq] at hon
      obtain ⟨⟨hfirst, hlast⟩, hstep⟩ := hon
      have hdistance : c.toNat - first ∈ List.range (last - first + 1) :=
        List.mem_range.mpr (by omega)
      have hpoint := hshifts _ (List.mem_of_find?_eq_some hfind) _ hdistance
      simp only [hstep, bne_self_eq_false, Bool.false_or, beq_iff_eq,
        Nat.add_sub_cancel' hfirst] at hpoint
      rw [List.all_cons, List.all_nil, Bool.and_true, hpoint]
    · rw [List.all_cons, List.all_nil, Bool.and_true]

end SchemaBundle.Text.CodePoints
