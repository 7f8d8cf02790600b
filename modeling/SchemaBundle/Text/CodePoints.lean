/-!
# Sets and maps of code points

A character class of the Unicode standard is a list of ranges, a case map is a list of
progressions, each with the image of its first member; the others keep their distance to it.
This module reads both forms; the tables stand with the property they describe.
-/

namespace SchemaBundle.Text.CodePoints

/-! ## Membership -/

/-- Whether a code point lies in one of the closed ranges. -/
def inRanges (ranges : List (Nat × Nat)) (n : Nat) : Bool :=
  ranges.any fun (first, last) => first ≤ n && n ≤ last

/-- Whether a code point lies on the progression `first`, `first + step`, …, `last`. -/
def onProgression (first last step n : Nat) : Bool :=
  first ≤ n && n ≤ last && (n - first) % step == 0

/-- Whether a code point lies on one of the progressions. -/
def onProgressions (progressions : List (Nat × Nat × Nat)) (n : Nat) : Bool :=
  progressions.any fun (first, last, step) => onProgression first last step n

/-! ## Mapping -/

/--
Maps one character through a table. A character that becomes several is looked up among the
`expansions`, one that moves alone among the `shifts`; any other stays as it is.
-/
def mapChar (shifts : List (Nat × Nat × Nat × Nat)) (expansions : List (Nat × List Nat))
    (c : Char) : List Char :=
  match expansions.lookup c.toNat with
  | some codes => codes.map Char.ofNat
  | none =>
    match shifts.find? fun (first, last, step, _) => onProgression first last step c.toNat with
    | some (first, _, _, image) => [Char.ofNat (image + (c.toNat - first))]
    | none => [c]

end SchemaBundle.Text.CodePoints
