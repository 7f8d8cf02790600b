import SchemaBundle.Proofs.Naming.Identifiers
import SchemaBundle.Proofs.Naming.Normalized
import SchemaBundle.Proofs.Text.CodePoints

/-!
# Which names become identifiers

The letters and digits of a name, and no other of its characters, go into the name of its type, and
a change of case makes no identifier character of one that is none, nor the other way round. But a
letter or digit need not be an identifier character, as a superscript or a circled letter is none,
and only the first character is looked at. So the name of a type is an identifier exactly if there
is no such character in the name.

* `Naming.flatten_words`: the words of a name hold its letters and digits
* `all_toUppercase`, `all_toLowercase`: what a change of case does to identifier characters
* `isIdentifier_giveAll_typeNames`: the names of types that are identifiers
-/

namespace SchemaBundle

open Text (isAlphanumeric toUppercase toLowercase)
open Text.CodePoints (bits inRanges keepsMembership)

/-! ## Identifier characters as a set -/

/-- The code points of the characters that an identifier goes on with. -/
def identifierRanges : List (Nat × Nat) :=
  [(0x24, 0x24), (0x30, 0x39), (0x41, 0x5A), (0x5F, 0x5F), (0x61, 0x7A)] ++
    Text.identifierContinueRanges

/-- What holds of the first 128 code points holds of the characters of ASCII. -/
theorem forall_of_lt_ascii {P : Char → Prop} (h : ∀ n < 0x80, P (Char.ofNat n)) {c : Char}
    (hc : c.toNat < 0x80) : P c := by
  have hchar := h c.toNat hc
  rwa [Char.ofNat_toNat] at hchar

theorem continuesIdentifier_eq_inRanges (c : Char) :
    continuesIdentifier c = inRanges identifierRanges c.toNat := by
  by_cases hlt : c.toNat < 0x80
  · rw [← Text.CodePoints.testBit_bits]
    refine forall_of_lt_ascii (P := fun c => continuesIdentifier c =
      (bits identifierRanges).testBit c.toNat) ?_ hlt
    decide +kernel
  · have hdollar : (c == '$') = false := by
      rw [beq_eq_false_iff_ne]
      rintro rfl
      exact hlt (by decide)
    have hascii : inRanges [(0x24, 0x24), (0x30, 0x39), (0x41, 0x5A), (0x5F, 0x5F), (0x61, 0x7A)]
        c.toNat = false := by
      simp [inRanges]
      omega
    rw [inRanges] at hascii
    rw [continuesIdentifier, hdollar, Bool.false_or, Text.isIdentifierContinue, if_neg hlt,
      identifierRanges, inRanges, inRanges, List.any_append, hascii, Bool.false_or]

/-- A character that an identifier starts with may stand anywhere in it. -/
theorem continuesIdentifier_of_startsIdentifier {c : Char} (h : startsIdentifier c = true) :
    continuesIdentifier c = true := by
  by_cases hlt : c.toNat < 0x80
  · revert h
    refine forall_of_lt_ascii (P := fun c => startsIdentifier c = true →
      continuesIdentifier c = true) ?_ hlt
    decide +kernel
  · have hstart : Text.isIdentifierStart c = true := by
      simp only [startsIdentifier, Bool.or_eq_true, beq_iff_eq] at h
      rcases h with (rfl | rfl) | h
      · exact absurd (by decide) hlt
      · exact absurd (by decide) hlt
      · exact h
    rw [Text.isIdentifierStart, if_neg hlt] at hstart
    rw [continuesIdentifier_eq_inRanges]
    exact Text.CodePoints.inRanges_of_bits (by decide +kernel) hstart

/-! ## Changes of case -/

theorem all_toUppercase (c : Char) :
    (toUppercase c).all continuesIdentifier = continuesIdentifier c := by
  rw [toUppercase]
  split
  · next hlt =>
    refine forall_of_lt_ascii (P := fun c => [c.toUpper].all continuesIdentifier =
      continuesIdentifier c) ?_ hlt
    decide +kernel
  · have hkeeps : keepsMembership identifierRanges Text.uppercaseShifts
        Text.uppercaseExpansions = true := by decide +kernel
    simp only [funext continuesIdentifier_eq_inRanges]
    exact Text.CodePoints.all_mapChar hkeeps c

theorem all_toLowercase (c : Char) :
    (toLowercase c).all continuesIdentifier = continuesIdentifier c := by
  rw [toLowercase]
  split
  · next hlt =>
    refine forall_of_lt_ascii (P := fun c => [c.toLower].all continuesIdentifier =
      continuesIdentifier c) ?_ hlt
    decide +kernel
  · have hkeeps : keepsMembership identifierRanges Text.lowercaseShifts
        Text.lowercaseExpansions = true := by decide +kernel
    simp only [funext continuesIdentifier_eq_inRanges]
    exact Text.CodePoints.all_mapChar hkeeps c

namespace Naming

theorem all_lowered (word : List Char) :
    (lowered word).all continuesIdentifier = word.all continuesIdentifier := by
  fun_induction lowered word with
  | case1 => rfl
  | case2 c hsigma =>
    -- both sigmas are letters that an identifier may hold
    have hcontinues : continuesIdentifier c = true ∧
        continuesIdentifier (Char.ofNat 0x3C2) = true := by
      rw [continuesIdentifier_eq_inRanges, continuesIdentifier_eq_inRanges, hsigma]
      decide +kernel
    simp [hcontinues]
  | case3 c hsigma => simpa using all_toLowercase c
  | case4 c rest hrest ih => rw [List.all_append, List.all_cons, all_toLowercase, ih]

theorem all_capitalized (word : List Char) :
    (capitalized word).all continuesIdentifier = word.all continuesIdentifier := by
  cases word with
  | nil => rfl
  | cons c rest =>
    rw [capitalized, List.all_append, List.all_cons, all_toUppercase, all_lowered]

/-! ## The letters and digits of a name -/

/-- Splitting into words leaves out nothing. -/
theorem flatten_splitWords (run : Run) (word : List Char) {text : List Char} (h : text ≠ []) :
    (splitWords run word text).flatten = word.reverse ++ text := by
  fun_induction splitWords run word text with
  | case1 => exact absurd rfl h
  | case2 run word c => simp
  | case3 run word c next rest hsplit ih => simp [ih (List.cons_ne_nil next rest)]
  | case4 run word c next rest hsplit hcapital ih => simp [ih (List.cons_ne_nil next rest)]
  | case5 run word c next rest hsplit hcapital ih => simp [ih (List.cons_ne_nil next rest)]

/-- Where every two neighbours are letters or digits, and there are two, all are. -/
theorem isAlphanumeric_of_isChain {c d : Char} {rest : List Char}
    (h : (c :: d :: rest).IsChain fun a b => (isAlphanumeric a && isAlphanumeric b) = true) :
    ∀ e ∈ c :: d :: rest, isAlphanumeric e = true := by
  induction rest generalizing c d with
  | nil =>
    rw [List.isChain_cons_cons, Bool.and_eq_true] at h
    simpa using h.1
  | cons next rest ih =>
    rw [List.isChain_cons_cons, Bool.and_eq_true] at h
    intro e he
    rcases List.mem_cons.mp he with rfl | he
    · exact h.1.1
    · exact ih h.2 e he

/-- A piece of a name is of letters and digits, or it is one other character. -/
theorem filter_of_mem_splitBy {name piece : List Char}
    (h : piece ∈ name.splitBy fun a b => isAlphanumeric a && isAlphanumeric b) :
    piece.filter isAlphanumeric = if piece.all isAlphanumeric then piece else [] := by
  have hchain := List.isChain_of_mem_splitBy h
  rcases piece with _ | ⟨c, _ | ⟨d, rest⟩⟩
  · rfl
  · cases hc : isAlphanumeric c <;> simp [hc]
  · have hall := isAlphanumeric_of_isChain hchain
    rw [if_pos (List.all_eq_true.mpr hall), List.filter_eq_self.mpr hall]

theorem flatten_filter_eq_flatMap (pieces : List (List Char)) :
    (pieces.filter fun piece => piece.all isAlphanumeric).flatten =
      pieces.flatMap fun piece => if piece.all isAlphanumeric then piece else [] := by
  induction pieces with
  | nil => rfl
  | cons piece rest ih =>
    rw [List.filter_cons, List.flatMap_cons, ← ih]
    split <;> rfl

theorem flatten_pieces (name : List Char) :
    (pieces name).flatten = name.filter isAlphanumeric := by
  let split := name.splitBy fun a b => isAlphanumeric a && isAlphanumeric b
  calc (pieces name).flatten
      = split.flatMap fun piece => if piece.all isAlphanumeric then piece else [] :=
        flatten_filter_eq_flatMap split
    _ = split.flatMap (List.filter isAlphanumeric) :=
        List.flatMap_congr fun piece hp => (filter_of_mem_splitBy hp).symm
    _ = split.flatten.filter isAlphanumeric := by rw [List.filter_flatten, List.flatMap_def]
    _ = name.filter isAlphanumeric := by rw [List.flatten_splitBy]

/-- The words of a name hold its letters and digits, in order, and nothing else. -/
theorem flatten_words (name : List Char) : (words name).flatten = name.filter isAlphanumeric := by
  have hpiece : ∀ piece ∈ pieces name, (splitWords .none [] piece).flatten = piece := by
    intro piece hp
    have hne : piece ≠ [] := List.ne_nil_of_mem_splitBy (List.mem_of_mem_filter hp)
    rw [flatten_splitWords _ _ hne, List.reverse_nil, List.nil_append]
  calc (words name).flatten
      = ((pieces name).map fun piece => (splitWords .none [] piece).flatten).flatten := by
        rw [words, List.flatMap_def, List.flatten_flatten, List.map_map]
        rfl
    _ = ((pieces name).map id).flatten := by rw [List.map_congr_left hpiece]; rfl
    _ = name.filter isAlphanumeric := by rw [List.map_id, flatten_pieces]

/-- The characters of a name in Pascal case can stand in an identifier just if its letters and
digits can. -/
theorem all_pascal (name : List Char) :
    (pascal name).all continuesIdentifier =
      (name.filter isAlphanumeric).all continuesIdentifier := by
  rw [pascal, ← flatten_words]
  induction words name with
  | nil => rfl
  | cons word rest ih =>
    rw [List.flatMap_cons, List.flatten_cons, List.all_append, List.all_append, all_capitalized, ih]

end Naming

/-! ## Identifiers -/

theorem isIdentifierChars_asTypeName_eq_all (chars : List Char) :
    isIdentifierChars (asTypeName chars) = chars.all continuesIdentifier := by
  cases chars with
  | nil => decide
  | cons c rest =>
    rw [asTypeName]
    split
    · next hstarts =>
      rw [isIdentifierChars, List.all_cons, hstarts,
        continuesIdentifier_of_startsIdentifier hstarts]
    · have hunderscore : startsIdentifier '_' = true := by decide
      rw [isIdentifierChars, hunderscore, Bool.true_and]

/-- A number after an identifier makes no other text an identifier either. -/
theorem isIdentifier_numbered_iff {name : String} (h : name ≠ "") (number : Nat) :
    isIdentifier (NamePool.numbered name number) = true ↔ isIdentifier name = true := by
  refine ⟨fun hnumbered => ?_, fun hname => isIdentifier_numbered hname number⟩
  have hne : name.toList ≠ [] := fun hnil => h (String.toList_eq_nil_iff.mp hnil)
  rw [isIdentifier, NamePool.numbered, String.toList_append] at hnumbered
  exact ((isIdentifierChars_append hne).mp hnumbered).1

/-- A letter or digit that can stand in no identifier: a superscript, a fraction, a circled
letter. -/
def isStray (c : Char) : Bool :=
  isAlphanumeric c && !continuesIdentifier c

theorem isIdentifier_typeName_iff {name : String} :
    isIdentifier (typeName name) = true ↔ ∀ c ∈ name.toList, isStray c = false := by
  rw [isIdentifier, typeName, String.toList_ofList, isIdentifierChars_asTypeName_eq_all,
    Naming.all_pascal, List.all_filter, List.all_eq_true]
  refine forall₂_congr fun c _ => ?_
  rw [isStray]
  cases isAlphanumeric c <;> cases continuesIdentifier c <;> decide

theorem typeName_ne_empty (name : String) : typeName name ≠ "" := by
  intro hempty
  have hchars : asTypeName (Naming.pascal name.toList) = [] := by
    rw [← String.toList_ofList (l := asTypeName _)]
    exact congrArg String.toList hempty
  revert hchars
  fun_cases asTypeName (Naming.pascal name.toList) <;> exact List.cons_ne_nil _ _

/-- Whatever names were given out before, the one given out for a type name is an identifier just
if the type name is. -/
theorem isIdentifier_give_typeName (pool : NamePool) (name : String) :
    isIdentifier (pool.give (typeName name)).1 = true ↔ isIdentifier (typeName name) = true := by
  rcases (NamePool.gives_give pool (typeName name)).spelling with heq | ⟨number, heq⟩
  · rw [heq]
  · rw [heq]
    exact isIdentifier_numbered_iff (typeName_ne_empty name) number

/--
The name of a type is an identifier exactly if there is no letter or digit in the name of the
schema that can stand in no identifier. So it is with the names that are given out for types one
after another, whatever names were given out before.
-/
theorem isIdentifier_giveAll_typeNames (pool : NamePool) (names : List String) :
    (∀ name, isIdentifier (typeName name) = true ↔ ∀ c ∈ name.toList, isStray c = false) ∧
      List.Forall₂ (fun name given =>
          isIdentifier given = true ↔ ∀ c ∈ name.toList, isStray c = false)
        names (pool.giveAll (names.map typeName)).1 := by
  refine ⟨fun _ => isIdentifier_typeName_iff, ?_⟩
  induction names generalizing pool with
  | nil => exact .nil
  | cons name rest ih =>
    exact .cons ((isIdentifier_give_typeName pool name).trans isIdentifier_typeName_iff) (ih _)

/-- Two is a digit as an exponent as well, but not one that an identifier may hold. -/
theorem not_isIdentifier_typeName :
    ¬ ∀ (pool : NamePool) (name : String), isIdentifier (typeName name) = true ∧
      isIdentifier (pool.give (typeName name)).1 = true := by
  intro hall
  have hsquare : isIdentifier (typeName "m²") = false := by decide +kernel
  rw [(hall ∅ "m²").1] at hsquare
  cases hsquare

end SchemaBundle
