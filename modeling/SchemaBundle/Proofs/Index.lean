import Mathlib.Data.List.Basic
import SchemaBundle.Index
import SchemaBundle.Proofs.Naming.Normalized

/-!
# What index modules bind

An index module binds a name on each of its lines but the last, which gives the names out. Both
modules are written alike, so one reader with the words of a module finds the names in either of
them. If the names are identifiers, it finds in the module what the module was written for.

* `Index.bindings_types`, `Index.bindings_schemas`: the names that are read back
-/

namespace SchemaBundle

namespace Index

/-! ## Reading a module -/

/-- The words that a module binds a name with and gives names out with. No line can start with both
of them, and they stand on one line. -/
structure Words where
  binder : List Char
  opener : List Char
  apart : ∀ rest, (binder ++ rest).dropPrefix? opener = none ∧
    (opener ++ rest).dropPrefix? binder = none
  unbroken : '\n' ∉ binder ∧ '\n' ∉ opener

/-- The names that a module binds, and those that it gives out. -/
structure Bindings where
  bound : List String
  exported : List String
deriving DecidableEq, Repr

/-- The name that a line binds, up to the next blank. -/
def boundIn? (words : Words) (line : List Char) : Option String :=
  (line.dropPrefix? words.binder).map fun rest => String.ofList (rest.takeWhile (· != ' '))

/-- The names that are listed up to a brace, with commas between them. -/
def listed (text : List Char) : List String :=
  let items := ((text.takeWhile (· != '\x7d')).filter (· != ' ')).splitOn ','
  (items.filter (!·.isEmpty)).map String.ofList

/-- The names that a line gives out. -/
def exportedIn (words : Words) (line : List Char) : List String :=
  ((line.dropPrefix? words.opener).map listed).getD []

/-- The names of a module, line by line. -/
def bindings (words : Words) (text : String) : Bindings :=
  let lines := text.toList.splitOn '\n'
  ⟨lines.filterMap (boundIn? words), lines.flatMap (exportedIn words)⟩

/-- The words of the module that gives out types. -/
def typesWords : Words where
  binder := "import * as ".toList
  opener := "export \x7b".toList
  apart := fun _ => ⟨rfl, rfl⟩
  unbroken := by decide

/-- The words of the module that gives out schema documents. -/
def schemasWords : Words where
  binder := "const ".toList
  opener := "module.exports = \x7b".toList
  apart := fun _ => ⟨rfl, rfl⟩
  unbroken := by decide

theorem binder_typesWords : typesWords.binder = "import * as ".toList :=
  rfl

theorem opener_typesWords : typesWords.opener = "export \x7b".toList :=
  rfl

theorem binder_schemasWords : schemasWords.binder = "const ".toList :=
  rfl

theorem opener_schemasWords : schemasWords.opener = "module.exports = \x7b".toList :=
  rfl

/-! ## Lines -/

section Lines

variable (words : Words) {name rest : List Char}

theorem splitOn_lines {lines : List (List Char)} (h : ∀ line ∈ lines, '\n' ∉ line) :
    (lines.flatMap (· ++ ['\n'])).splitOn '\n' = lines ++ [[]] := by
  induction lines with
  | nil => rfl
  | cons line more ih =>
    obtain ⟨hline, hmore⟩ := List.forall_mem_cons.mp h
    rw [List.flatMap_cons, List.append_assoc, List.singleton_append,
      List.splitOn_append_cons_self, List.splitOn_eq_singleton hline, ih hmore]
    rfl

theorem boundIn?_binder (h : ' ' ∉ name) (rest : List Char) :
    boundIn? words (words.binder ++ (name ++ ' ' :: rest)) = some (String.ofList name) := by
  have hkeep : ∀ c ∈ name, (c != ' ') = true := fun c hc => bne_iff_ne.mpr fun heq => h (heq ▸ hc)
  rw [boundIn?, List.dropPrefix?_append_of_beq _ BEq.rfl, Option.map_some,
    List.takeWhile_append_of_pos hkeep, List.takeWhile_cons_of_neg (by decide), List.append_nil]

theorem boundIn?_opener : boundIn? words (words.opener ++ rest) = none := by
  rw [boundIn?, (words.apart rest).2, Option.map_none]

theorem exportedIn_binder : exportedIn words (words.binder ++ rest) = [] := by
  rw [exportedIn, (words.apart rest).1]
  rfl

theorem exportedIn_opener : exportedIn words (words.opener ++ rest) = listed rest := by
  rw [exportedIn, List.dropPrefix?_append_of_beq _ BEq.rfl]
  rfl

/-- Nothing is bound or given out on an empty line. -/
theorem names_nil : boundIn? words [] = none ∧ exportedIn words [] = [] := by
  obtain ⟨hbinder, hopener⟩ := words.apart []
  rw [List.append_nil] at hbinder hopener
  rw [boundIn?, exportedIn]
  constructor
  · cases hwords : words.binder with
    | nil =>
      rw [hwords, List.dropPrefix?_nil] at hopener
      cases hopener
    | cons c more => rfl
  · cases hwords : words.opener with
    | nil =>
      rw [hwords, List.dropPrefix?_nil] at hbinder
      cases hbinder
    | cons c more => rfl

end Lines

/-! ## Lists of names -/

section Lists

variable {names : List String}

/-- The characters that stand between names are in no identifier. -/
theorem notMem_of_isIdentifier {name : String} (h : isIdentifier name = true) :
    ∀ c ∈ [' ', ',', '\x7d', '\n'], c ∉ name.toList := by
  intro c hc
  have hmarks : c = ' ' ∨ c = ',' ∨ c = '\x7d' ∨ c = '\n' := by simpa using hc
  refine notMem_of_isIdentifierChars h ?_ ?_
  · rcases hmarks with rfl | rfl | rfl | rfl <;> rw [startsIdentifier_of_lt] <;> decide
  · rcases hmarks with rfl | rfl | rfl | rfl <;> rw [continuesIdentifier_of_lt] <;> decide

/-- Blanks between names are not in the names. -/
theorem filter_intercalate {parts : List (List Char)} (h : ∀ part ∈ parts, ' ' ∉ part) :
    ([',', ' '].intercalate parts).filter (· != ' ') = [','].intercalate parts := by
  have hkeep {part : List Char} (hpart : ' ' ∉ part) : part.filter (· != ' ') = part :=
    List.filter_eq_self.mpr fun c hc => bne_iff_ne.mpr fun heq => hpart (heq ▸ hc)
  induction parts with
  | nil => rfl
  | cons first more ih =>
    obtain ⟨hfirst, hmore⟩ := List.forall_mem_cons.mp h
    cases more with
    | nil => simp [hkeep hfirst]
    | cons second others =>
      rw [List.intercalate_cons_cons, List.intercalate_cons_cons, List.filter_append,
        List.filter_append, hkeep hfirst, ih hmore]
      rfl

theorem mem_of_mem_intercalate {mark : List Char} {parts : List (List Char)} {c : Char}
    (h : c ∈ mark.intercalate parts) : c ∈ mark ∨ ∃ part ∈ parts, c ∈ part := by
  induction parts with
  | nil => cases h
  | cons first more ih =>
    cases more with
    | nil => exact Or.inr ⟨first, List.mem_cons_self, by simpa using h⟩
    | cons second others =>
      rw [List.intercalate_cons_cons, List.mem_append, List.mem_append] at h
      rcases h with (h | h) | h
      · exact Or.inr ⟨first, List.mem_cons_self, h⟩
      · exact Or.inl h
      · refine (ih h).imp id ?_
        rintro ⟨part, hpart, hc⟩
        exact ⟨part, List.mem_cons_of_mem _ hpart, hc⟩

/-- A character that is in no name and not between names is not in a list of them. -/
theorem notMem_intercalate {c : Char} (h : ∀ name ∈ names, c ∉ name.toList)
    (hmark : c ∉ [',', ' ']) : c ∉ (", ".intercalate names).toList := by
  intro hin
  rw [String.toList_intercalate] at hin
  rcases mem_of_mem_intercalate hin with hin | ⟨part, hpart, hin⟩
  · exact hmark hin
  · obtain ⟨name, hname, rfl⟩ := List.mem_map.mp hpart
    exact h name hname hin

/-- Names with commas between them are read back. -/
theorem map_ofList_splitOn (h : ∀ name ∈ names, ',' ∉ name.toList ∧ name.toList ≠ []) :
    ((([','].intercalate (names.map String.toList)).splitOn ',').filter (!·.isEmpty)).map
      String.ofList = names := by
  by_cases hnone : names = []
  · rw [hnone]
    rfl
  · have hparts : ∀ part ∈ names.map String.toList, ',' ∉ part ∧ part ≠ [] := by
      intro part hpart
      obtain ⟨name, hname, rfl⟩ := List.mem_map.mp hpart
      exact h name hname
    have hsplit := List.splitOn_intercalate ',' (fun part hpart => (hparts part hpart).1)
      (mt List.map_eq_nil_iff.mp hnone)
    rw [hsplit, List.filter_eq_self.mpr fun part hpart => ?_, List.map_map]
    · exact List.map_id'' (fun name => String.ofList_toList) names
    · rw [Bool.not_eq_true', List.isEmpty_eq_false_iff]
      exact (hparts part hpart).2

/-- Identifiers that are listed are read back. -/
theorem listed_intercalate (h : ∀ name ∈ names, isIdentifier name = true) (rest : List Char) :
    listed (' ' :: ((", ".intercalate names).toList ++ ' ' :: '\x7d' :: rest)) = names := by
  have hmarks (c : Char) (hc : c ∈ [' ', ',', '\x7d', '\n']) : ∀ name ∈ names, c ∉ name.toList :=
    fun name hname => notMem_of_isIdentifier (h name hname) c hc
  have hblank : ∀ part ∈ names.map String.toList, ' ' ∉ part := by
    intro part hpart
    obtain ⟨name, hname, rfl⟩ := List.mem_map.mp hpart
    exact hmarks ' ' (by decide) name hname
  have hbrace : '\x7d' ∉ (", ".intercalate names).toList :=
    notMem_intercalate (hmarks '\x7d' (by decide)) (by decide)
  have htake : (' ' :: ((", ".intercalate names).toList ++ ' ' :: '\x7d' :: rest)).takeWhile
      (· != '\x7d') = ' ' :: ((", ".intercalate names).toList ++ [' ']) := by
    rw [List.takeWhile_cons_of_pos (by decide), List.takeWhile_append_of_pos,
      List.takeWhile_cons_of_pos (by decide), List.takeWhile_cons_of_neg (by decide)]
    exact fun c hc => bne_iff_ne.mpr fun heq => hbrace (heq ▸ hc)
  have hfilter : (' ' :: ((", ".intercalate names).toList ++ [' '])).filter (· != ' ') =
      [','].intercalate (names.map String.toList) := by
    rw [List.filter_cons_of_neg (by decide), List.filter_append, String.toList_intercalate]
    exact (congrArg (· ++ []) (filter_intercalate hblank)).trans (List.append_nil _)
  unfold listed
  rw [htake, hfilter]
  refine map_ofList_splitOn fun name hname => ⟨hmarks ',' (by decide) name hname, fun hnil => ?_⟩
  have hidentifier := h name hname
  rw [isIdentifier, hnil] at hidentifier
  cases hidentifier

end Lists

/-! ## Modules -/

section Modules

variable {words : Words} {names : List String} {text : String}

/-- The line that binds a name, with what comes after the name and a blank. -/
def bindingLine (words : Words) (tail : String → String) (name : String) : List Char :=
  words.binder ++ (name.toList ++ ' ' :: (tail name).toList)

theorem boundIn?_bindingLine {tail : String → String} {name : String}
    (h : isIdentifier name = true) : boundIn? words (bindingLine words tail name) = some name := by
  have hblank := notMem_of_isIdentifier h ' ' (by decide)
  rw [bindingLine, boundIn?_binder words hblank, String.ofList_toList]

/-- A module whose names are identifiers binds them and gives them out. -/
theorem bindings_eq {tail : String → String} {last : List Char}
    (htext : text.toList = (names.map (bindingLine words tail)).flatMap (· ++ ['\n']) ++
      (words.opener ++ last ++ ['\n']))
    (hnames : ∀ name ∈ names, isIdentifier name = true)
    (htail : ∀ name ∈ names, '\n' ∉ (tail name).toList) (hlast : '\n' ∉ last)
    (hlisted : listed last = names) : bindings words text = ⟨names, names⟩ := by
  have hlines : text.toList =
      (names.map (bindingLine words tail) ++ [words.opener ++ last]).flatMap (· ++ ['\n']) := by
    rw [htext, List.flatMap_append, List.flatMap_singleton]
  have hunbroken : ∀ line ∈ names.map (bindingLine words tail) ++ [words.opener ++ last],
      '\n' ∉ line := by
    intro line hline
    rcases List.mem_append.mp hline with hline | hline
    · obtain ⟨name, hname, rfl⟩ := List.mem_map.mp hline
      have hname' := notMem_of_isIdentifier (hnames name hname) '\n' (by decide)
      simp [bindingLine, words.unbroken.1, hname', htail name hname]
    · rw [List.mem_singleton.mp hline]
      simp [words.unbroken.2, hlast]
  -- every line binds its name and gives out nothing, but for the last one, which does the opposite
  have hbound : names.filterMap (fun name => boundIn? words (bindingLine words tail name)) =
      names :=
    (List.filterMap_congr fun name hname => boundIn?_bindingLine (hnames name hname)).trans
      List.filterMap_some
  have hgiven : names.flatMap (fun name => exportedIn words (bindingLine words tail name)) = [] :=
    List.flatMap_eq_nil_iff.mpr fun name _ => exportedIn_binder words
  unfold bindings
  rw [hlines, splitOn_lines hunbroken]
  simp [List.filterMap_append, List.flatMap_append, hbound, hgiven, hlisted, List.filterMap_map,
    List.flatMap_map, boundIn?_opener, exportedIn_opener, names_nil]

/-- A line break is written in other characters. -/
theorem notMem_escapeChar {mark : Char} (hmark : mark ≠ '\n') (c : Char) (next : Option Char) :
    '\n' ∉ TypeScript.escapeChar mark c next := by
  by_cases hbreak : c = '\n'
  · rw [hbreak]
    exact (by decide : '\n' ∉ ['\\', 'n'])
  · have hdigit : ∀ n < 16, '\n' ≠ TypeScript.hexDigit n := by decide
    have hnumber : c.toNat < 0x20 → '\n' ∉
        ['\\', 'x', TypeScript.hexDigit (c.toNat / 16), TypeScript.hexDigit (c.toNat % 16)] := by
      intro hlt
      simp [hdigit _ (by omega : c.toNat / 16 < 16), hdigit _ (by omega : c.toNat % 16 < 16)]
    have hself : '\n' ∉ [c] := by simp [Ne.symm hbreak]
    have hmarked : '\n' ∉ ['\\', mark] := by simp [Ne.symm hmark]
    unfold TypeScript.escapeChar
    dsimp only
    repeat' apply iteInduction (motive := ('\n' ∉ ·)) <;> intro
    all_goals first | assumption | exact hnumber ‹_› | decide

/-- There is no line break in a text between quotation marks. -/
theorem notMem_quoteChars (text : String) : '\n' ∉ TypeScript.quoteChars text := by
  have hmark : TypeScript.quotationMark text.toList ≠ '\n' := by
    unfold TypeScript.quotationMark
    split <;> decide
  have hescapes (chars : List Char) :
      '\n' ∉ TypeScript.escapeChars (TypeScript.quotationMark text.toList) chars := by
    induction chars with
    | nil => exact List.not_mem_nil
    | cons c rest ih =>
      rw [TypeScript.escapeChars, List.mem_append, not_or]
      exact ⟨notMem_escapeChar hmark c _, ih⟩
  simp only [TypeScript.quoteChars, List.mem_cons, List.mem_append, List.not_mem_nil, or_false,
    not_or]
  exact ⟨hmark.symm, hescapes _, hmark.symm⟩

/-- What is on the last line of a module, after its words. -/
def lastLine (names : List String) : List Char :=
  ' ' :: ((", ".intercalate names).toList ++ [' ', '\x7d', ';'])

theorem notMem_lastLine (h : ∀ name ∈ names, isIdentifier name = true) : '\n' ∉ lastLine names := by
  have hlist : '\n' ∉ (", ".intercalate names).toList :=
    notMem_intercalate (fun name hname => notMem_of_isIdentifier (h name hname) '\n' (by decide))
      (by decide)
  simp only [lastLine, List.mem_cons, List.mem_append, not_or]
  exact ⟨by decide, hlist, by decide⟩

/-- What is on a line of the module that gives out types, after the name and a blank. -/
def typesTail (name : String) : String :=
  "from " ++ String.ofList (TypeScript.quoteChars ("./" ++ name ++ ".d.ts")) ++ ";"

theorem toList_typesImport (name : String) :
    (typesImport name).toList = bindingLine typesWords typesTail name ++ ['\n'] := by
  unfold typesImport bindingLine typesTail
  generalize TypeScript.quoteChars _ = source
  simp [binder_typesWords]

theorem toList_typesExport (hne : names ≠ []) : (typesExport names).toList =
    typesWords.opener ++ lastLine names ++ ['\n'] := by
  simp [typesExport, lastLine, opener_typesWords, hne]

/-- What is on a line of the module that gives out schema documents, after the name and a blank. -/
def schemasTail (name : String) : String :=
  "= require('./" ++ name ++ ".json');"

theorem toList_schemasImport (name : String) :
    (schemasImport name).toList = bindingLine schemasWords schemasTail name ++ ['\n'] := by
  simp [schemasImport, bindingLine, schemasTail, binder_schemasWords]

theorem toList_schemasExport (names : List String) :
    ("module.exports = \x7b " ++ ", ".intercalate names ++ " \x7d;\n").toList =
      schemasWords.opener ++ lastLine names ++ ['\n'] := by
  simp [lastLine, opener_schemasWords]

/-- Identifiers are read back from the module that gives out types. -/
theorem bindings_types (h : ∀ name ∈ names, isIdentifier name = true) :
    bindings typesWords (types names) = ⟨names, names⟩ := by
  by_cases hnone : names = []
  · rw [hnone]
    decide +kernel
  · have htext : (types names).toList =
        (names.map (bindingLine typesWords typesTail)).flatMap (· ++ ['\n']) ++
          (typesWords.opener ++ lastLine names ++ ['\n']) := by
      rw [types, String.toList_append, String.toList_join, toList_typesExport hnone,
        List.flatMap_map, List.flatMap_map]
      simp only [toList_typesImport]
    refine bindings_eq htext h (fun name _ => ?_) (notMem_lastLine h) (listed_intercalate h [';'])
    have hsource := notMem_quoteChars ("./" ++ name ++ ".d.ts")
    unfold typesTail
    generalize TypeScript.quoteChars _ = source at hsource
    simp [hsource]

/-- Identifiers are read back from the module that gives out schema documents. -/
theorem bindings_schemas (h : ∀ name ∈ names, isIdentifier name = true) :
    bindings schemasWords (schemas names) = ⟨names, names⟩ := by
  have htext : (schemas names).toList =
      (names.map (bindingLine schemasWords schemasTail)).flatMap (· ++ ['\n']) ++
        (schemasWords.opener ++ lastLine names ++ ['\n']) := by
    rw [schemas, String.append_assoc, String.append_assoc, String.toList_append,
      String.toList_join, ← String.append_assoc, toList_schemasExport, List.flatMap_map,
      List.flatMap_map]
    simp only [toList_schemasImport]
  refine bindings_eq htext h (fun name hname => ?_) (notMem_lastLine h)
    (listed_intercalate h [';'])
  simp [schemasTail, notMem_of_isIdentifier (h name hname) '\n' (by decide)]

end Modules

end Index

end SchemaBundle
