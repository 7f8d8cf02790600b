import Mathlib.Data.List.DropRight
import SchemaBundle.Files.Path

/-!
# Parents of paths

The names of a path are those of its parent, then dots, then one name, then dots again. No parent
ends in a dot, unless it is the dot alone, so for a parent of a parent the last dots are missing.

* `Path.isParent_of_parent?`: what a path has in common with its parent
* `Path.isTrimmed_of_parent?`: parents do not end in dots
-/

namespace SchemaBundle.Path

/-! ## Splitting -/

theorem notMem_of_mem_splitSlashes {text part : List Char} (h : part ∈ splitSlashes text) :
    '/' ∉ part := by
  induction text generalizing part with
  | nil =>
    rw [splitSlashes, List.mem_singleton] at h
    simp [h]
  | cons c rest ih =>
    rw [splitSlashes] at h
    split at h
    · rcases List.mem_cons.mp h with rfl | h
      · exact List.not_mem_nil
      · exact ih h
    · next hc =>
      split at h
      · rw [List.mem_singleton.mp h, List.mem_singleton]
        exact Ne.symm hc
      · next first parts hparts =>
        rcases List.mem_cons.mp h with rfl | h
        · have hfirst := ih (by rw [hparts]; exact List.mem_cons_self)
          rw [List.mem_cons, not_or]
          exact ⟨Ne.symm hc, hfirst⟩
        · exact ih (by rw [hparts]; exact List.mem_cons_of_mem _ h)

theorem splitSlashes_slash (text : List Char) :
    splitSlashes ('/' :: text) = [] :: splitSlashes text := by
  simp [splitSlashes]

/-- A part without slashes is split off as it is. -/
theorem splitSlashes_append {part : List Char} (h : '/' ∉ part) (text : List Char) :
    splitSlashes (part ++ '/' :: text) = part :: splitSlashes text := by
  induction part with
  | nil => exact splitSlashes_slash text
  | cons c rest ih =>
    rw [List.mem_cons, not_or] at h
    rw [List.cons_append, splitSlashes, if_neg (Ne.symm h.1), ih h.2]

theorem splitSlashes_of_notMem {part : List Char} (h : '/' ∉ part) :
    splitSlashes part = [part] := by
  induction part with
  | nil => rfl
  | cons c rest ih =>
    rw [List.mem_cons, not_or] at h
    rw [splitSlashes, if_neg (Ne.symm h.1), ih h.2]

/-- Parts are put together and split again without a change, unless there are none. -/
theorem splitSlashes_joinSlashes {parts : List (List Char)} (hne : parts ≠ [])
    (h : ∀ part ∈ parts, '/' ∉ part) : splitSlashes (joinSlashes parts) = parts := by
  induction parts with
  | nil => exact absurd rfl hne
  | cons part rest ih =>
    have hpart := h part List.mem_cons_self
    cases rest with
    | nil => exact splitSlashes_of_notMem hpart
    | cons next more =>
      rw [joinSlashes, splitSlashes_append hpart,
        ih (by simp) fun other ho => h other (List.mem_cons_of_mem _ ho)]
      simp

/-- The text of more parts goes on where that of fewer ends. -/
theorem exists_joinSlashes_append (parts : List (List Char)) {more : List (List Char)}
    (h : ∃ part ∈ more, part ≠ []) :
    ∃ rest, rest ≠ [] ∧ joinSlashes (parts ++ more) = joinSlashes parts ++ rest := by
  induction parts with
  | nil =>
    refine ⟨joinSlashes more, ?_, rfl⟩
    obtain ⟨part, hpart, hne⟩ := h
    cases more with
    | nil => cases hpart
    | cons first others =>
      cases others with
      | nil =>
        rw [List.mem_singleton] at hpart
        simpa [joinSlashes, ← hpart] using hne
      | cons next others => simp [joinSlashes]
  | cons part rest ih =>
    obtain ⟨text, htext, heq⟩ := ih
    cases rest with
    | nil =>
      obtain ⟨first, others, rfl⟩ : ∃ first others, more = first :: others := by
        obtain ⟨_, hmem, _⟩ := h
        exact List.exists_cons_of_ne_nil (List.ne_nil_of_mem hmem)
      exact ⟨'/' :: joinSlashes (first :: others), by simp, rfl⟩
    | cons next others =>
      refine ⟨text, htext, ?_⟩
      show part ++ '/' :: joinSlashes (next :: others ++ more) =
        part ++ '/' :: joinSlashes (next :: others) ++ text
      rw [heq, List.append_assoc, List.cons_append]

/-! ## Names of parts -/

/-- The names that parts are. -/
def namesOfParts (parts : List (List Char)) : List String :=
  (parts.filter (!·.isEmpty)).map String.ofList

theorem names_eq (path : Path) : path.names = namesOfParts (splitSlashes path.text.toList) :=
  rfl

theorem namesOfParts_append (parts more : List (List Char)) :
    namesOfParts (parts ++ more) = namesOfParts parts ++ namesOfParts more := by
  simp [namesOfParts]

theorem namesOfParts_nil_cons (parts : List (List Char)) :
    namesOfParts ([] :: parts) = namesOfParts parts := by
  simp [namesOfParts]

/-- Parts that name nothing are dots or no names at all. -/
theorem eq_dot_of_mem_namesOfParts {parts : List (List Char)}
    (h : ∀ part ∈ parts, isIdle part = true) : ∀ name ∈ namesOfParts parts, name = "." := by
  intro name hname
  obtain ⟨part, hpart, rfl⟩ := List.mem_map.mp hname
  obtain ⟨hmem, hne⟩ := List.mem_filter.mp hpart
  have hidle := h part hmem
  rw [isIdle, Bool.or_eq_true, beq_iff_eq, beq_iff_eq] at hidle
  rcases hidle with rfl | rfl
  · simp at hne
  · rfl

theorem namesOfParts_joinSlashes {parts : List (List Char)} (h : ∀ part ∈ parts, '/' ∉ part) :
    namesOfParts (splitSlashes (joinSlashes parts)) = namesOfParts parts := by
  cases parts with
  | nil => rfl
  | cons part rest => rw [splitSlashes_joinSlashes (by simp) h]

/-! ## Dropping what names nothing -/

theorem exists_dropIdle (parts : List (List Char)) :
    ∃ idle, parts = dropIdle parts ++ idle ∧ ∀ part ∈ idle, isIdle part = true :=
  ⟨parts.rtakeWhile isIdle, List.rdropWhile_append_rtakeWhile.symm,
    fun _ hp => List.mem_rtakeWhile_imp hp⟩

theorem isIdle_getLast_dropIdle {parts : List (List Char)} (h : dropIdle parts ≠ []) :
    ¬ isIdle ((dropIdle parts).getLast h) = true :=
  List.rdropWhile_last_not isIdle _ h

/-- Before its last name a path has its parent's parts and then such that name nothing. -/
theorem exists_parts_of_dropIdle {parts : List (List Char)} (h : dropIdle parts ≠ []) :
    ∃ idle last more, parts = dropIdle (dropIdle parts).dropLast ++ (idle ++ last :: more) ∧
      isIdle last = false ∧ (∀ part ∈ idle, isIdle part = true) ∧
      ∀ part ∈ more, isIdle part = true := by
  obtain ⟨more, hmore, hidleMore⟩ := exists_dropIdle parts
  obtain ⟨idle, hidle, hidleIdle⟩ := exists_dropIdle (dropIdle parts).dropLast
  refine ⟨idle, (dropIdle parts).getLast h, more, ?_, ?_, hidleIdle, hidleMore⟩
  · calc parts = dropIdle parts ++ more := hmore
      _ = (dropIdle parts).dropLast ++ [(dropIdle parts).getLast h] ++ more := by
        rw [List.dropLast_append_getLast h]
      _ = dropIdle (dropIdle parts).dropLast ++ idle ++ [(dropIdle parts).getLast h] ++ more := by
        rw [← hidle]
      _ = _ := by simp
  · exact Bool.not_eq_true _ ▸ isIdle_getLast_dropIdle h

/-! ## Starts -/

/-- The name that the start of a path is. -/
def namesOfStart (start : List Char) : List String :=
  if start = ['.'] then ["."] else []

/-- The forms of a path by its start. -/
theorem start_cases (text : List Char) :
    (∃ rest, text = '/' :: rest ∧ start text = (['/'], rest)) ∨
      (text = ['.'] ∧ start text = (['.'], [])) ∨
      (∃ rest, text = '.' :: '/' :: rest ∧ start text = (['.'], '/' :: rest)) ∨
      (text.head? ≠ some '/' ∧ start text = ([], text)) := by
  unfold start
  split
  · exact Or.inl ⟨_, rfl, rfl⟩
  · exact Or.inr (Or.inl ⟨rfl, rfl⟩)
  · exact Or.inr (Or.inr (Or.inl ⟨_, rfl, rfl⟩))
  · next hslash _ _ =>
    refine Or.inr (Or.inr (Or.inr ⟨?_, rfl⟩))
    cases text with
    | nil => simp
    | cons c rest =>
      rw [List.head?_cons, Ne, Option.some.injEq]
      rintro rfl
      exact hslash rest rfl

theorem start_append (text : List Char) : (start text).1 ++ (start text).2 = text := by
  rcases start_cases text with ⟨rest, rfl, h⟩ | ⟨rfl, h⟩ | ⟨rest, rfl, h⟩ | ⟨_, h⟩ <;> simp [h]

/-- The names of a start with parts after it, where the parts are the first of the path's. -/
theorem namesOfParts_start_append {text : List Char} {parts : List (List Char)}
    (hinitial : parts <+: splitSlashes (start text).2)
    (hlast : ∀ h : parts ≠ [], isIdle (parts.getLast h) = false) :
    namesOfParts (splitSlashes ((start text).1 ++ joinSlashes parts)) =
      namesOfStart (start text).1 ++ namesOfParts parts := by
  have hslash : ∀ part ∈ parts, '/' ∉ part :=
    fun part hp => notMem_of_mem_splitSlashes (hinitial.subset hp)
  have hempty : parts ≠ [[]] := by
    rintro rfl
    exact absurd (hlast (by simp)) (by decide)
  rcases start_cases text with ⟨rest, rfl, h⟩ | ⟨rfl, h⟩ | ⟨rest, rfl, h⟩ | ⟨_, h⟩
  · rw [h]
    show namesOfParts (splitSlashes ('/' :: joinSlashes parts)) = _
    rw [splitSlashes_slash, namesOfParts_nil_cons, namesOfParts_joinSlashes hslash]
    rfl
  · have hnil : parts = [] := by
      rw [h] at hinitial
      rcases List.prefix_cons_iff.mp hinitial with hnil | ⟨more, rfl, hmore⟩
      · exact hnil
      · rw [List.prefix_nil.mp hmore] at hempty
        exact absurd rfl hempty
    rw [h, hnil]
    rfl
  · rw [h] at hinitial ⊢
    simp only [splitSlashes_slash] at hinitial
    rcases List.prefix_cons_iff.mp hinitial with rfl | ⟨more, rfl, _⟩
    · rfl
    · -- the dot is a part of its own, since a slash follows
      have hne : more ≠ [] := fun hnil => hempty (by rw [hnil])
      obtain ⟨next, others, rfl⟩ := List.exists_cons_of_ne_nil hne
      have hrest : ∀ part ∈ next :: others, '/' ∉ part :=
        fun part hp => hslash part (List.mem_cons_of_mem _ hp)
      show namesOfParts (splitSlashes (['.'] ++ '/' :: joinSlashes (next :: others))) = _
      rw [splitSlashes_append (by simp), splitSlashes_joinSlashes (by simp) hrest,
        namesOfParts_nil_cons]
      rfl
  · rw [h]
    exact namesOfParts_joinSlashes hslash

/-- The names of a path are that of its start and those of its parts. -/
theorem names_eq_start (path : Path) : path.names =
    namesOfStart (start path.text.toList).1 ++
      namesOfParts (splitSlashes (start path.text.toList).2) := by
  rw [names_eq]
  rcases start_cases path.text.toList with ⟨rest, htext, h⟩ | ⟨htext, h⟩ | ⟨rest, htext, h⟩ | ⟨_, h⟩
  · rw [h, htext, splitSlashes_slash, namesOfParts_nil_cons]
    rfl
  · rw [h, htext]
    rfl
  · rw [h, htext]
    show namesOfParts (splitSlashes (['.'] ++ '/' :: rest)) =
      namesOfStart ['.'] ++ namesOfParts (splitSlashes ('/' :: rest))
    rw [splitSlashes_append (by simp), splitSlashes_slash, namesOfParts_nil_cons]
    rfl
  · rw [h]
    rfl

/-! ## Parents -/

/-- What a path has in common with its parent: it goes on after the parent's text, by one name and
dots before and after it. -/
structure IsParent (parent path : Path) : Prop where
  names : ∃ idle last more, path.names = parent.names ++ (idle ++ last :: more) ∧
    (∀ name ∈ idle, name = ".") ∧ ∀ name ∈ more, name = "."
  text : ∃ rest, rest ≠ "" ∧ path.text = parent.text ++ rest
  isAbsolute : parent.isAbsolute = path.isAbsolute

/-- The path does not end in a dot, unless it has no other name. -/
def IsTrimmed (path : Path) : Prop :=
  ∀ names, path.names = names ++ ["."] → names = []

/-- The parent of a path that has parts, where the parts go on after those of the parent. -/
theorem exists_parts_of_parent? {path parent : Path}
    (hparts : dropIdle (splitSlashes (start path.text.toList).2) ≠ [])
    (h : path.parent? = some parent) :
    ∃ parts rest, splitSlashes (start path.text.toList).2 = parts ++ rest ∧
      (∀ hne : parts ≠ [], isIdle (parts.getLast hne) = false) ∧
      (∃ idle last more, rest = idle ++ last :: more ∧ isIdle last = false ∧
        (∀ part ∈ idle, isIdle part = true) ∧ ∀ part ∈ more, isIdle part = true) ∧
      parent.text.toList = (start path.text.toList).1 ++ joinSlashes parts := by
  obtain ⟨idle, last, more, heq, hlast, hidle, hmore⟩ := exists_parts_of_dropIdle hparts
  unfold parent? at h
  simp only at h
  cases h
  refine ⟨_, _, heq, ?_, ⟨idle, last, more, rfl, hlast, hidle, hmore⟩, String.toList_ofList⟩
  exact fun hne => Bool.not_eq_true _ ▸ isIdle_getLast_dropIdle hne

/-- The parent of a path without parts: nothing is left of a dot. -/
theorem parent?_of_noParts {path : Path}
    (hparts : dropIdle (splitSlashes (start path.text.toList).2) = []) :
    path.parent? = if (start path.text.toList).1 = ['.'] then some ⟨""⟩ else none := by
  unfold parent?
  simp only [hparts]

/-- A path without parts has no names but dots. -/
theorem eq_dot_of_noParts {path : Path}
    (hparts : dropIdle (splitSlashes (start path.text.toList).2) = []) :
    ∀ name ∈ path.names, name = "." := by
  rw [names_eq_start]
  intro name hname
  rcases List.mem_append.mp hname with hname | hname
  · rw [namesOfStart] at hname
    split at hname
    · exact List.mem_singleton.mp hname
    · cases hname
  · exact eq_dot_of_mem_namesOfParts (List.rdropWhile_eq_nil_iff.mp hparts) name hname

/-- Without a parent there are no names but dots. -/
theorem eq_dot_of_parent?_eq_none {path : Path} (h : path.parent? = none) :
    ∀ name ∈ path.names, name = "." := by
  refine eq_dot_of_noParts ?_
  unfold parent? at h
  simp only at h
  split at h
  · next hempty => exact hempty
  · cases h

/-- The parent of a dot without parts is empty. -/
theorem isParent_of_noParts {path : Path}
    (hparts : dropIdle (splitSlashes (start path.text.toList).2) = [])
    (hdot : (start path.text.toList).1 = ['.']) : IsParent ⟨""⟩ path := by
  have hdots := eq_dot_of_noParts hparts
  have hnames := names_eq_start path
  have htext := start_append path.text.toList
  rw [hdot] at hnames htext
  refine ⟨⟨[], ".", _, hnames, by simp, ?_⟩, ⟨path.text, ?_, by simp⟩, ?_⟩
  · intro name hname
    exact hdots name (by rw [hnames]; exact List.mem_cons_of_mem _ hname)
  · intro hempty
    rw [hempty] at htext
    cases htext
  · rw [isAbsolute, isAbsolute, ← htext]
    rfl

/-- A path and the start of it with some of its parts are both absolute or both relative. -/
theorem isAbsolute_of_start {path parent : Path} {parts : List (List Char)} {rest : String}
    (htext : parent.text.toList = (start path.text.toList).1 ++ joinSlashes parts)
    (hrest : path.text = parent.text ++ rest) : parent.isAbsolute = path.isAbsolute := by
  rw [isAbsolute, isAbsolute, htext]
  rcases start_cases path.text.toList with
    ⟨others, hpath, hstart⟩ | ⟨hpath, hstart⟩ | ⟨others, hpath, hstart⟩ | ⟨hhead, hstart⟩
  · rw [hstart, hpath]
    rfl
  · rw [hstart, hpath]
    rfl
  · rw [hstart, hpath]
    rfl
  · -- a start of a text that does not start with a slash does not either
    rw [hstart, List.nil_append] at htext ⊢
    rw [hrest, String.toList_append, htext] at hhead ⊢
    cases hjoined : joinSlashes parts with
    | nil =>
      rw [hjoined] at hhead
      exact (beq_eq_false_iff_ne.mpr hhead).symm
    | cons c others => rfl

theorem isParent_of_parent? {path parent : Path} (h : path.parent? = some parent) :
    IsParent parent path := by
  by_cases hparts : dropIdle (splitSlashes (start path.text.toList).2) = []
  · rw [parent?_of_noParts hparts] at h
    split at h
    · next hdot =>
      cases h
      exact isParent_of_noParts hparts hdot
    · cases h
  · obtain ⟨parts, rest, heq, hparent, ⟨idle, last, more, rfl, hlast, hidle, hmore⟩, htext⟩ :=
      exists_parts_of_parent? hparts h
    have hne : last ≠ [] := by
      rintro rfl
      cases hlast
    have hnames : parent.names = namesOfStart (start path.text.toList).1 ++ namesOfParts parts := by
      rw [names_eq, htext]
      exact namesOfParts_start_append ⟨_, heq.symm⟩ hparent
    obtain ⟨more', hmore', hjoin⟩ : ∃ more', more' ≠ [] ∧
        joinSlashes (parts ++ (idle ++ last :: more)) = joinSlashes parts ++ more' :=
      exists_joinSlashes_append parts ⟨last, by simp, hne⟩
    have hrest : path.text = parent.text ++ String.ofList more' := by
      apply String.toList_injective
      rw [← heq, joinSlashes_splitSlashes] at hjoin
      rw [String.toList_append, String.toList_ofList, htext, List.append_assoc, ← hjoin,
        start_append]
    refine ⟨⟨namesOfParts idle, String.ofList last, namesOfParts more, ?_,
      eq_dot_of_mem_namesOfParts hidle, eq_dot_of_mem_namesOfParts hmore⟩,
      ⟨String.ofList more', by simpa using hmore', hrest⟩, isAbsolute_of_start htext hrest⟩
    rw [names_eq_start path, hnames, heq, namesOfParts_append, namesOfParts_append]
    simp [namesOfParts, hne]

/-- Parents do not end in dots. -/
theorem isTrimmed_of_parent? {path parent : Path} (h : path.parent? = some parent) :
    parent.IsTrimmed := by
  intro names hnames
  by_cases hparts : dropIdle (splitSlashes (start path.text.toList).2) = []
  · rw [parent?_of_noParts hparts] at h
    split at h
    · cases h
      exact absurd (congrArg List.length hnames) (by simp [names_eq, namesOfParts, splitSlashes])
    · cases h
  · obtain ⟨parts, rest, heq, hparent, _, htext⟩ := exists_parts_of_parent? hparts h
    rw [names_eq, htext, namesOfParts_start_append ⟨_, heq.symm⟩ hparent] at hnames
    by_cases hne : parts = []
    · subst hne
      rw [namesOfStart] at hnames
      split at hnames
      · exact (List.append_eq_singleton_iff.mp hnames.symm).elim (fun h => h.1)
          fun h => by simp at h
      · simp [namesOfParts] at hnames
    · -- the last part names something, and no dot
      have hlast := hparent hne
      rw [← List.dropLast_append_getLast hne, namesOfParts_append, ← List.append_assoc] at hnames
      have hsingle : namesOfParts [parts.getLast hne] = [String.ofList (parts.getLast hne)] := by
        rw [isIdle, Bool.or_eq_false_iff, beq_eq_false_iff_ne] at hlast
        simp [namesOfParts, hlast.1]
      rw [hsingle] at hnames
      have hdot := (List.append_inj' hnames rfl).2
      rw [List.singleton_inj] at hdot
      have heqDot : parts.getLast hne = ['.'] := by
        rw [← String.toList_ofList (l := parts.getLast hne), hdot]
        rfl
      rw [heqDot] at hlast
      cases hlast

end SchemaBundle.Path
