import SchemaBundle.Proofs.Files.Listing

/-!
# Files that are put one after another

What a program has done to the files of a disk is said by the list of the files that it has put
there, in order, each with what it holds. Of one place the last of them counts, every file that was
put can be read, and no other file is new, other than it was, or gone.

* `Disk.target_below`: where names below a path lead
* `Disk.Puts`: the effect of putting files, and how this goes together in a sequence
* `Disk.puts_save`, `Disk.puts_copy`: saving and copying one file
-/

namespace SchemaBundle

/-! ## Paths below a path -/

namespace Path

variable {root relative : Path} {name : String} {names : List String}

/-- The relative path of names. -/
def ofNames (names : List String) : Path :=
  names.foldl (fun path name => path.join ⟨name⟩) ⟨""⟩

/-- The path of names below a path. -/
def below (root : Path) (names : List String) : Path :=
  root.join (ofNames names)

theorem ofNames_concat (names : List String) (name : String) :
    ofNames (names ++ [name]) = (ofNames names).join ⟨name⟩ := by
  rw [ofNames, List.foldl_append]
  rfl

theorem isAbsolute_ofNames (h : ∀ name ∈ names, IsFileName name) :
    (ofNames names).isAbsolute = false := by
  induction names using List.reverseRecOn with
  | nil => rfl
  | append_singleton rest name ih =>
    rw [ofNames_concat, isAbsolute_join _ (h name (by simp))]
    exact ih fun other ho => h other (List.mem_append_left _ ho)

theorem eq_of_text_eq {first second : Path} (h : first.text = second.text) : first = second := by
  cases first
  exact congrArg Path.mk h

/-- The text between a path and what comes below it. -/
def separator (path : Path) : String :=
  if path.endsInSlash then "" else "/"

theorem join_of_isEmpty (h : root.text.isEmpty = true) (path : Path) : root.join path = path := by
  rw [join, if_pos (Or.inr h)]

theorem text_join (hne : root.text.isEmpty = false) (hrelative : relative.isAbsolute = false) :
    (root.join relative).text = root.text ++ root.separator ++ relative.text := by
  rw [join, if_neg (by simp [hne, hrelative]), separator]
  by_cases hslash : root.endsInSlash = true
  · rw [if_pos hslash, if_pos hslash, String.append_empty]
  · rw [if_neg hslash, if_neg hslash]

theorem isEmpty_append_of_left {first : String} (h : first.isEmpty = false) (second : String) :
    (first ++ second).isEmpty = false := by
  rw [Bool.eq_false_iff, ne_eq, String.isEmpty_iff] at h ⊢
  intro hempty
  exact h (String.append_eq_empty_iff.mp hempty).1

/-- What ends in a slash, with nothing after it or a text that ends in one, ends in a slash. -/
theorem endsInSlash_append (text : String) {more : String} (h : more.isEmpty = false) :
    (Path.mk (text ++ more)).endsInSlash = (Path.mk more).endsInSlash := by
  have hne : more.toList ≠ [] := by
    intro hnil
    rw [Bool.eq_false_iff, ne_eq, String.isEmpty_iff] at h
    exact h (String.toList_injective hnil)
  rw [endsInSlash, endsInSlash, String.toList_append, List.getLast?_append_of_ne_nil _ hne]

theorem endsInSlash_append_separator (path : Path) :
    (Path.mk (path.text ++ path.separator)).endsInSlash = true := by
  rw [separator]
  by_cases hslash : path.endsInSlash = true
  · rw [if_pos hslash, String.append_empty]
    exact hslash
  · rw [if_neg hslash, endsInSlash_append _ (by decide)]
    rfl

/-- A name may be put below a relative path before this is put below another one, or after. -/
theorem join_join (hrelative : relative.isAbsolute = false) (hname : IsFileName name) :
    root.join (relative.join ⟨name⟩) = (root.join relative).join ⟨name⟩ := by
  have habsolute := isAbsolute_of_notMem hname.noSlash
  by_cases hroot : root.text.isEmpty = true
  · rw [join_of_isEmpty hroot, join_of_isEmpty hroot]
  rw [Bool.not_eq_true] at hroot
  have hjoined := text_join hroot hrelative
  have hne : (root.join relative).text.isEmpty = false := by
    rw [hjoined, String.append_assoc]
    exact isEmpty_append_of_left hroot _
  refine eq_of_text_eq ?_
  by_cases hempty : relative.text.isEmpty = true
  · -- the root with nothing below it ends in the slash that the name needs
    have hslash : (root.join relative).separator = "" := by
      have hend : (root.join relative).endsInSlash = true := by
        have htail : (root.join relative).text = root.text ++ root.separator := by
          rw [hjoined, String.isEmpty_iff.mp hempty, String.append_empty]
        rw [endsInSlash, htail]
        exact endsInSlash_append_separator root
      rw [separator, if_pos hend]
    rw [join_of_isEmpty hempty, text_join hroot habsolute, text_join hne habsolute, hjoined, hslash,
      String.isEmpty_iff.mp hempty, String.append_empty, String.append_empty]
  · rw [Bool.not_eq_true] at hempty
    have hsame : (root.join relative).separator = relative.separator := by
      have hend : (root.join relative).endsInSlash = relative.endsInSlash := by
        rw [endsInSlash, hjoined]
        exact endsInSlash_append _ hempty
      rw [separator, separator, hend]
    have hbelow : (relative.join ⟨name⟩).isAbsolute = false := by
      rw [isAbsolute_join relative hname, hrelative]
    rw [text_join hroot hbelow, text_join hempty habsolute, text_join hne habsolute, hjoined, hsame]
    simp only [String.append_assoc]

theorem below_concat (h : ∀ name ∈ names, IsFileName name) (hname : IsFileName name) :
    root.below (names ++ [name]) = (root.below names).join ⟨name⟩ := by
  rw [below, ofNames_concat, join_join (isAbsolute_ofNames h) hname, below]

/-- Without names below it, a path ends in a slash. -/
theorem text_below_nil (hne : root.text.isEmpty = false) :
    (root.below []).text = root.text ++ root.separator := by
  rw [below, text_join hne rfl]
  exact String.append_empty

/-- Without names below it, a path leads where it does. -/
theorem names_below_nil (root : Path) : (root.below []).names = root.names ∧
    (root.below []).isAbsolute = root.isAbsolute := by
  by_cases hroot : root.text.isEmpty = true
  · have hempty : root = ⟨""⟩ := by
      cases root
      exact congrArg Path.mk (String.isEmpty_iff.mp hroot)
    rw [hempty]
    exact ⟨rfl, rfl⟩
  rw [Bool.not_eq_true] at hroot
  have htext := text_below_nil hroot
  have hchars : root.text.toList ≠ [] := by
    intro hnil
    rw [Bool.eq_false_iff, ne_eq, String.isEmpty_iff] at hroot
    exact hroot (String.toList_injective hnil)
  constructor
  · rw [names_eq, names_eq, htext, separator]
    split
    · rw [String.append_empty]
    · rw [String.toList_append]
      show namesOfParts (splitSlashes (root.text.toList ++ '/' :: [])) = _
      rw [splitSlashes_append_slash, namesOfParts_append]
      simp [splitSlashes, namesOfParts]
  · rw [isAbsolute, isAbsolute, htext, String.toList_append, List.head?_append_of_ne_nil _ hchars]

end Path

namespace Files

namespace Disk

variable {disk before middle after : Disk} {path root source : Path} {content : Content}

/-- Names below a path lead down from where the path leads. -/
theorem target_below (disk : Disk) (root : Path) {names : List String}
    (h : ∀ name ∈ names, Path.IsFileName name) :
    disk.target (root.below names) = names.reverse ++ disk.target root := by
  induction names using List.reverseRecOn with
  | nil =>
    obtain ⟨hnames, habsolute⟩ := Path.names_below_nil root
    rw [target, start, hnames, habsolute]
    rfl
  | append_singleton rest name ih =>
    have hrest : ∀ name ∈ rest, Path.IsFileName name :=
      fun other ho => h other (List.mem_append_left _ ho)
    have hname : Path.IsFileName name := h name (by simp)
    rw [Path.below_concat hrest hname, target_join disk _ hname, ih hrest]
    simp

/-- No file can be read at a path with no names below another one. -/
theorem read_below_nil (disk : Disk) (root : Path) (content : Content) :
    disk.read (root.below []) ≠ .ok content := by
  intro hread
  obtain ⟨hopen, hslash, -⟩ := read_eq_ok.mp hread
  by_cases hroot : root.text.isEmpty = true
  · have hsame : root.below [] = ⟨""⟩ := Path.join_of_isEmpty hroot _
    have hempty := hopen.sound.nonempty
    rw [hsame] at hempty
    cases hempty
  · rw [Bool.not_eq_true] at hroot
    have hend := Path.endsInSlash_append_separator root
    rw [← Path.text_below_nil hroot] at hend
    rw [hend] at hslash
    cases hslash

/-! ## The last of several files -/

/-- What the last of several files at a place holds. -/
def latest (disk : Disk) (files : List (Path × Content)) (place : Place) : Option Content :=
  files.reverse.findSome? fun file => if disk.target file.1 = place then some file.2 else none

theorem latest_append (disk : Disk) (files more : List (Path × Content)) (place : Place) :
    disk.latest (files ++ more) place = (disk.latest more place).or (disk.latest files place) := by
  rw [latest, List.reverse_append, List.findSome?_append]
  rfl

theorem latest_singleton (disk : Disk) (file : Path × Content) (place : Place) :
    disk.latest [file] place = if disk.target file.1 = place then some file.2 else none := by
  by_cases h : disk.target file.1 = place <;> simp [latest, h]

theorem latest_eq_none {files : List (Path × Content)} {place : Place} :
    disk.latest files place = none ↔ ∀ file ∈ files, disk.target file.1 ≠ place := by
  simp [latest, List.findSome?_eq_none_iff]

theorem exists_of_latest_eq_some {files : List (Path × Content)} {place : Place}
    (h : disk.latest files place = some content) :
    ∃ file ∈ files, disk.target file.1 = place ∧ file.2 = content := by
  obtain ⟨file, hfile, hfound⟩ := List.exists_of_findSome?_eq_some h
  rw [Option.ite_none_right_eq_some, Option.some.injEq] at hfound
  exact ⟨file, List.mem_reverse.mp hfile, hfound⟩

/-- Of lists put together, one alone counts at a place if the others have nothing there. -/
theorem latest_flatMap {α : Type} {items : List α} {files : α → List (Path × Content)} {item : α}
    {place : Place} (hitem : item ∈ items)
    (hothers : ∀ other ∈ items, other ≠ item → disk.latest (files other) place = none) :
    disk.latest (items.flatMap files) place = disk.latest (files item) place := by
  induction items with
  | nil => cases hitem
  | cons first rest ih =>
    rw [List.forall_mem_cons] at hothers
    rw [List.flatMap_cons, latest_append]
    by_cases hrest : item ∈ rest
    · rw [ih hrest hothers.2]
      by_cases hfirst : first = item
      · rw [hfirst, Option.or_self]
      · rw [hothers.1 hfirst, Option.or_none]
    · have hfirst : item = first := (List.mem_cons.mp hitem).resolve_right hrest
      have hnone : disk.latest (rest.flatMap files) place = none := by
        refine latest_eq_none.mpr fun file hfile => ?_
        obtain ⟨other, hother, hmem⟩ := List.mem_flatMap.mp hfile
        have hne : other ≠ item := fun heq => hrest (heq ▸ hother)
        exact latest_eq_none.mp (hothers.2 other hother hne) file hmem
      rw [hnone, Option.none_or, hfirst]

theorem latest_congr {other : Disk} (h : other.home = disk.home) (files : List (Path × Content))
    (place : Place) : other.latest files place = disk.latest files place := by
  rw [latest, latest]
  simp only [target_congr h]

/-! ## Putting files -/

/-- Files are put on a disk one after another. Nothing but directories is new besides. -/
structure Puts (files : List (Path × Content)) (before after : Disk) : Prop where
  grows : ∃ written, Grows written before after
  content : ∀ place, after.tree.content? place =
    (before.latest files place).or (before.tree.content? place)
  readable : ∀ file ∈ files, ∃ content, after.read file.1 = .ok content

namespace Puts

variable {files more : List (Path × Content)} {place : Place}

theorem home (h : Puts files before after) : after.home = before.home := by
  obtain ⟨_, hgrows⟩ := h.grows
  exact hgrows.home

/-- Where nothing is written, no file is put. -/
theorem of_grows (h : Grows [] before after) : Puts [] before after := by
  refine ⟨⟨[], h⟩, fun place => ?_, nofun⟩
  rw [Tree.content?_congr (h.file_iff_of_notMem List.not_mem_nil)]
  rfl

theorem refl (disk : Disk) : Puts [] disk disk :=
  of_grows (.refl [] disk)

/-- Files are put, and then more of them. -/
theorem trans (h : Puts files before middle) (hmore : Puts more middle after) :
    Puts (files ++ more) before after := by
  obtain ⟨written, hgrows⟩ := h.grows
  obtain ⟨writtenMore, hgrowsMore⟩ := hmore.grows
  refine ⟨⟨_, hgrows.trans hgrowsMore⟩, fun place => ?_, fun file hfile => ?_⟩
  · rw [hmore.content, h.content, latest_congr h.home, latest_append, Option.or_assoc]
  · rcases List.mem_append.mp hfile with hfile | hfile
    · obtain ⟨_, hread⟩ := h.readable file hfile
      exact hgrowsMore.read hread
    · exact hmore.readable file hfile

/-- A place at which no file is put is left as it was. -/
theorem content_of_notMem (h : Puts files before after)
    (hplace : ∀ file ∈ files, before.target file.1 ≠ place) :
    after.tree.content? place = before.tree.content? place := by
  rw [h.content, latest_eq_none.mpr hplace, Option.none_or]

/-- A file that was put holds what the last file that was put at its place holds. -/
theorem read (h : Puts files before after) (hmem : path ∈ files.map Prod.fst)
    (hlatest : before.latest files (before.target path) = some content) :
    after.read path = .ok content := by
  obtain ⟨file, hfile, rfl⟩ := List.mem_map.mp hmem
  obtain ⟨other, hread⟩ := h.readable file hfile
  obtain ⟨hopen, hslash, hnode⟩ := read_eq_ok.mp hread
  have hcontent := h.content (after.target file.1)
  rw [Tree.content?_eq_some.mpr hnode, target_congr h.home, hlatest, Option.some_or,
    Option.some.injEq] at hcontent
  rw [hread, hcontent]

end Puts

/-! ## One file -/

theorem content?_insert (h : disk.tree.node? (disk.target path) ≠ some .directory)
    (content : Content) (place : Place) :
    (disk.insert (disk.target path) (.file content)).tree.content? place =
      if place = disk.target path then some content else disk.tree.content? place := by
  unfold Tree.content?
  rw [node?_insert h]
  by_cases heq : place = disk.target path
  · rw [if_pos heq, if_pos heq]
  · rw [if_neg heq, if_neg heq]

/-- A file that is written can be read. -/
theorem puts_write (h : disk.write path content = .ok after) :
    Puts [(path, content)] disk after := by
  have hgrows := grows_write h
  obtain ⟨hopen, hslash, hnot, rfl⟩ := write_eq_ok.mp h
  refine ⟨⟨_, hgrows⟩, fun place => ?_, fun file hfile => ?_⟩
  · rw [content?_insert hnot, latest_singleton]
    by_cases heq : place = disk.target path
    · rw [if_pos heq, if_pos heq.symm, Option.some_or]
    · rw [if_neg heq, if_neg (Ne.symm heq), Option.none_or]
  · rw [List.mem_singleton.mp hfile]
    refine ⟨content, read_eq_ok.mpr ⟨hgrows.isOpen hopen, hslash, ?_⟩⟩
    rw [target_congr hgrows.home, node?_insert hnot, if_pos rfl]

theorem puts_save (h : disk.save path content = (after, .ok ())) :
    Puts [(path, content)] disk after := by
  obtain ⟨middle, hparents, hwrite⟩ := save_eq_ok.mp h
  have hgrows := grows_makeParents disk path
  rw [hparents] at hgrows
  exact (Puts.of_grows hgrows).trans (puts_write hwrite)

/-- A file is copied to another place with what it holds. -/
theorem puts_copy (h : disk.copy source path = .ok after)
    (hcontent : disk.tree.content? (disk.target source) = some content)
    (hne : disk.target source ≠ disk.target path) : Puts [(path, content)] disk after := by
  obtain ⟨first, emptied, found, -, hempty, hread, hwrite⟩ := copy_eq_ok.mp h
  have hemptied := puts_write hempty
  -- emptying the target leaves the source as it was
  have hfound : found = content := by
    obtain ⟨-, -, hnode⟩ := read_eq_ok.mp hread
    have hsame : emptied.tree.content? (disk.target source) =
        disk.tree.content? (disk.target source) := by
      refine hemptied.content_of_notMem fun file hfile => ?_
      rw [List.mem_singleton.mp hfile]
      exact Ne.symm hne
    rw [hcontent] at hsame
    rw [target_congr hemptied.home, Tree.content?_eq_some.mp hsame] at hnode
    cases hnode
    rfl
  subst hfound
  have hboth := hemptied.trans (puts_write hwrite)
  refine ⟨hboth.grows, fun place => ?_, fun file hfile => ?_⟩
  · rw [hboth.content, latest_append, latest_singleton, latest_singleton]
    by_cases heq : disk.target path = place <;> simp [heq]
  · exact hboth.readable file (List.mem_append_right _ hfile)

end Disk

end Files

end SchemaBundle
