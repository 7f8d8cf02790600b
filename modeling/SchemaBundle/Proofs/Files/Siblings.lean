import Mathlib.Data.List.Nodup
import SchemaBundle.Proofs.Files.Saving

/-!
# Files in one directory

Names that are put after one path have one parent and one way to them. Saving one of these files
after another makes the directory first, as far as it can be made; what then can be saved does not
depend on the order.

* `Path.exists_parent_of_join`: the parent that paths in one directory share
* `Disk.target_join`: where a name in a directory leads
* `Disk.save_of_stage`: saving one more file
-/

namespace SchemaBundle

/-! ## Names in a directory -/

/-- A text that names one file in a directory. -/
structure Path.IsFileName (name : String) : Prop where
  noSlash : '/' ∉ name.toList
  nonempty : name ≠ ""
  notDot : name ≠ "."
  notUp : name ≠ ".."

namespace Path

/-- At a slash a text is split into what is before and after it. -/
theorem splitSlashes_append_slash (text more : List Char) :
    splitSlashes (text ++ '/' :: more) = splitSlashes text ++ splitSlashes more := by
  induction text with
  | nil => exact splitSlashes_slash more
  | cons c rest ih =>
    rw [List.cons_append, splitSlashes, ih, splitSlashes]
    split
    · rfl
    · have hne := splitSlashes_ne_nil rest
      cases hparts : splitSlashes rest with
      | nil => exact absurd hparts hne
      | cons part parts => rfl

/-- What comes after a slash does not change how a path starts, if something is before the
slash. -/
theorem start_append_slash {text : List Char} (hne : text ≠ []) (more : List Char) :
    start (text ++ '/' :: more) = ((start text).1, (start text).2 ++ '/' :: more) := by
  rcases start_cases text with ⟨rest, rfl, h⟩ | ⟨rfl, _⟩ | ⟨rest, rfl, _⟩ | ⟨hslash, h⟩
  · rw [h]
    rfl
  · rfl
  · rfl
  · rw [h]
    obtain ⟨c, rest, rfl⟩ := List.exists_cons_of_ne_nil hne
    rcases start_cases (c :: rest ++ '/' :: more) with ⟨other, hother, _⟩ | ⟨hother, _⟩ |
      ⟨other, hother, _⟩ | ⟨_, hstart⟩
    · rw [List.cons_append, List.cons.injEq] at hother
      simp [hother.1] at hslash
    · simp at hother
    · -- a dot with a slash after it would be the start of both
      rw [List.cons_append, List.cons.injEq] at hother
      obtain ⟨rfl, hother⟩ := hother
      cases rest with
      | nil => cases h
      | cons d others =>
        rw [List.cons_append, List.cons.injEq] at hother
        obtain ⟨rfl, _⟩ := hother
        cases h
    · exact hstart

/-- A name is a relative path. -/
theorem isAbsolute_of_notMem {name : String} (h : '/' ∉ name.toList) :
    (Path.mk name).isAbsolute = false := by
  rw [isAbsolute, beq_eq_false_iff_ne]
  exact fun hhead => h (List.mem_of_head? hhead)

/-- The text of a name in a directory is the name after a text that is empty or ends in a slash. -/
theorem exists_text_of_join (directory : Path) : ∃ before : List Char,
    (before = [] ∨ ∃ text, before = text ++ ['/']) ∧ ∀ name : String, '/' ∉ name.toList →
      (directory.join ⟨name⟩).text.toList = before ++ name.toList := by
  by_cases hempty : directory.text.isEmpty = true
  · refine ⟨[], Or.inl rfl, fun name _ => ?_⟩
    rw [join, if_pos (Or.inr hempty), List.nil_append]
  · by_cases hslash : directory.endsInSlash = true
    · obtain ⟨text, htext⟩ := List.getLast?_eq_some_iff.mp (beq_iff_eq.mp hslash)
      refine ⟨directory.text.toList, Or.inr ⟨text, htext⟩, fun name hname => ?_⟩
      rw [join, if_neg (by simp [isAbsolute_of_notMem hname, hempty]), if_pos hslash,
        String.toList_append]
    · refine ⟨directory.text.toList ++ ['/'], Or.inr ⟨_, rfl⟩, fun name hname => ?_⟩
      rw [join, if_neg (by simp [isAbsolute_of_notMem hname, hempty]), if_neg hslash,
        String.toList_append, String.toList_append]
      rfl

/-- A name in a directory starts where the directory does. -/
theorem isAbsolute_join (directory : Path) {name : String} (h : IsFileName name) :
    (directory.join ⟨name⟩).isAbsolute = directory.isAbsolute := by
  have hrelative := isAbsolute_of_notMem h.noSlash
  by_cases hempty : directory.text.isEmpty = true
  · have htext : directory.text = "" := String.isEmpty_iff.mp hempty
    rw [join, if_pos (Or.inr hempty), hrelative, isAbsolute, htext]
    rfl
  · have hchars : directory.text.toList ≠ [] := by
      intro hnil
      exact hempty (String.isEmpty_iff.mpr (String.toList_injective hnil))
    have hhead (more : List Char) :
        (directory.text.toList ++ more).head? = directory.text.toList.head? :=
      List.head?_append_of_ne_nil _ hchars
    rw [join, if_neg (by simp [hrelative, hempty])]
    split
    · rw [isAbsolute, isAbsolute, String.toList_append, hhead]
    · rw [isAbsolute, isAbsolute, String.toList_append, String.toList_append, List.append_assoc,
        hhead]

/-- A name in a directory comes after the names of the directory. -/
theorem names_join (directory : Path) {name : String} (h : IsFileName name) :
    (directory.join ⟨name⟩).names = directory.names ++ [name] := by
  have hchars : name.toList ≠ [] := fun hnil => h.nonempty (String.toList_injective hnil)
  have hname : namesOfParts [name.toList] = [name] := by simp [namesOfParts, hchars]
  have hrelative := isAbsolute_of_notMem h.noSlash
  by_cases hempty : directory.text.isEmpty = true
  · have htext : directory.text = "" := String.isEmpty_iff.mp hempty
    rw [join, if_pos (Or.inr hempty), names_eq, names_eq, htext, splitSlashes_of_notMem h.noSlash,
      hname]
    rfl
  · by_cases hend : directory.endsInSlash = true
    · obtain ⟨text, htext⟩ := List.getLast?_eq_some_iff.mp (beq_iff_eq.mp hend)
      rw [join, if_neg (by simp [hrelative, hempty]), if_pos hend, names_eq, names_eq,
        String.toList_append, htext, List.append_assoc, List.singleton_append,
        splitSlashes_append_slash, splitSlashes_append_slash, splitSlashes_of_notMem h.noSlash,
        namesOfParts_append, namesOfParts_append, hname]
      simp [splitSlashes, namesOfParts]
    · rw [join, if_neg (by simp [hrelative, hempty]), if_neg hend, names_eq, names_eq,
        String.toList_append, String.toList_append, List.append_assoc]
      show namesOfParts (splitSlashes (directory.text.toList ++ '/' :: name.toList)) = _
      rw [splitSlashes_append_slash, splitSlashes_of_notMem h.noSlash, namesOfParts_append, hname]

/-- Names in one directory have one start, and one text is split before them. -/
theorem exists_start_of_join (directory : Path) :
    ∃ (first : List Char) (parts : List (List Char)), ∀ name : String, IsFileName name →
      (start (directory.join ⟨name⟩).text.toList).1 = first ∧
        splitSlashes (start (directory.join ⟨name⟩).text.toList).2 = parts ++ [name.toList] := by
  obtain ⟨before, hbefore, htext⟩ := exists_text_of_join directory
  rcases hbefore with rfl | ⟨text, rfl⟩
  · refine ⟨[], [], fun name h => ?_⟩
    have hname := h.noSlash
    rw [htext name hname, List.nil_append]
    rcases start_cases name.toList with ⟨rest, hrest, _⟩ | ⟨hrest, _⟩ | ⟨rest, hrest, _⟩ |
      ⟨_, hstart⟩
    · rw [hrest] at hname
      exact absurd List.mem_cons_self hname
    · exact absurd (String.toList_injective hrest) h.notDot
    · rw [hrest] at hname
      exact absurd (List.mem_cons_of_mem _ List.mem_cons_self) hname
    · rw [hstart]
      exact ⟨rfl, splitSlashes_of_notMem hname⟩
  · cases text with
    | nil =>
      refine ⟨['/'], [], fun name h => ?_⟩
      rw [htext name h.noSlash]
      exact ⟨rfl, splitSlashes_of_notMem h.noSlash⟩
    | cons c rest =>
      refine ⟨(start (c :: rest)).1, splitSlashes (start (c :: rest)).2, fun name h => ?_⟩
      rw [htext name h.noSlash, List.append_assoc, List.singleton_append,
        start_append_slash (List.cons_ne_nil c rest), splitSlashes_append_slash,
        splitSlashes_of_notMem h.noSlash]
      exact ⟨rfl, rfl⟩

/-- Names in one directory have one parent. -/
theorem exists_parent_of_join (directory : Path) : ∃ parent : Path, ∀ name : String,
    IsFileName name → (directory.join ⟨name⟩).parent? = some parent := by
  obtain ⟨first, parts, h⟩ := exists_start_of_join directory
  refine ⟨⟨String.ofList (first ++ joinSlashes (dropIdle parts))⟩, fun name hname => ?_⟩
  obtain ⟨hstart, hsplit⟩ := h name hname
  have hidle : isIdle name.toList = false := by
    rw [isIdle, Bool.or_eq_false_iff, beq_eq_false_iff_ne, beq_eq_false_iff_ne]
    exact ⟨fun hnil => hname.nonempty (String.toList_injective hnil),
      fun heq => hname.notDot (String.toList_injective heq)⟩
  have hdrop : dropIdle (parts ++ [name.toList]) = parts ++ [name.toList] := by
    rw [dropIdle, List.reverse_append, List.reverse_singleton, List.singleton_append,
      List.dropWhile_cons_of_neg (by simp [hidle]), List.reverse_cons, List.reverse_reverse]
  unfold parent?
  simp only [hstart, hsplit, hdrop]
  split
  · next hnil => simp at hnil
  · rw [List.dropLast_concat]

end Path

namespace Files

/-! ## What a file is written on -/

/-- When names are followed, only the places on the way and the one that they lead to are looked
at. -/
theorem Tree.trail_subset (tree : Tree) (place : Place) (names : List String) :
    tree.trail place names ⊆ place.spine names ++ [place.walk names] := by
  induction names generalizing place with
  | nil => exact List.Subset.refl _
  | cons name rest ih =>
    rw [trail, Place.spine, List.cons_append]
    split
    · exact List.cons_subset_cons _ (ih _)
    · exact List.cons_subset_cons _ (List.nil_subset _)

namespace Disk

variable {disk other : Disk} {path parent : Path}

theorem trail_subset_route (disk : Disk) (path : Path) : disk.trail path ⊆ disk.route path :=
  Tree.trail_subset _ _ _

theorem makeDirectories_eq {answer : Except FileError Unit}
    (h : (disk.makeDirectories path).2 = answer) :
    disk.makeDirectories path = ((disk.makeDirectories path).1, answer) :=
  Prod.ext rfl h

/-- What becomes of a file when its parent is made first. -/
theorem save_of_parent (hparent : path.parent? = some parent) (content : Content) :
    disk.save path content =
      match disk.makeDirectories parent with
      | (made, .error error) => (made, .error (.directory parent error))
      | (made, .ok ()) =>
        match made.write path content with
        | .ok after => (after, .ok ())
        | .error error => (made, .error (.file path error)) := by
  unfold save makeParents
  simp only [hparent]
  rcases disk.makeDirectories parent with ⟨made, error | _⟩ <;> rfl

/-- Whether or not a file can be saved, its parent is made as far as it can be. -/
theorem directory_of_save (hparent : path.parent? = some parent) (content : Content)
    {place : Place} (h : (disk.makeDirectories parent).1.tree.node? place = some .directory) :
    (disk.save path content).1.tree.node? place = some .directory := by
  rw [save_of_parent hparent]
  rcases hmade : disk.makeDirectories parent with ⟨made, error | _⟩
  · rw [hmade] at h
    exact h
  · rw [hmade] at h
    cases hwrite : made.write path content with
    | error error =>
      simp only [hwrite]
      exact h
    | ok after =>
      simp only [hwrite]
      exact (grows_write hwrite).directory h

/-- The way of a name in a directory is that of the directory, and then the directory itself. -/
theorem spine_join (disk : Disk) (directory : Path) {name : String} (h : Path.IsFileName name) :
    disk.spine (directory.join ⟨name⟩) = disk.spine directory ++ [disk.target directory] := by
  rw [spine, start, Path.isAbsolute_join directory h, Path.names_join directory h,
    Place.spine_append]
  rfl

/-- A name in a directory leads one step further than the directory. -/
theorem target_join (disk : Disk) (directory : Path) {name : String} (h : Path.IsFileName name) :
    disk.target (directory.join ⟨name⟩) = name :: disk.target directory := by
  rw [target, start, Path.isAbsolute_join directory h, Path.names_join directory h,
    Place.walk_append]
  simp only [Place.walk, List.foldl_cons, List.foldl_nil, Place.descend, if_neg h.notDot,
    if_neg h.notUp, target, start]

/-- Different names in a directory lead to different places. -/
theorem nodup_map_target_join (disk : Disk) (directory : Path) {names : List String}
    (h : ∀ name ∈ names, Path.IsFileName name) :
    (names.map fun name => disk.target (directory.join ⟨name⟩)).Nodup ↔ names.Nodup := by
  have htargets : (names.map fun name => disk.target (directory.join ⟨name⟩)) =
      names.map (· :: disk.target directory) :=
    List.map_congr_left fun name hname => target_join disk directory (h name hname)
  rw [htargets, List.nodup_map_iff fun _ _ heq => (List.cons.inj heq).1]

/-! ## Saving files one after another -/

/-- The answer when a file is saved. -/
def answer (disk : Disk) (file : Path × String) : Except SaveError Unit :=
  (disk.save file.1 (.text file.2)).2

/-- Answers that differ at most in why one directory could not be made. -/
inductive SameAnswer : Except SaveError Unit → Except SaveError Unit → Prop where
  | refl (answer : Except SaveError Unit) : SameAnswer answer answer
  | directory (path : Path) (first second : FileError) :
    SameAnswer (.error (.directory path first)) (.error (.directory path second))

/-- Files in one directory, to all of which one way leads. -/
structure Siblings (disk : Disk) (parent : Path) (spine : List Place)
    (files : List (Path × String)) : Prop where
  parent : ∀ file ∈ files, file.1.parent? = some parent
  spine : ∀ file ∈ files, disk.spine file.1 = spine

/-- What a disk has become when some files in one directory have been tried to save: the directory
is made as far as it can be, and the files are there that can be saved. -/
structure Tried (parent : Path) (files : List (Path × String)) (disk other : Disk) : Prop where
  home : other.home = disk.home
  saved : ∀ file ∈ files, disk.answer file = .ok () →
    other.tree.node? (disk.target file.1) = some (.file (.text file.2))
  unsaved : ∀ place, (∀ file ∈ files, disk.answer file = .ok () → place ≠ disk.target file.1) →
    other.tree.node? place = (disk.makeDirectories parent).1.tree.node? place
  unmade : ∀ error, (disk.makeDirectories parent).2 = .error error →
    other = (disk.makeDirectories parent).1

/-- A disk is as it was, as long as no file has been tried to save. -/
structure Stage (parent : Path) (files : List (Path × String)) (disk other : Disk) : Prop where
  first : files = [] → other = disk
  later : files ≠ [] → Tried parent files disk other

variable {spine : List Place} {files : List (Path × String)} {file : Path × String}

theorem answer_eq_ok (hparent : file.1.parent? = some parent) : disk.answer file = .ok () ↔
    (disk.makeDirectories parent).2 = .ok () ∧
      ∃ after, (disk.makeDirectories parent).1.write file.1 (.text file.2) = .ok after := by
  rw [answer, save_of_parent hparent]
  rcases disk.makeDirectories parent with ⟨made, error | _⟩
  · simp
  · cases hwrite : made.write file.1 (.text file.2) <;> simp [hwrite]

/-- A file that can be saved is in the directory that has been made, and is none itself. -/
theorem open_of_answer_eq_ok (hparent : file.1.parent? = some parent)
    (h : disk.answer file = .ok ()) :
    (∀ place ∈ disk.spine file.1,
        (disk.makeDirectories parent).1.tree.node? place = some .directory) ∧
      (disk.makeDirectories parent).1.tree.node? (disk.target file.1) ≠ some .directory := by
  obtain ⟨_, after, hwrite⟩ := (answer_eq_ok hparent).mp h
  obtain ⟨hopen, _, hnot, _⟩ := write_eq_ok.mp hwrite
  have hhome := (grows_makeDirectories disk parent).home
  rw [target_congr hhome] at hnot
  refine ⟨fun place hplace => hopen.spine place ?_, hnot⟩
  rwa [spine_congr hhome]

namespace Tried

/-- It does not matter in which order the files have been tried. -/
theorem congr {more : List (Path × String)} (h : Tried parent files disk other)
    (hmem : ∀ file, file ∈ more ↔ file ∈ files) : Tried parent more disk other := by
  refine ⟨h.home, fun file hfile => h.saved file ((hmem file).mp hfile), fun place hplace => ?_,
    h.unmade⟩
  exact h.unsaved place fun file hfile => hplace file ((hmem file).mpr hfile)

/-- The directories that have been made are not replaced by files. -/
theorem directory (h : Tried parent files disk other) (hsiblings : Siblings disk parent spine files)
    {place : Place}
    (hplace : (disk.makeDirectories parent).1.tree.node? place = some .directory) :
    other.tree.node? place = some .directory := by
  rw [h.unsaved place, hplace]
  rintro file hfile hanswer rfl
  exact (open_of_answer_eq_ok (hsiblings.parent file hfile) hanswer).2 hplace

/-- A directory that has been made is not made again. -/
theorem makeDirectories_of_ok (h : Tried parent files disk other)
    (hsiblings : Siblings disk parent spine files)
    (hmade : (disk.makeDirectories parent).2 = .ok ()) :
    other.makeDirectories parent = (other, .ok ()) := by
  have hmaking : Making disk parent _ _ := makeDirectories_iff.mp (makeDirectories_eq hmade)
  rw [makeDirectories_iff]
  cases hempty : parent.text.isEmpty with
  | true => exact .empty hempty
  | false =>
    obtain ⟨hsound, hmakes⟩ := hmaking.makes hempty
    have hdirectory := hmakes.hasDirectory hsound
    have hhome : other.home = (disk.makeDirectories parent).1.home :=
      h.home.trans hmakes.home.symm
    refine .of_hasDirectory ⟨⟨hsound, fun place hplace => ?_⟩, ?_⟩
    · rw [spine_congr hhome] at hplace
      exact h.directory hsiblings (hdirectory.spine place hplace)
    · rw [target_congr hhome]
      exact h.directory hsiblings hdirectory.directory

/-- For one more file it is looked only at places that are as they were when the directory had been
made. -/
theorem agreeOn (h : Tried parent files disk other)
    (hsiblings : Siblings disk parent spine (file :: files))
    (hnew : ∀ before ∈ files, disk.target file.1 ≠ disk.target before.1) :
    AgreeOn ((disk.makeDirectories parent).1.trail file.1) (disk.makeDirectories parent).1
      other := by
  have hhome := (grows_makeDirectories disk parent).home
  refine ⟨h.home.trans hhome.symm, fun place hplace =>
    h.unsaved place fun before hbefore hanswer => ?_⟩
  have hroute := trail_subset_route _ _ hplace
  rw [route_congr hhome, route] at hroute
  rcases List.mem_append.mp hroute with hspine | htarget
  · -- the way is the same for the file before, so its places are directories
    have hin := List.mem_cons_of_mem file hbefore
    obtain ⟨hopen, hnot⟩ := open_of_answer_eq_ok (hsiblings.parent before hin) hanswer
    rw [hsiblings.spine file List.mem_cons_self] at hspine
    rw [hsiblings.spine before hin] at hopen
    rintro rfl
    exact hnot (hopen _ hspine)
  · rw [List.mem_singleton.mp htarget]
    exact hnew before hbefore

/-- A file that cannot be saved leaves everything as it is. -/
theorem cons_of_error {error : SaveError} (h : Tried parent files disk other)
    (hanswer : disk.answer file = .error error) : Tried parent (file :: files) disk other := by
  have hnot : disk.answer file ≠ .ok () := by
    rw [hanswer]
    exact nofun
  refine ⟨h.home, fun before hbefore hok => ?_, fun place hplace => ?_, h.unmade⟩
  · rcases List.mem_cons.mp hbefore with rfl | hbefore
    · exact absurd hok hnot
    · exact h.saved before hbefore hok
  · exact h.unsaved place fun before hbefore => hplace before (List.mem_cons_of_mem _ hbefore)

/-- A file that can be saved is there, and all other places are left as they are. -/
theorem cons_of_ok (h : Tried parent files disk other) (hanswer : disk.answer file = .ok ())
    (hmade : (disk.makeDirectories parent).2 = .ok ())
    (hnot : other.tree.node? (disk.target file.1) ≠ some .directory)
    (hnew : ∀ before ∈ files, disk.target file.1 ≠ disk.target before.1) :
    Tried parent (file :: files) disk
      (other.insert (disk.target file.1) (.file (.text file.2))) := by
  have hnode := node?_insert hnot (.file (.text file.2))
  refine ⟨h.home, fun before hbefore hok => ?_, fun place hplace => ?_, fun error herror => ?_⟩
  · rw [hnode]
    rcases List.mem_cons.mp hbefore with rfl | hbefore
    · exact if_pos rfl
    · rw [if_neg (Ne.symm (hnew before hbefore))]
      exact h.saved before hbefore hok
  · rw [hnode, if_neg (hplace file List.mem_cons_self hanswer)]
    exact h.unsaved place fun before hbefore => hplace before (List.mem_cons_of_mem _ hbefore)
  · rw [hmade] at herror
    cases herror

end Tried

theorem tried_of_stage (h : Stage parent files disk other)
    (hsiblings : Siblings disk parent spine files)
    (hmade : (disk.makeDirectories parent).2 = .ok ()) :
    ∃ made, other.makeDirectories parent = (made, .ok ()) ∧ Tried parent files disk made := by
  by_cases hfirst : files = []
  · rw [h.first hfirst, hfirst]
    refine ⟨(disk.makeDirectories parent).1, makeDirectories_eq hmade,
      (grows_makeDirectories disk parent).home, by simp, fun _ _ => rfl, fun _ _ => rfl⟩
  · exact ⟨other, (h.later hfirst).makeDirectories_of_ok hsiblings hmade, h.later hfirst⟩

/-- What has become of a disk is said by the files that have been tried. -/
theorem Stage.unique {last : Disk} (h : Stage parent files disk other)
    (hlast : Stage parent files disk last) :
    other.home = last.home ∧ ∀ place, other.tree.node? place = last.tree.node? place := by
  by_cases hfirst : files = []
  · rw [h.first hfirst, hlast.first hfirst]
    exact ⟨rfl, fun _ => rfl⟩
  · have htried := h.later hfirst
    have htried' := hlast.later hfirst
    refine ⟨htried.home.trans htried'.home.symm, fun place => ?_⟩
    by_cases hsaved : ∃ file ∈ files, disk.answer file = .ok () ∧ place = disk.target file.1
    · obtain ⟨file, hfile, hanswer, rfl⟩ := hsaved
      rw [htried.saved file hfile hanswer, htried'.saved file hfile hanswer]
    · have hnot : ∀ file ∈ files, disk.answer file = .ok () → place ≠ disk.target file.1 :=
        fun file hfile hanswer heq => hsaved ⟨file, hfile, hanswer, heq⟩
      rw [htried.unsaved place hnot, htried'.unsaved place hnot]

/-- What could not be made is not made later either. -/
theorem makeDirectories_of_stage {error : FileError} (h : Stage parent files disk other)
    (hmade : (disk.makeDirectories parent).2 = .error error) :
    ∃ again, other.makeDirectories parent = ((disk.makeDirectories parent).1, .error again) := by
  by_cases hfirst : files = []
  · rw [h.first hfirst]
    exact ⟨error, makeDirectories_eq hmade⟩
  · rw [(h.later hfirst).unmade error hmade]
    obtain ⟨again, hagain⟩ := (makeDirectories_iff.mp (makeDirectories_eq hmade)).again_of_error
    exact ⟨again, makeDirectories_iff.mpr hagain⟩

/-- One more file is saved with the answer that it would have had at first, except for the reason
why the directory cannot be made. -/
theorem save_of_stage (h : Stage parent files disk other)
    (hsiblings : Siblings disk parent spine (file :: files))
    (hnew : ∀ before ∈ files, disk.target file.1 ≠ disk.target before.1) :
    SameAnswer (other.answer file) (disk.answer file) ∧
      Tried parent (file :: files) disk (other.save file.1 (.text file.2)).1 := by
  have hparent := hsiblings.parent file List.mem_cons_self
  have hfiles : Siblings disk parent spine files :=
    ⟨fun before hbefore => hsiblings.parent before (List.mem_cons_of_mem _ hbefore),
      fun before hbefore => hsiblings.spine before (List.mem_cons_of_mem _ hbefore)⟩
  cases hmade : (disk.makeDirectories parent).2 with
  | error error =>
    obtain ⟨again, hagain⟩ := makeDirectories_of_stage h hmade
    have hanswer {before : Path × String} (hbefore : before ∈ file :: files) :
        disk.answer before ≠ .ok () := by
      rw [Ne, answer_eq_ok (hsiblings.parent before hbefore), hmade]
      exact fun hok => nomatch hok.1
    have hfirst : disk.answer file = .error (.directory parent error) := by
      rw [answer, save_of_parent hparent, makeDirectories_eq hmade]
    rw [hfirst, answer, save_of_parent hparent, hagain]
    exact ⟨.directory parent again error, (grows_makeDirectories disk parent).home,
      fun before hbefore hok => absurd hok (hanswer hbefore), fun _ _ => rfl, fun _ _ => rfl⟩
  | ok _ =>
    obtain ⟨made, hagain, htried⟩ := tried_of_stage h hfiles hmade
    have hwrite := write_congr (htried.agreeOn hsiblings hnew) (.text file.2)
    rw [target_congr (grows_makeDirectories disk parent).home] at hwrite
    rw [answer, save_of_parent hparent, hagain]
    cases hfirst : (disk.makeDirectories parent).1.write file.1 (.text file.2) with
    | error error =>
      have hanswer : disk.answer file = .error (.file file.1 error) := by
        rw [answer, save_of_parent hparent, makeDirectories_eq hmade]
        simp only [hfirst]
      rw [hfirst] at hwrite
      rw [hanswer]
      simp only [hwrite, Except.map]
      exact ⟨.refl _, htried.cons_of_error hanswer⟩
    | ok after =>
      have hanswer : disk.answer file = .ok () := (answer_eq_ok hparent).mpr ⟨hmade, after, hfirst⟩
      rw [hfirst] at hwrite
      rw [hanswer]
      simp only [hwrite, Except.map]
      refine ⟨.refl _, htried.cons_of_ok hanswer hmade ?_ hnew⟩
      -- there is no directory where the file goes
      obtain ⟨_, _, hnot, _⟩ := write_eq_ok.mp hwrite
      rwa [target_congr htried.home] at hnot

end Disk

end Files

end SchemaBundle
