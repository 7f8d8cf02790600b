import SchemaBundle.Proofs.Files.Putting

/-!
# Copies of trees

A tree that is copied successfully is copied as a whole: every file in it is put under its names
below the target, in the order in which the tree is walked, and nothing else is put anywhere. The
tree must be apart from the target, or what was copied would be copied again. While it is copied,
only directories can be new in it, and the files are those it had at first.

* `Task.run_bind_eq_ok`: tasks that succeed one after another
* `CopiesWithin.all`, `run_copyTree_eq_ok`: what is put where a tree is copied
-/

namespace SchemaBundle

open Files (Content Disk Found Place)

/-! ## Tasks that succeed -/

namespace Task

variable {α β : Type} {disk after : Disk} {path source target : Path}

theorem run_pure_eq_ok {a b : α} : (pure a : Task α).run.run disk = (after, .ok b) ↔
    after = disk ∧ b = a := by
  have hrun : (pure a : Task α).run.run disk = (disk, .ok a) := rfl
  rw [hrun, Prod.mk.injEq, Except.ok.injEq]
  exact and_congr eq_comm eq_comm

/-- Tasks one after another succeed if each of them does. -/
theorem run_bind_eq_ok {task : Task α} {next : α → Task β} {b : β} :
    (task >>= next).run.run disk = (after, .ok b) ↔
      ∃ middle a, task.run.run disk = (middle, .ok a) ∧
        (next a).run.run middle = (after, .ok b) := by
  have hrun : (task >>= next).run.run disk =
      (ExceptT.bindCont next (task.run.run disk).2).run (task.run.run disk).1 :=
    Files.Script.run_bind _ _ disk
  rw [hrun]
  rcases task.run.run disk with ⟨middle, failure | a⟩
  · refine iff_of_false (fun h => ?_) fun ⟨_, _, h, _⟩ => ?_
    · cases (Prod.mk.inj h).2
    · cases (Prod.mk.inj h).2
  · constructor
    · intro h
      exact ⟨middle, a, rfl, h⟩
    · rintro ⟨_, _, h, hnext⟩
      cases h
      exact hnext

theorem run_look_eq_ok {root : Path} {found : Found} :
    (look root path).run.run disk = (after, .ok found) ↔
      after = disk ∧ disk.look path = .ok found := by
  have hrun : (look root path).run.run disk =
      (disk, (disk.look path).mapError (Failure.unwalkedTree root path)) := rfl
  rw [hrun, Prod.mk.injEq]
  cases disk.look path <;> simp [Except.mapError, eq_comm]

theorem run_makeDirectories_eq_ok :
    (makeDirectories path).run.run disk = (after, .ok ()) ↔
      disk.makeDirectories path = (after, .ok ()) := by
  have hrun : (makeDirectories path).run.run disk = ((disk.makeDirectories path).1,
      (disk.makeDirectories path).2.mapError (Failure.unmadeDirectory path)) := rfl
  rw [hrun]
  rcases disk.makeDirectories path with ⟨made, error | _⟩ <;> simp [Except.mapError]

theorem run_copy_eq_ok : (copy source target).run.run disk = (after, .ok ()) ↔
    disk.copy source target = .ok after := by
  have hrun : (copy source target).run.run disk =
      ((Files.Script.settle disk (disk.copy source target)).1,
        (Files.Script.settle disk (disk.copy source target)).2.mapError
          (Failure.uncopiedFile source target)) := rfl
  rw [hrun]
  cases disk.copy source target <;> simp [Files.Script.settle, Except.mapError]

theorem run_readText_eq_ok {text : String} :
    (readText path).run.run disk = (after, .ok text) ↔
      after = disk ∧ disk.read path = .ok (.text text) := by
  simp only [readText, ExceptT.run, ExceptT.mk, Files.Script.run_bind, Files.readText,
    Files.Script.run, Prod.mk.injEq]
  rcases disk.read path with error | content
  · simp [Except.bind, Except.mapError]
  · cases content <;> simp [Except.bind, Except.mapError, eq_comm]

theorem run_saveText_eq_ok {directory file : Path} {name text : String} :
    (saveText directory name text).run.run disk = (after, .ok file) ↔
      disk.save (directory.join ⟨name⟩) (.text text) = (after, .ok ()) ∧
        file = directory.join ⟨name⟩ := by
  simp only [saveText, ExceptT.run, ExceptT.mk, Files.Script.run]
  rcases disk.save (directory.join ⟨name⟩) (.text text) with ⟨saved, error | _⟩
  · simp [Except.mapError, Except.map]
  · simp [Except.mapError, Except.map, eq_comm]

/-- Whatever a task does, the tree stays well-formed. -/
theorem wellFormed_of_run {task : Task α} {result : Except Failure α}
    (hwf : disk.tree.WellFormed) (h : task.run.run disk = (after, result)) :
    after.tree.WellFormed := by
  have hkept := Files.Script.wellFormed_run task.run hwf
  rwa [h] at hkept

/-- Lists of tasks put together succeed if each of them does. -/
theorem run_concat_cons_eq_ok {task : Task (List α)} {tasks : List (Task (List α))}
    {results : List α} : (concat (task :: tasks)).run.run disk = (after, .ok results) ↔
      ∃ middle first rest, task.run.run disk = (middle, .ok first) ∧
        (concat tasks).run.run middle = (after, .ok rest) ∧ results = first ++ rest := by
  rw [concat, run_bind_eq_ok]
  constructor
  · rintro ⟨middle, first, hfirst, hnext⟩
    obtain ⟨last, rest, hrest, hpure⟩ := run_bind_eq_ok.mp hnext
    obtain ⟨rfl, rfl⟩ := run_pure_eq_ok.mp hpure
    exact ⟨middle, first, rest, hfirst, hrest, rfl⟩
  · rintro ⟨middle, first, rest, hfirst, hrest, rfl⟩
    exact ⟨middle, first, hfirst, run_bind_eq_ok.mpr ⟨after, rest, hrest, rfl⟩⟩

end Task

/-! ## Trees apart from each other -/

/-- Neither of two places is above the other. -/
structure Files.Place.Apart (place other : Place) : Prop where
  notAbove : ¬ place <:+ other
  notBelow : ¬ other <:+ place

instance (place other : Place) : Decidable (Place.Apart place other) :=
  decidable_of_iff (¬ place <:+ other ∧ ¬ other <:+ place)
    ⟨fun h => ⟨h.1, h.2⟩, fun h => ⟨h.1, h.2⟩⟩

namespace Files.Place.Apart

variable {place other lower : Place}

theorem symm (h : Apart place other) : Apart other place :=
  ⟨h.notBelow, h.notAbove⟩

/-- What is below a place is apart from all that the place is apart from. -/
theorem of_suffix (h : Apart place other) (hlower : other <:+ lower) : Apart place lower := by
  constructor
  · intro habove
    rcases List.suffix_or_suffix_of_suffix habove hlower with hsuffix | hsuffix
    · exact h.notAbove hsuffix
    · exact h.notBelow hsuffix
  · intro hbelow
    exact h.notBelow (hlower.trans hbelow)

theorem not_suffix_append (h : Apart place other) (names : List String) :
    ¬ other <:+ names ++ place :=
  (h.symm.of_suffix (List.suffix_append names place)).notAbove

end Files.Place.Apart

/-! ## Copies -/

namespace Files.Disk

variable {disk after : Disk} {place target : Path} {names : List String}

/-- The copies of the files at a place, under the names that lead to it and on from it. -/
def copies (disk : Disk) (place target : Path) (names : List String) : List (Path × Content) :=
  (disk.tree.files (disk.target place)).map fun file => (target.below (names ++ file.1), file.2)

/-- The copies of a file are one copy. -/
theorem copies_of_file (hwf : disk.tree.WellFormed) {content : Content}
    (hfile : disk.tree.content? (disk.target place) = some content) :
    disk.copies place target names = [(target.below names, content)] := by
  rw [copies, Tree.files_of_file hwf hfile, List.map_singleton, List.append_nil]

/-- The copies of a directory are those of each of its names. -/
theorem copies_of_directory (hwf : disk.tree.WellFormed)
    (hdir : disk.tree.node? (disk.target place) = some .directory) :
    disk.copies place target names = (disk.tree.namesIn (disk.target place)).flatMap fun name =>
      disk.copies (place.join ⟨name⟩) target (names ++ [name]) := by
  rw [copies, Tree.files_of_directory hwf hdir, List.map_flatMap]
  refine List.flatMap_congr fun name hname => ?_
  rw [copies, target_join disk place (hwf.isFileName_of_mem_namesIn hname), List.map_map]
  refine List.map_congr_left fun file _ => ?_
  simp

/-- Copies are put below the target. -/
theorem suffix_of_mem_copies (hwf : disk.tree.WellFormed)
    (hnames : ∀ name ∈ names, Path.IsFileName name) {file : Path × Content}
    (hfile : file ∈ disk.copies place target names) :
    disk.target target <:+ disk.target file.1 := by
  obtain ⟨⟨rest, content⟩, hentry, rfl⟩ := List.mem_map.mp hfile
  have hall : ∀ name ∈ names ++ rest, Path.IsFileName name :=
    List.forall_mem_append.mpr ⟨hnames, hwf.isFileName_of_mem_files hentry⟩
  rw [target_below disk target hall]
  exact List.suffix_append _ _

/-- Outside a place, a disk has the files that another one has. -/
structure SameOutside (output : Place) (disk other : Disk) : Prop where
  home : other.home = disk.home
  content : ∀ place, ¬ output <:+ place → other.tree.content? place = disk.tree.content? place

theorem SameOutside.refl (output : Place) (disk : Disk) : SameOutside output disk disk :=
  ⟨rfl, fun _ _ => rfl⟩

theorem SameOutside.copies_eq {output : Place} {other : Disk} (h : SameOutside output disk other)
    (hwf : disk.tree.WellFormed) (hother : other.tree.WellFormed)
    (hapart : Place.Apart (disk.target place) output) :
    other.copies place target names = disk.copies place target names := by
  have hfiles : other.tree.files (disk.target place) = disk.tree.files (disk.target place) :=
    Tree.files_congr hwf.nodup hother.nodup fun rest =>
      h.content _ (hapart.not_suffix_append rest.reverse)
  rw [copies, copies, target_congr h.home, hfiles]

/-- What is put below a place leaves everything outside it as it was. -/
theorem Puts.sameOutside {files : List (Path × Content)} {output : Place} {first middle : Disk}
    (h : Puts files middle after) (hsame : SameOutside output first middle)
    (hfiles : ∀ file ∈ files, output <:+ first.target file.1) :
    SameOutside output first after := by
  refine ⟨h.home.trans hsame.home, fun place hplace => ?_⟩
  rw [← hsame.content place hplace]
  refine h.content_of_notMem fun file hfile heq => ?_
  rw [target_congr hsame.home] at heq
  exact hplace (heq ▸ hfiles file hfile)

end Files.Disk

open Files (longestPath)
open Files.Disk (Puts SameOutside)

variable {root target : Path}

/-- What copying is asked for at a place: names that lead to it, and a tree apart from the target,
with a bound that is not reached by a path that can be followed. -/
structure CopyReady (disk : Disk) (target : Path) (bound : Nat) (place : Path)
    (names : List String) : Prop where
  wellFormed : disk.tree.WellFormed
  names : ∀ name ∈ names, Path.IsFileName name
  apart : Place.Apart (disk.target place) (disk.target target)
  positive : 0 < bound
  bound : place.text.isEmpty = false → longestPath + 2 ≤ bound + place.text.utf8ByteSize

namespace CopyReady

variable {disk other : Disk} {bound : Nat} {place : Path} {names : List String} {name : String}

/-- Every name makes a path longer. -/
theorem lt_utf8ByteSize_join (hplace : place.text.isEmpty = false) (hname : Path.IsFileName name) :
    place.text.utf8ByteSize < (place.join ⟨name⟩).text.utf8ByteSize := by
  have hpos : 0 < name.utf8ByteSize := by
    refine Nat.pos_of_ne_zero fun hzero => hname.nonempty ?_
    exact String.utf8ByteSize_eq_zero_iff.mp hzero
  rw [Path.text_join hplace (Path.isAbsolute_of_notMem hname.noSlash), String.utf8ByteSize_append,
    String.utf8ByteSize_append]
  show place.text.utf8ByteSize < _ + name.utf8ByteSize
  omega

/-- One level further down, on a disk with the same files, everything is as it should be. -/
theorem join (h : CopyReady disk target (bound + 1) place names) (hopen : disk.Open place)
    (hother : other.tree.WellFormed) (hhome : other.home = disk.home)
    (hname : Path.IsFileName name) :
    CopyReady other target bound (place.join ⟨name⟩) (names ++ [name]) := by
  have hsize := h.bound hopen.sound.nonempty
  have hshort := hopen.sound.short
  have hlonger := lt_utf8ByteSize_join hopen.sound.nonempty hname
  refine ⟨hother, fun next hnext => ?_, ?_, ?_, fun _ => ?_⟩
  · rcases List.mem_append.mp hnext with hnext | hnext
    · exact h.names next hnext
    · rw [List.mem_singleton.mp hnext]
      exact hname
  · rw [Files.Disk.target_congr hhome, Files.Disk.target_congr hhome,
      Files.Disk.target_join disk place hname]
    exact (h.apart.symm.of_suffix (List.suffix_cons name _)).symm
  · omega
  · omega

end CopyReady

/-- With a bound, what is ready is copied as a whole: the files that are put are the copies, and
their paths are the result. -/
def CopiesWithin (root target : Path) (bound : Nat) : Prop :=
  ∀ {place : Path} {names : List String} {disk after : Disk} {paths : List Path},
    CopyReady disk target bound place names →
    (copyBelow root target bound place (Path.ofNames names)).run.run disk = (after, .ok paths) →
    Puts (disk.copies place target names) disk after ∧
      paths = (disk.copies place target names).map Prod.fst

namespace CopiesWithin

variable {bound : Nat} {disk middle after : Disk} {place : Path} {names entries : List String}
  {paths : List Path}

/-- The names of a directory are copied one after another, each as it was at first. -/
theorem concat (h : CopiesWithin root target bound)
    (hready : CopyReady disk target (bound + 1) place names) (hopen : disk.Open place)
    (hentries : ∀ name ∈ entries, Path.IsFileName name)
    (hsame : SameOutside (disk.target target) disk middle) (hmiddle : middle.tree.WellFormed)
    (hrun : (Task.concat (entries.map fun name =>
      copyBelow root target bound (place.join ⟨name⟩)
        ((Path.ofNames names).join ⟨name⟩))).run.run middle = (after, .ok paths)) :
    Puts (entries.flatMap fun name => disk.copies (place.join ⟨name⟩) target (names ++ [name]))
        middle after ∧
      paths = (entries.flatMap fun name =>
        disk.copies (place.join ⟨name⟩) target (names ++ [name])).map Prod.fst := by
  induction entries generalizing middle paths with
  | nil =>
    obtain ⟨rfl, rfl⟩ := Task.run_pure_eq_ok.mp hrun
    exact ⟨.refl _, rfl⟩
  | cons name rest ih =>
    rw [List.forall_mem_cons] at hentries
    obtain ⟨next, first, others, hfirst, hothers, rfl⟩ := Task.run_concat_cons_eq_ok.mp hrun
    have hjoined := hready.join hopen hmiddle hsame.home hentries.1
    have hcopy : (copyBelow root target bound (place.join ⟨name⟩)
        (Path.ofNames (names ++ [name]))).run.run middle = (next, .ok first) := by
      rw [Path.ofNames_concat]
      exact hfirst
    obtain ⟨hputs, hpaths⟩ := h hjoined hcopy
    -- what has been copied is apart from what is still to be copied
    have hapart : Place.Apart (disk.target (place.join ⟨name⟩)) (disk.target target) := by
      rw [← Files.Disk.target_congr hsame.home, ← Files.Disk.target_congr hsame.home]
      exact hjoined.apart
    rw [hsame.copies_eq hready.wellFormed hmiddle hapart] at hputs hpaths
    have hnext : SameOutside (disk.target target) disk next :=
      hputs.sameOutside hsame fun file =>
        Files.Disk.suffix_of_mem_copies hready.wellFormed hjoined.names
    have hwf := Task.wellFormed_of_run hmiddle hcopy
    obtain ⟨hputsRest, hpathsRest⟩ := ih hentries.2 hnext hwf hothers
    rw [List.flatMap_cons, List.map_append, hpaths, hpathsRest]
    exact ⟨hputs.trans hputsRest, rfl⟩

/-- What is at a place is copied: one file, or everything below a directory, name after name. -/
theorem all (bound : Nat) : CopiesWithin root target bound := by
  induction bound with
  | zero =>
    intro place names disk after paths hready
    exact absurd hready.positive (Nat.lt_irrefl 0)
  | succ bound ih =>
    intro place names disk after paths hready hrun
    rw [copyBelow, Task.run_bind_eq_ok] at hrun
    obtain ⟨looked, found, hlook, hrun⟩ := hrun
    obtain ⟨rfl, hfound⟩ := Task.run_look_eq_ok.mp hlook
    cases found with
    | file =>
      obtain ⟨_, ⟨⟩, hcopy, hpure⟩ := Task.run_bind_eq_ok.mp hrun
      obtain ⟨rfl, rfl⟩ := Task.run_pure_eq_ok.mp hpure
      obtain ⟨content, hread⟩ := Files.Disk.read_of_look_eq_file hfound
      obtain ⟨-, -, hnode⟩ := Files.Disk.read_eq_ok.mp hread
      have hcontent := Files.Tree.content?_eq_some.mpr hnode
      rw [Files.Disk.copies_of_file hready.wellFormed hcontent]
      refine ⟨Files.Disk.puts_copy (Task.run_copy_eq_ok.mp hcopy) hcontent ?_, rfl⟩
      have htarget := Files.Disk.target_below looked target hready.names
      intro heq
      exact hready.apart.notBelow ((heq.trans htarget) ▸ List.suffix_append _ _)
    | directory entries =>
      obtain ⟨hdir, rfl⟩ := Files.Disk.look_eq_directory.mp hfound
      obtain ⟨made, ⟨⟩, hmake, hconcat⟩ := Task.run_bind_eq_ok.mp hrun
      rw [Task.run_makeDirectories_eq_ok] at hmake
      have hgrows := Files.Disk.grows_makeDirectories looked (target.join (Path.ofNames names))
      have hwf := Files.Disk.wellFormed_makeDirectories hready.wellFormed
        (target.join (Path.ofNames names))
      rw [hmake] at hgrows hwf
      have hputs := Puts.of_grows hgrows
      have hsame := hputs.sameOutside (.refl (looked.target target) looked) nofun
      obtain ⟨hcopies, rfl⟩ := ih.concat hready hdir.toOpen
        (fun _ => hready.wellFormed.isFileName_of_mem_namesIn) hsame hwf hconcat
      rw [Files.Disk.copies_of_directory hready.wellFormed hdir.directory]
      exact ⟨hputs.trans hcopies, rfl⟩

end CopiesWithin

/-- A tree that is copied is copied as a whole, if it is apart from where it is copied to. -/
theorem run_copyTree_eq_ok {source : Path} {disk after : Disk} {paths : List Path}
    (hwf : disk.tree.WellFormed) (hapart : Place.Apart (disk.target source) (disk.target target))
    (h : (copyTree source target).run.run disk = (after, .ok paths)) :
    Puts (disk.copies source target []) disk after ∧
      paths = (disk.copies source target []).map Prod.fst := by
  have hready : CopyReady disk target (longestPath + 1) source [] := by
    refine ⟨hwf, nofun, hapart, Nat.succ_pos _, fun hne => ?_⟩
    have hpos : 0 < source.text.utf8ByteSize := by
      refine Nat.pos_of_ne_zero fun hzero => ?_
      rw [String.utf8ByteSize_eq_zero_iff.mp hzero] at hne
      cases hne
    omega
  exact CopiesWithin.all (longestPath + 1) hready h

end SchemaBundle
