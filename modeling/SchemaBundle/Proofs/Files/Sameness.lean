import Mathlib.Data.List.Sort
import Mathlib.Data.String.Basic
import SchemaBundle.Proofs.Files.Directories

/-!
# Disks that are the same

Two disks are the same if the same stands at each place, and both list the same places, in whatever
order. No operation tells them apart, so a script has the same result on both, and leaves disks that
are the same.

* `Script.run_same`: scripts on disks that are the same
* `Disk.Grows.same`: when disks that have grown from one are the same
-/

namespace SchemaBundle.Files

namespace Disk

/-- The same stands at each place of two disks, and they list the same places. -/
structure Same (disk other : Disk) : Prop where
  home : other.home = disk.home
  nodes : ∀ place, other.tree.node? place = disk.tree.node? place
  places : other.tree.places.Perm disk.tree.places

variable {disk other : Disk} {path : Path}

/-! ## Reading -/

namespace Same

theorem agreeOn (h : Same disk other) (places : List Place) : AgreeOn places disk other :=
  ⟨h.home, fun place _ => h.nodes place⟩

theorem locate (h : Same disk other) (path : Path) : other.locate path = disk.locate path :=
  locate_congr (h.agreeOn _)

theorem node (h : Same disk other) (path : Path) : other.node path = disk.node path :=
  node_congr (h.agreeOn _)

theorem read (h : Same disk other) (path : Path) : other.read path = disk.read path :=
  read_congr (h.agreeOn _)

/-- The names in a directory are sorted, so it does not matter in which order places are listed. -/
theorem namesIn (h : Same disk other) (place : Place) :
    other.tree.namesIn place = disk.tree.namesIn place := by
  have hnames (tree : Tree) : tree.namesIn place =
      (tree.places.filterMap (Tree.nameIn? place)).mergeSort (· ≤ ·) := by
    rw [Tree.namesIn, Tree.places, List.filterMap_map]
    rfl
  rw [hnames, hnames]
  refine List.Perm.eq_of_sortedLE List.sortedLE_mergeSort List.sortedLE_mergeSort ?_
  exact (List.mergeSort_perm _ _).trans
    ((h.places.filterMap _).trans (List.mergeSort_perm _ _).symm)

theorem look (h : Same disk other) (path : Path) : other.look path = disk.look path := by
  unfold Disk.look
  rw [h.locate, h.node]
  simp only [h.namesIn]

theorem isDirectory (h : Same disk other) (path : Path) :
    other.isDirectory path = disk.isDirectory path := by
  rw [Disk.isDirectory, Disk.isDirectory, h.node]

/-! ## Changing -/

theorem insert (h : Same disk other) (place : Place) (node : Node) :
    Same (disk.insert place node) (other.insert place node) := by
  refine ⟨h.home, fun next => ?_, ?_⟩
  · by_cases hroot : next = []
    · rw [hroot]
      rfl
    · by_cases heq : next = place
      · subst heq
        exact (Tree.node?_insert_self _ hroot node).trans
          (Tree.node?_insert_self _ hroot node).symm
      · exact (Tree.node?_insert_of_ne _ heq node).trans
          ((h.nodes next).trans (Tree.node?_insert_of_ne _ heq node).symm)
  · show ((Tree.set place node other.tree.nodes).map Prod.fst).Perm
      ((Tree.set place node disk.tree.nodes).map Prod.fst)
    have hplaces : (other.tree.nodes.map Prod.fst).Perm (disk.tree.nodes.map Prod.fst) := h.places
    rw [Tree.map_fst_set, Tree.map_fst_set]
    by_cases hin : place ∈ disk.tree.nodes.map Prod.fst
    · rw [if_pos hin, if_pos (hplaces.mem_iff.mpr hin)]
      exact hplaces
    · rw [if_neg hin, if_neg fun hother => hin (hplaces.mem_iff.mp hother)]
      exact hplaces.append_right _

end Same

/-- Two attempts to change a disk that fail with the same error, or leave disks that are the
same. -/
inductive SameAttempt : Except FileError Disk → Except FileError Disk → Prop where
  | error (error : FileError) : SameAttempt (.error error) (.error error)
  | ok {disk other : Disk} (same : Same disk other) : SameAttempt (.ok disk) (.ok other)

theorem SameAttempt.eq_error {error : FileError} {result : Except FileError Disk}
    (h : SameAttempt (.error error) result) : result = .error error := by
  cases h
  rfl

theorem SameAttempt.exists_ok {disk : Disk} {result : Except FileError Disk}
    (h : SameAttempt (.ok disk) result) : ∃ other, result = .ok other ∧ Same disk other := by
  cases h with
  | ok same => exact ⟨_, rfl, same⟩

/-- Two steps with the same answer that leave disks that are the same. -/
structure SameStep {α : Type} (step next : Disk × α) : Prop where
  same : Same step.1 next.1
  answer : next.2 = step.2

theorem SameStep.exists_eq {α : Type} {disk : Disk} {answer : α} {next : Disk × α}
    (h : SameStep (disk, answer) next) : ∃ other, next = (other, answer) ∧ Same disk other :=
  ⟨next.1, Prod.ext rfl h.answer, h.same⟩

/-- What goes on with the answer goes on with the same. -/
theorem SameStep.bind {α β : Type} {step next : Disk × α} {go : α → Disk → Disk × β}
    (h : SameStep step next)
    (hgo : ∀ answer {disk other : Disk}, Same disk other →
      SameStep (go answer disk) (go answer other)) :
    SameStep (go step.2 step.1) (go next.2 next.1) := by
  rw [h.answer]
  exact hgo _ h.same

namespace Same

theorem write (h : Same disk other) (path : Path) (content : Content) :
    SameAttempt (disk.write path content) (other.write path content) := by
  rw [write_congr (h.agreeOn _)]
  cases hwrite : disk.write path content with
  | error error => exact .error error
  | ok after =>
    obtain ⟨_, _, _, rfl⟩ := write_eq_ok.mp hwrite
    exact .ok (h.insert _ _)

theorem makeDirectory (h : Same disk other) (path : Path) :
    SameAttempt (disk.makeDirectory path) (other.makeDirectory path) := by
  unfold Disk.makeDirectory
  rw [h.locate]
  cases disk.locate path with
  | error error => exact .error error
  | ok place =>
    simp only [Except.bind, h.nodes]
    cases disk.tree.node? place with
    | none => exact .ok (h.insert place _)
    | some node => exact .error _

theorem ensureDirectory (h : Same disk other) (path : Path) :
    SameAttempt (disk.ensureDirectory path) (other.ensureDirectory path) := by
  unfold Disk.ensureDirectory
  rw [h.isDirectory]
  have hmake := h.makeDirectory path
  cases hfirst : disk.makeDirectory path with
  | error error =>
    rw [hfirst] at hmake
    rw [hmake.eq_error]
    simp only
    split
    · exact .ok h
    · exact .error error
  | ok made =>
    rw [hfirst] at hmake
    obtain ⟨made', hmade, hsame⟩ := hmake.exists_ok
    rw [hmade]
    exact .ok hsame

/-- Directories are made level by level in the same way. -/
theorem making {path : Path} {after : Disk} {answer : Except FileError Unit}
    (h : Same disk other) (hmaking : Making disk path after answer) :
    ∃ after', Making other path after' answer ∧ Same after after' := by
  induction hmaking with
  | empty hempty => exact ⟨other, .empty hempty, h⟩
  | ensured hne hensure =>
    obtain ⟨after', hensure', hsame⟩ := (hensure ▸ h.ensureDirectory _).exists_ok
    exact ⟨after', .ensured hne hensure', hsame⟩
  | failed hne hensure hstop =>
    exact ⟨other, .failed hne (hensure ▸ h.ensureDirectory _).eq_error hstop, h⟩
  | failedAbove hne hensure hparent _ ih =>
    obtain ⟨middle', habove, hsame⟩ := ih
    have hensure' := (hensure ▸ h.ensureDirectory _).eq_error
    exact ⟨middle', .failedAbove hne hensure' hparent habove, hsame⟩
  | made hne hensure hparent _ hagain ih =>
    obtain ⟨middle', habove, hmiddle⟩ := ih
    have hensure' := (hensure ▸ h.ensureDirectory _).eq_error
    obtain ⟨after', hagain', hsame⟩ := (hagain ▸ hmiddle.ensureDirectory _).exists_ok
    exact ⟨after', .made hne hensure' hparent habove hagain', hsame⟩
  | failedAgain hne hensure hparent _ hagain ih =>
    obtain ⟨middle', habove, hsame⟩ := ih
    have hensure' := (hensure ▸ h.ensureDirectory _).eq_error
    have hagain' := (hagain ▸ hsame.ensureDirectory _).eq_error
    exact ⟨middle', .failedAgain hne hensure' hparent habove hagain', hsame⟩

theorem makeDirectories (h : Same disk other) (path : Path) :
    SameStep (disk.makeDirectories path) (other.makeDirectories path) := by
  obtain ⟨after', hmaking, hsame⟩ := h.making (making_makeDirectories disk path)
  rw [makeDirectories_iff.mpr hmaking]
  exact ⟨hsame, rfl⟩

theorem makeParents (h : Same disk other) (path : Path) :
    SameStep (disk.makeParents path) (other.makeParents path) := by
  unfold Disk.makeParents
  cases path.parent? with
  | none => exact ⟨h, rfl⟩
  | some parent =>
    obtain ⟨hsame, hanswer⟩ := h.makeDirectories parent
    exact ⟨hsame, congrArg (Except.mapError (SaveError.directory parent)) hanswer⟩

theorem save (h : Same disk other) (path : Path) (content : Content) :
    SameStep (disk.save path content) (other.save path content) := by
  unfold Disk.save
  have hstep := h.makeParents path
  rcases hfirst : disk.makeParents path with ⟨middle, answer⟩
  rw [hfirst] at hstep
  obtain ⟨middle', hnext, hsame⟩ := hstep.exists_eq
  rw [hnext]
  cases answer with
  | error error => exact ⟨hsame, rfl⟩
  | ok _ =>
    have hattempt := hsame.write path content
    simp only at hattempt ⊢
    cases hwrite : middle.write path content with
    | error error =>
      rw [hwrite] at hattempt
      rw [hattempt.eq_error]
      exact ⟨hsame, rfl⟩
    | ok after =>
      rw [hwrite] at hattempt
      obtain ⟨after', hafter, hsame⟩ := hattempt.exists_ok
      rw [hafter]
      exact ⟨hsame, rfl⟩

theorem copy (h : Same disk other) (source path : Path) :
    SameAttempt (disk.copy source path) (other.copy source path) := by
  unfold Disk.copy
  rw [h.read]
  cases disk.read source with
  | error error => exact .error error
  | ok first =>
    have hattempt := h.write path (.text "")
    simp only [Except.bind]
    cases hwrite : disk.write path (.text "") with
    | error error =>
      rw [hwrite] at hattempt
      rw [hattempt.eq_error]
      exact .error error
    | ok emptied =>
      rw [hwrite] at hattempt
      obtain ⟨emptied', hemptied, hsame⟩ := hattempt.exists_ok
      rw [hemptied]
      simp only [hsame.read]
      cases emptied.read source with
      | error error => exact .error error
      | ok content => exact hsame.write path content

theorem settle (h : Same disk other) {result next : Except FileError Disk}
    (hattempt : SameAttempt result next) :
    SameStep (Script.settle disk result) (Script.settle other next) := by
  cases hattempt with
  | error error => exact ⟨h, rfl⟩
  | ok same => exact ⟨same, rfl⟩

end Same

/-! ## Growing -/

/-- Disks that have grown from one are the same if the same stands at each place. -/
theorem Grows.same {written more : List Place} {before after last : Disk}
    (h : Grows written before after) (hlast : Grows more before last)
    (hnodes : ∀ place, last.tree.node? place = after.tree.node? place) : Same after last := by
  refine ⟨hlast.home.trans h.home.symm, hnodes, ?_⟩
  obtain ⟨places, hplaces, hnodup, hnew⟩ := h.added
  obtain ⟨others, hothers, hnodup', hnew'⟩ := hlast.added
  -- a place that is new on one disk is new on the other
  have hmem {first second : Disk} {these those : List Place}
      (hnodes : ∀ place, second.tree.node? place = first.tree.node? place)
      (hthese : first.tree.places = before.tree.places ++ these)
      (hthose : second.tree.places = before.tree.places ++ those)
      (hnew : ∀ place ∈ these, place ∉ before.tree.places ∧ place ≠ []) :
      ∀ place ∈ these, place ∈ those := by
    intro place hplace
    obtain ⟨hnot, hne⟩ := hnew place hplace
    have hin : place ∈ first.tree.places := hthese ▸ List.mem_append_right _ hplace
    rw [Tree.mem_places_iff hne, ← hnodes, ← Tree.mem_places_iff hne, hthose] at hin
    exact (List.mem_append.mp hin).resolve_left hnot
  rw [hplaces, hothers]
  refine List.Perm.append_left _ ((List.perm_ext_iff_of_nodup hnodup' hnodup).mpr fun place => ?_)
  exact ⟨hmem (fun place => (hnodes place).symm) hothers hplaces hnew' place,
    hmem hnodes hplaces hothers hnew place⟩

end Disk

/-! ## Scripts -/

namespace Script

open Disk (Same SameStep)

variable {α : Type}

/-- A script has the same result on disks that are the same, and leaves disks that are the same. -/
theorem run_same (script : Script α) {disk other : Disk} (h : Same disk other) :
    SameStep (script.run disk) (script.run other) := by
  induction script generalizing disk other with
  | done result => exact ⟨h, rfl⟩
  | read path next ih =>
    rw [run, run, h.read]
    exact ih _ h
  | look path next ih =>
    rw [run, run, h.look]
    exact ih _ h
  | write path content next ih => exact (h.settle (h.write path content)).bind ih
  | save path content next ih => exact (h.save path content).bind ih
  | makeDirectories path next ih => exact (h.makeDirectories path).bind ih
  | copy source target next ih => exact (h.settle (h.copy source target)).bind ih

end Script

end SchemaBundle.Files
