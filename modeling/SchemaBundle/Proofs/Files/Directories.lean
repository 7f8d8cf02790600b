import SchemaBundle.Proofs.Files.Effects
import SchemaBundle.Proofs.Files.Parent

/-!
# Making directories

How directories are made, level by level, is said by a relation: a directory is made at once, or
after those above it. Making a directory with those above it succeeds where no file stands in the
way, and then every place on the way is a directory, and nothing else has changed. What could not be
made cannot be made a second time either, and nothing more is made then.

* `Disk.makeDirectories_iff`: directories are made level by level
* `Disk.Making.makes`: what has been made in the end
* `Disk.Making.eq_ok_of_clear`: when directories can be made
* `Disk.Making.again_of_ok`, `Disk.Making.again_of_error`: making directories a second time
-/

namespace SchemaBundle

open Files (longestName longestPath)

/-! ## Paths and their parents -/

namespace Path

variable {path parent : Path}

theorem IsParent.sound (h : IsParent parent path) (hsound : path.Sound)
    (hne : parent.text.isEmpty = false) : parent.Sound := by
  obtain ⟨rest, _, htext⟩ := h.text
  obtain ⟨idle, last, more, hnames, _⟩ := h.names
  refine ⟨?_, hne, ?_, fun name hname => ?_⟩
  · have hnul := hsound.noNul
    rw [htext, String.toList_append, List.contains_eq_mem, decide_eq_false_iff_not,
      List.mem_append, not_or] at hnul
    rw [List.contains_eq_mem, decide_eq_false_iff_not]
    exact hnul.1
  · have hshort := hsound.short
    rw [htext, String.utf8ByteSize_append] at hshort
    omega
  · exact hsound.shortNames name (by rw [hnames]; exact List.mem_append_left _ hname)

theorem length_pos (hne : path.text.isEmpty = false) : 0 < path.text.length := by
  refine Nat.pos_of_ne_zero fun hzero => ?_
  have hnil : path.text = "" :=
    String.toList_injective (List.eq_nil_of_length_eq_zero (by rw [String.length_toList, hzero]))
  rw [hnil] at hne
  cases hne

/-- A parent is shorter. -/
theorem IsParent.length_lt (h : IsParent parent path) :
    parent.text.length < path.text.length := by
  obtain ⟨rest, hne, htext⟩ := h.text
  have hlength : 0 < rest.length := by
    rw [← String.length_toList]
    exact List.length_pos_of_ne_nil fun hnil => hne (String.toList_injective hnil)
  rw [htext, String.length_append]
  omega

/-- A path that does not end in dots is one name and dots before it after its parent. -/
theorem IsParent.names_of_isTrimmed (h : IsParent parent path) (htrimmed : path.IsTrimmed) :
    ∃ idle last, path.names = parent.names ++ (idle ++ [last]) ∧ ∀ name ∈ idle, name = "." := by
  obtain ⟨idle, last, more, hnames, hidle, hmore⟩ := h.names
  rcases List.eq_nil_or_concat more with rfl | ⟨others, dot, rfl⟩
  · exact ⟨idle, last, hnames, hidle⟩
  · have hdot := hmore dot (by simp)
    have hnil := htrimmed (parent.names ++ (idle ++ last :: others)) (by simp [hnames, hdot])
    simp at hnil

end Path

namespace Files

namespace Disk

variable {disk : Disk} {path parent : Path}

/-- The places on the way of a path, with the one that it leads to. -/
def route (disk : Disk) (path : Path) : List Place :=
  disk.spine path ++ [disk.target path]

theorem start_congr (h : parent.IsParent path) : disk.start parent = disk.start path := by
  rw [start, start, h.isAbsolute]

/-- The route of a parent is on the way of the path. -/
theorem route_parent_subset (h : parent.IsParent path) : disk.route parent ⊆ disk.spine path := by
  obtain ⟨idle, last, more, hnames, _⟩ := h.names
  have hhead : ∀ place : Place, place ∈ place.spine (idle ++ last :: more) := by
    intro place
    cases idle with
    | nil => exact List.mem_cons_self
    | cons name rest => exact List.mem_cons_self
  rw [route, spine, spine, target, start_congr h, hnames, Place.spine_append]
  refine List.append_subset.mpr ⟨List.subset_append_left _ _, fun place hplace => ?_⟩
  rw [List.mem_singleton.mp hplace]
  exact List.mem_append_right _ (hhead _)

theorem route_parent_subset_route (h : parent.IsParent path) :
    disk.route parent ⊆ disk.route path :=
  fun _ hplace => List.mem_append_left _ (route_parent_subset h hplace)

/-- The empty path leads nowhere. -/
theorem route_of_isEmpty (hempty : path.text.isEmpty = true) :
    disk.route path = [disk.start path] := by
  have hnone : path.names = [] := by
    rw [Path.names, String.isEmpty_iff.mp hempty]
    rfl
  rw [route, spine, target, hnone]
  rfl

theorem route_congr {other : Disk} (h : other.home = disk.home) (path : Path) :
    other.route path = disk.route path := by
  rw [route, route, spine_congr h, target_congr h]

/-- On the way of a path that does not end in dots are only the places of its parent's route. -/
theorem spine_subset_route_parent (h : parent.IsParent path) {idle : List String} {last : String}
    (hnames : path.names = parent.names ++ (idle ++ [last])) (hidle : ∀ name ∈ idle, name = ".") :
    disk.spine path ⊆ disk.route parent := by
  intro place hplace
  rw [spine, hnames, Place.spine_append, Place.spine_append, Place.walk_of_dots hidle] at hplace
  rw [route, spine, target, start_congr h]
  rcases List.mem_append.mp hplace with hplace | hplace
  · exact List.mem_append_left _ hplace
  · refine List.mem_append_right _ (List.mem_singleton.mpr ?_)
    rcases List.mem_append.mp hplace with hplace | hplace
    · exact Place.eq_of_mem_spine_of_dots hidle hplace
    · exact List.mem_singleton.mp hplace

/-! ## One level after another -/

section Levels

variable {bound : Nat} {middle after : Disk} {error : FileError}

theorem makeAbove_of_isEmpty (h : path.text.isEmpty = true) :
    makeAbove bound path disk = (disk, .ok ()) := by
  cases bound with
  | zero => rfl
  | succ bound => rw [makeAbove, if_pos h]

theorem makeAbove_of_ensured (hne : path.text.isEmpty = false)
    (h : disk.ensureDirectory path = .ok after) :
    makeAbove (bound + 1) path disk = (after, .ok ()) := by
  rw [makeAbove, hne, if_neg (by simp), h]

theorem makeAbove_of_notFound (hne : path.text.isEmpty = false)
    (h : disk.ensureDirectory path = .error .notFound) (hparent : path.parent? = some parent) :
    makeAbove (bound + 1) path disk =
      match makeAbove bound parent disk with
      | (middle, .error error) => (middle, .error error)
      | (middle, .ok ()) =>
        match middle.ensureDirectory path with
        | .ok after => (after, .ok ())
        | .error error => (middle, .error error) := by
  rewrite [makeAbove, hne, if_neg (by simp), h, hparent]
  rfl

theorem makeAbove_of_error (hne : path.text.isEmpty = false)
    (h : disk.ensureDirectory path = .error error)
    (hstop : error ≠ .notFound ∨ path.parent? = none) :
    makeAbove (bound + 1) path disk = (disk, .error error) := by
  rw [makeAbove, hne, if_neg (by simp), h]
  rcases hstop with hstop | hstop
  · cases error <;> first | rfl | exact absurd rfl hstop
  · rw [hstop]
    cases error <;> rfl

/-- How directories are made: the disk that is left, and the answer. -/
inductive Making (disk : Disk) : Path → Disk → Except FileError Unit → Prop
  | empty {path : Path} (hempty : path.text.isEmpty = true) : Making disk path disk (.ok ())
  /-- The directory is there or can be made at once. -/
  | ensured {path : Path} {after : Disk} (hne : path.text.isEmpty = false)
      (hensure : disk.ensureDirectory path = .ok after) : Making disk path after (.ok ())
  /-- The directory cannot be made, and not because of those above it. -/
  | failed {path : Path} {error : FileError} (hne : path.text.isEmpty = false)
      (hensure : disk.ensureDirectory path = .error error)
      (hstop : error ≠ .notFound ∨ path.parent? = none) : Making disk path disk (.error error)
  /-- Those above it cannot be made. -/
  | failedAbove {path parent : Path} {middle : Disk} {error : FileError}
      (hne : path.text.isEmpty = false) (hensure : disk.ensureDirectory path = .error .notFound)
      (hparent : path.parent? = some parent) (habove : Making disk parent middle (.error error)) :
      Making disk path middle (.error error)
  /-- The directory is made after those above it. -/
  | made {path parent : Path} {middle after : Disk} (hne : path.text.isEmpty = false)
      (hensure : disk.ensureDirectory path = .error .notFound)
      (hparent : path.parent? = some parent) (habove : Making disk parent middle (.ok ()))
      (hagain : middle.ensureDirectory path = .ok after) : Making disk path after (.ok ())
  /-- The directory cannot be made even after those above it. -/
  | failedAgain {path parent : Path} {middle : Disk} {error : FileError}
      (hne : path.text.isEmpty = false) (hensure : disk.ensureDirectory path = .error .notFound)
      (hparent : path.parent? = some parent) (habove : Making disk parent middle (.ok ()))
      (hagain : middle.ensureDirectory path = .error error) : Making disk path middle (.error error)

/-- The bound on the levels is never reached. -/
theorem making_makeAbove (hbound : path.text.length ≤ bound) :
    Making disk path (makeAbove bound path disk).1 (makeAbove bound path disk).2 := by
  induction bound generalizing path with
  | zero =>
    cases hempty : path.text.isEmpty with
    | true => exact .empty hempty
    | false =>
      have hpos := Path.length_pos hempty
      omega
  | succ bound ih =>
    cases hempty : path.text.isEmpty with
    | true =>
      rw [makeAbove_of_isEmpty hempty]
      exact .empty hempty
    | false =>
      cases hensure : disk.ensureDirectory path with
      | ok after =>
        rw [makeAbove_of_ensured hempty hensure]
        exact .ensured hempty hensure
      | error error =>
        by_cases hstop : error ≠ .notFound ∨ path.parent? = none
        · rw [makeAbove_of_error hempty hensure hstop]
          exact .failed hempty hensure hstop
        · rw [not_or, not_not] at hstop
          obtain ⟨rfl, hparent⟩ := hstop
          obtain ⟨parent, hparent⟩ := Option.ne_none_iff_exists'.mp hparent
          have hshorter := (Path.isParent_of_parent? hparent).length_lt
          have habove : Making disk parent _ _ := ih (by omega)
          rw [makeAbove_of_notFound hempty hensure hparent]
          rcases hmiddle : makeAbove bound parent disk with ⟨middle, answer⟩
          rw [hmiddle] at habove
          cases answer with
          | error error => exact .failedAbove hempty hensure hparent habove
          | ok _ =>
            simp only
            cases hagain : middle.ensureDirectory path with
            | ok after => exact .made hempty hensure hparent habove hagain
            | error error => exact .failedAgain hempty hensure hparent habove hagain

theorem Making.makeAbove_eq {answer : Except FileError Unit} (h : Making disk path after answer)
    (hbound : path.text.length ≤ bound) : makeAbove bound path disk = (after, answer) := by
  have hsucc {path : Path} {bound : Nat} (hne : path.text.isEmpty = false)
      (hbound : path.text.length ≤ bound) : ∃ less, bound = less + 1 :=
    Nat.exists_eq_succ_of_ne_zero ((Path.length_pos hne).trans_le hbound).ne'
  have hless {path parent : Path} {bound : Nat} (hparent : path.parent? = some parent)
      (hbound : path.text.length ≤ bound + 1) : parent.text.length ≤ bound := by
    have hshorter := (Path.isParent_of_parent? hparent).length_lt
    omega
  induction h generalizing bound with
  | empty hempty => exact makeAbove_of_isEmpty hempty
  | ensured hne hensure =>
    obtain ⟨bound, rfl⟩ := hsucc hne hbound
    exact makeAbove_of_ensured hne hensure
  | failed hne hensure hstop =>
    obtain ⟨bound, rfl⟩ := hsucc hne hbound
    exact makeAbove_of_error hne hensure hstop
  | failedAbove hne hensure hparent habove ih =>
    obtain ⟨bound, rfl⟩ := hsucc hne hbound
    rw [makeAbove_of_notFound hne hensure hparent, ih (hless hparent hbound)]
  | made hne hensure hparent habove hagain ih =>
    obtain ⟨bound, rfl⟩ := hsucc hne hbound
    rw [makeAbove_of_notFound hne hensure hparent, ih (hless hparent hbound)]
    simp only [hagain]
  | failedAgain hne hensure hparent habove hagain ih =>
    obtain ⟨bound, rfl⟩ := hsucc hne hbound
    rw [makeAbove_of_notFound hne hensure hparent, ih (hless hparent hbound)]
    simp only [hagain]

end Levels

section Answers

variable {middle after : Disk} {answer : Except FileError Unit} {error : FileError}

/-- Directories are made level by level. -/
theorem makeDirectories_iff :
    disk.makeDirectories path = (after, answer) ↔ Making disk path after answer := by
  refine ⟨fun h => ?_, fun h => h.makeAbove_eq (Nat.le_refl _)⟩
  have hmaking : Making disk path _ _ := making_makeAbove (Nat.le_refl _)
  rw [← makeDirectories, h] at hmaking
  exact hmaking

theorem making_makeDirectories (disk : Disk) (path : Path) :
    Making disk path (disk.makeDirectories path).1 (disk.makeDirectories path).2 :=
  makeDirectories_iff.mp rfl

namespace Making

theorem unique {last : Disk} {other : Except FileError Unit} (h : Making disk path after answer)
    (hlast : Making disk path last other) : after = last ∧ answer = other :=
  Prod.mk.inj ((makeDirectories_iff.mpr h).symm.trans (makeDirectories_iff.mpr hlast))

theorem home (h : Making disk path after answer) : after.home = disk.home := by
  have hgrows := grows_makeDirectories disk path
  rw [makeDirectories_iff.mpr h] at hgrows
  exact hgrows.home

theorem nonempty (h : Making disk path after (.error error)) : path.text.isEmpty = false := by
  cases h <;> assumption

/-- Where the directory is there already, nothing is done. -/
theorem of_hasDirectory (h : disk.HasDirectory path) : Making disk path disk (.ok ()) :=
  .ensured h.sound.nonempty (ensureDirectory_eq_ok.mpr (Or.inl ⟨h, rfl⟩))

end Making

end Answers

/-! ## Success -/

/-- Some places become directories, and all others stay as they are. -/
structure Makes (places : List Place) (before after : Disk) : Prop where
  home : after.home = before.home
  directory : ∀ place ∈ places, after.tree.node? place = some .directory
  other : ∀ place, place ∉ places → after.tree.node? place = before.tree.node? place

theorem Open.makes_self (h : disk.Open path)
    (hdir : disk.tree.node? (disk.target path) = some .directory) :
    Makes (disk.route path) disk disk := by
  refine ⟨rfl, fun place hplace => ?_, fun _ _ => rfl⟩
  rcases List.mem_append.mp hplace with hplace | hplace
  · exact h.spine place hplace
  · rw [List.mem_singleton.mp hplace]
    exact hdir

theorem Open.makes_insert (h : disk.Open path) (hnone : disk.tree.node? (disk.target path) = none) :
    Makes (disk.route path) disk (disk.insert (disk.target path) .directory) := by
  have hnot : disk.tree.node? (disk.target path) ≠ some .directory := by simp [hnone]
  have hnode := node?_insert hnot .directory
  refine ⟨rfl, fun place hplace => ?_, fun place hplace => ?_⟩
  · rw [hnode]
    split
    · rfl
    · next hne =>
      rcases List.mem_append.mp hplace with hplace | hplace
      · exact h.spine place hplace
      · exact absurd (List.mem_singleton.mp hplace) hne
  · rw [hnode, if_neg]
    rintro rfl
    exact hplace (List.mem_append_right _ (List.mem_singleton_self _))

theorem makes_of_ensured {after : Disk} (h : disk.ensureDirectory path = .ok after) :
    path.Sound ∧ Makes (disk.route path) disk after := by
  rcases ensureDirectory_eq_ok.mp h with ⟨hdir, rfl⟩ | ⟨hopen, hnone, rfl⟩
  · exact ⟨hdir.sound, hdir.toOpen.makes_self hdir.directory⟩
  · exact ⟨hopen.sound, hopen.makes_insert hnone⟩

namespace Making

variable {after : Disk} {answer : Except FileError Unit}

/-- Nothing else is changed, whether the directory can be made or not. -/
theorem other (h : Making disk path after answer) {place : Place}
    (hplace : place ∉ disk.route path) : after.tree.node? place = disk.tree.node? place := by
  have habove {path parent : Path} (hparent : path.parent? = some parent)
      (hplace : place ∉ disk.route path) : place ∉ disk.route parent :=
    fun hin => hplace (route_parent_subset_route (Path.isParent_of_parent? hparent) hin)
  induction h with
  | empty | failed => rfl
  | ensured _ hensure => exact (makes_of_ensured hensure).2.other place hplace
  | failedAbove _ _ hparent _ ih => exact ih (habove hparent hplace)
  | failedAgain _ _ hparent _ _ ih => exact ih (habove hparent hplace)
  | made _ _ hparent hmiddle hagain ih =>
    have hmakes := (makes_of_ensured hagain).2
    rw [route_congr hmiddle.home] at hmakes
    exact (hmakes.other place hplace).trans (ih (habove hparent hplace))

/-- If directories are made, then exactly those on the route. -/
theorem makes (h : Making disk path after (.ok ())) (hne : path.text.isEmpty = false) :
    path.Sound ∧ Makes (disk.route path) disk after := by
  cases h with
  | empty hempty =>
    rw [hempty] at hne
    cases hne
  | ensured _ hensure => exact makes_of_ensured hensure
  | made _ hensure hparent habove hagain =>
    have h : Making disk path after (.ok ()) := .made hne hensure hparent habove hagain
    obtain ⟨hsound, hmakes⟩ := makes_of_ensured hagain
    rw [route_congr habove.home] at hmakes
    exact ⟨hsound, h.home, hmakes.directory, fun _ => h.other⟩

/-- The empty path makes nothing, so the directory that it starts at has to be there. -/
theorem makes_of_start (h : Making disk path after (.ok ()))
    (hstart : disk.tree.node? (disk.start path) = some .directory) :
    Makes (disk.route path) disk after := by
  cases hempty : path.text.isEmpty with
  | false => exact (h.makes hempty).2
  | true =>
    obtain ⟨rfl, _⟩ := h.unique (.empty hempty)
    rw [route_of_isEmpty hempty]
    refine ⟨rfl, fun place hplace => ?_, fun _ _ => rfl⟩
    rw [List.mem_singleton.mp hplace]
    exact hstart

end Making

/-- Directories that have been made are there. -/
theorem Makes.hasDirectory {after : Disk} (h : Makes (disk.route path) disk after)
    (hsound : path.Sound) : after.HasDirectory path := by
  refine ⟨⟨hsound, fun above ha => ?_⟩, ?_⟩
  · rw [spine_congr h.home] at ha
    exact h.directory above (List.mem_append_left _ ha)
  · rw [target_congr h.home]
    exact h.directory _ (List.mem_append_right _ (List.mem_singleton_self _))

/-- Where no file stands on the route, a directory cannot be made only if one above it is not
there. -/
theorem eq_notFound_of_ensureDirectory {error : FileError} (hsound : path.Sound)
    (hclear : ∀ place ∈ disk.route path, ∀ content, disk.tree.node? place ≠ some (.file content))
    (h : disk.ensureDirectory path = .error error) : error = .notFound ∧ ¬ disk.Open path := by
  cases hplace : disk.locate path with
  | error other =>
    have hother := eq_notFound_of_locate hsound
      (fun above ha => hclear above (List.mem_append_left _ ha)) hplace
    refine ⟨?_, fun hopen => ?_⟩
    · unfold ensureDirectory makeDirectory at h
      rw [hplace] at h
      simp only [Except.bind] at h
      split at h
      · cases h
      · cases h
        exact hother
    · rw [locate_eq_ok.mpr ⟨hopen, rfl⟩] at hplace
      cases hplace
  | ok place =>
    obtain ⟨hopen, rfl⟩ := locate_eq_ok.mp hplace
    -- where the way is open, the directory is there or can be made
    have hensured : ∃ after, disk.ensureDirectory path = .ok after := by
      cases hnode : disk.tree.node? (disk.target path) with
      | none => exact ⟨_, ensureDirectory_eq_ok.mpr (Or.inr ⟨hopen, hnode, rfl⟩)⟩
      | some node =>
        cases node with
        | directory => exact ⟨_, ensureDirectory_eq_ok.mpr (Or.inl ⟨⟨hopen, hnode⟩, rfl⟩)⟩
        | file content =>
          exact absurd hnode
            (hclear _ (List.mem_append_right _ (List.mem_singleton_self _)) content)
    obtain ⟨after, hafter⟩ := hensured
    rw [hafter] at h
    cases h

/-- Where the directories above it have been made, the way of a path is open. -/
theorem Makes.open_of_isParent {after : Disk} (h : Makes (disk.route parent) disk after)
    (hparent : parent.IsParent path) (hsound : path.Sound) (htrimmed : path.IsTrimmed) :
    after.Open path := by
  obtain ⟨idle, last, hnames, hidle⟩ := hparent.names_of_isTrimmed htrimmed
  refine ⟨hsound, fun above ha => h.directory above ?_⟩
  rw [spine_congr h.home] at ha
  exact spine_subset_route_parent hparent hnames hidle ha

/-- Where the way of a path is open, the directory above it is there. -/
theorem Open.hasDirectory_of_isParent (h : disk.Open path) (hparent : parent.IsParent path)
    (hne : parent.text.isEmpty = false) : disk.HasDirectory parent := by
  have hroute : disk.route parent ⊆ disk.spine path := route_parent_subset hparent
  refine ⟨⟨hparent.sound h.sound hne, fun above ha => ?_⟩, ?_⟩
  · exact h.spine above (hroute (List.mem_append_left _ ha))
  · exact h.spine _ (hroute (List.mem_append_right _ (List.mem_singleton_self _)))

/-- Making directories puts no file anywhere. -/
theorem Makes.file {places : List Place} {before after : Disk} (h : Makes places before after)
    {place : Place} {content : Content} (hfile : after.tree.node? place = some (.file content)) :
    before.tree.node? place = some (.file content) := by
  by_cases hin : place ∈ places
  · rw [h.directory place hin] at hfile
    cases hfile
  · rwa [h.other place hin] at hfile

namespace Making

variable {after : Disk} {answer : Except FileError Unit} {error : FileError}

/-- Directories can be made if the path starts at a directory and no file stands on the route. -/
theorem eq_ok_of_clear (h : Making disk path after answer) (hsound : path.Sound)
    (htrimmed : path.IsTrimmed) (hstart : disk.tree.node? (disk.start path) = some .directory)
    (hclear : ∀ place ∈ disk.route path, ∀ content,
      disk.tree.node? place ≠ some (.file content)) :
    answer = .ok () := by
  induction h with
  | empty | ensured | made => rfl
  | failed _ hensure hstop =>
    obtain ⟨rfl, hclosed⟩ := eq_notFound_of_ensureDirectory hsound hclear hensure
    have hdots := Path.eq_dot_of_parent?_eq_none (hstop.resolve_left (not_not_intro rfl))
    -- a path of dots starts at a directory and stays there
    refine absurd ⟨hsound, fun above ha => ?_⟩ hclosed
    rw [Place.eq_of_mem_spine_of_dots hdots ha]
    exact hstart
  | failedAbove _ _ hparent habove ih =>
    have hisParent := Path.isParent_of_parent? hparent
    exact ih (hisParent.sound hsound habove.nonempty) (Path.isTrimmed_of_parent? hparent)
      (start_congr hisParent ▸ hstart)
      fun place hplace => hclear place (route_parent_subset_route hisParent hplace)
  | failedAgain _ _ hparent habove hagain =>
    have hisParent := Path.isParent_of_parent? hparent
    have hmakes := habove.makes_of_start (start_congr hisParent ▸ hstart)
    have hopen := hmakes.open_of_isParent hisParent hsound htrimmed
    refine absurd hopen (eq_notFound_of_ensureDirectory hsound ?_ hagain).2
    intro place hplace content hfile
    rw [route_congr hmakes.home] at hplace
    exact hclear place hplace content (hmakes.file hfile)

/-! ## A second time -/

theorem again_of_ok (h : Making disk path after (.ok ())) : Making after path after (.ok ()) := by
  cases hempty : path.text.isEmpty with
  | true => exact .empty hempty
  | false =>
    obtain ⟨hsound, hmakes⟩ := h.makes hempty
    exact of_hasDirectory (hmakes.hasDirectory hsound)

/-- Where nothing more is made above it, a directory that cannot be made at once cannot be made at
all. -/
theorem exists_of_error (hne : path.text.isEmpty = false)
    (hensure : disk.ensureDirectory path = .error error) (hparent : path.parent? = some parent)
    (habove : Making disk parent disk answer) :
    ∃ other, Making disk path disk (.error other) := by
  by_cases hnotFound : error = .notFound
  · subst hnotFound
    cases answer with
    | error other => exact ⟨other, .failedAbove hne hensure hparent habove⟩
    | ok _ => exact ⟨.notFound, .failedAgain hne hensure hparent habove hensure⟩
  · exact ⟨error, .failed hne hensure (Or.inl hnotFound)⟩

/-- Directories that could not be made cannot be made a second time either, whatever was made of
them; only the error may be another. -/
theorem again_of_error (h : Making disk path after (.error error)) :
    ∃ other, Making after path after (.error other) := by
  generalize hanswer : Except.error error = answer at h
  induction h with
  | empty | ensured | made => cases hanswer
  | failed hne hensure hstop => exact ⟨_, .failed hne hensure hstop⟩
  | @failedAbove path parent middle error hne _ hparent habove ih =>
    obtain ⟨other, hother⟩ := ih hanswer
    cases hagain : middle.ensureDirectory path with
    | error second => exact exists_of_error hne hagain hparent hother
    | ok ensured =>
      -- then the directory above is there, and making it would not fail
      have hopen : middle.Open path := by
        rcases ensureDirectory_eq_ok.mp hagain with ⟨hdir, _⟩ | ⟨hopen, _⟩
        · exact hdir.toOpen
        · exact hopen
      have hdir := hopen.hasDirectory_of_isParent (Path.isParent_of_parent? hparent) hother.nonempty
      cases (hother.unique (of_hasDirectory hdir)).2
  | failedAgain hne _ hparent habove hagain =>
    exact exists_of_error hne hagain hparent habove.again_of_ok

end Making

end Disk

end Files

end SchemaBundle
