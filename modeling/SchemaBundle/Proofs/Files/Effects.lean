import SchemaBundle.Files.Script
import SchemaBundle.Proofs.Files.Following

/-!
# What operations do to a disk

Whatever is done with files, a disk only grows: directories stay directories, files stay files, what
is new are directories and the files that are written. `Disk.Grows` says so for one operation after
another, and `Script.written` are the places that a script writes files to.

* `Script.grows_run`: what a script leaves as it was
-/

namespace SchemaBundle.Files

namespace Tree

/-! ## Places of a tree -/

/-- The places of a tree apart from the root, in order. -/
def places (tree : Tree) : List Place :=
  tree.nodes.map Prod.fst

/-- A place is kept where it is, or added at the end. -/
theorem map_fst_set (place : Place) (node : Node) (nodes : List (Place × Node)) :
    (set place node nodes).map Prod.fst =
      if place ∈ nodes.map Prod.fst then nodes.map Prod.fst else nodes.map Prod.fst ++ [place] := by
  induction nodes with
  | nil => rfl
  | cons entry rest ih =>
    obtain ⟨first, before⟩ := entry
    rw [set]
    split
    · next heq => simp [heq]
    · next hne =>
      rw [List.map_cons, List.map_cons, ih]
      by_cases hin : place ∈ rest.map Prod.fst
      · rw [if_pos hin, if_pos (List.mem_cons_of_mem _ hin)]
      · have hnot : place ∉ first :: rest.map Prod.fst := by
          rw [List.mem_cons, not_or]
          exact ⟨Ne.symm hne, hin⟩
        rw [if_neg hin, if_neg hnot, List.cons_append]

theorem mem_places_iff {tree : Tree} {place : Place} (h : place ≠ []) :
    place ∈ tree.places ↔ tree.node? place ≠ none := by
  have hlookup (nodes : List (Place × Node)) :
      place ∈ nodes.map Prod.fst ↔ lookup place nodes ≠ none := by
    induction nodes with
    | nil => simp [lookup]
    | cons entry rest ih =>
      obtain ⟨first, node⟩ := entry
      rw [List.map_cons, List.mem_cons, lookup]
      split
      · next heq => simp [heq]
      · next hne => simp [ih, Ne.symm hne]
  rw [node?, if_neg h]
  exact hlookup tree.nodes

end Tree

namespace Disk

/-! ## Growing disks -/

/-- A disk grows into another if each place is left as it is, or becomes a directory where there was
nothing, or is one of those written and holds a file where there was no directory. The places that
are new come after those before, each of them once. -/
structure Grows (written : List Place) (before after : Disk) : Prop where
  home : after.home = before.home
  nodes : ∀ place,
    after.tree.node? place = before.tree.node? place ∨
      (before.tree.node? place = none ∧ after.tree.node? place = some .directory) ∨
      (place ∈ written ∧ before.tree.node? place ≠ some .directory ∧
        ∃ content, after.tree.node? place = some (.file content))
  added : ∃ places, after.tree.places = before.tree.places ++ places ∧ places.Nodup ∧
    ∀ place ∈ places, place ∉ before.tree.places ∧ place ≠ []

namespace Grows

variable {written more : List Place} {before middle after : Disk} {place : Place}

theorem refl (written : List Place) (disk : Disk) : Grows written disk disk :=
  ⟨rfl, fun _ => Or.inl rfl, [], (List.append_nil _).symm, List.nodup_nil, nofun⟩

theorem mono (h : Grows written before after) (hsub : written ⊆ more) :
    Grows more before after := by
  refine ⟨h.home, fun place => ?_, h.added⟩
  rcases h.nodes place with hsame | hnew | ⟨hmem, hfile⟩
  · exact Or.inl hsame
  · exact Or.inr (Or.inl hnew)
  · exact Or.inr (Or.inr ⟨hsub hmem, hfile⟩)

theorem directory (h : Grows written before after)
    (hdir : before.tree.node? place = some .directory) :
    after.tree.node? place = some .directory := by
  rcases h.nodes place with hsame | ⟨hnone, _⟩ | ⟨_, hfile, _⟩
  · rw [hsame, hdir]
  · rw [hdir] at hnone
    cases hnone
  · exact absurd hdir hfile

theorem file (h : Grows written before after) {content : Content}
    (hfile : before.tree.node? place = some (.file content)) :
    ∃ other, after.tree.node? place = some (.file other) := by
  rcases h.nodes place with hsame | ⟨hnone, _⟩ | ⟨_, _, other, hother⟩
  · exact ⟨content, by rw [hsame, hfile]⟩
  · rw [hfile] at hnone
    cases hnone
  · exact ⟨other, hother⟩

theorem trans (h : Grows written before middle) (hmore : Grows more middle after) :
    Grows (written ++ more) before after := by
  refine ⟨hmore.home.trans h.home, fun place => ?_, ?_⟩
  · rcases hmore.nodes place with hsame | ⟨hnone, hdir⟩ | ⟨hmem, hnot, hfile⟩
    · rw [hsame]
      exact (h.mono (List.subset_append_left _ _)).nodes place
    · rcases h.nodes place with hsame | ⟨_, hdirectory⟩ | ⟨_, _, _, hfile⟩
      · exact Or.inr (Or.inl ⟨hsame ▸ hnone, hdir⟩)
      · rw [hdirectory] at hnone
        cases hnone
      · rw [hfile] at hnone
        cases hnone
    · refine Or.inr (Or.inr ⟨List.mem_append_right _ hmem, fun hdir => ?_, hfile⟩)
      exact hnot (h.directory hdir)
  · obtain ⟨first, hfirst, hnodup, hnew⟩ := h.added
    obtain ⟨second, hsecond, hnodup', hnew'⟩ := hmore.added
    rw [hfirst] at hsecond hnew'
    refine ⟨first ++ second, by rw [hsecond, List.append_assoc], ?_, fun place hplace => ?_⟩
    · refine List.nodup_append.mpr ⟨hnodup, hnodup', ?_⟩
      rintro place hin _ hin' rfl
      exact (hnew' place hin').1 (List.mem_append_right _ hin)
    · rcases List.mem_append.mp hplace with hplace | hplace
      · exact hnew place hplace
      · obtain ⟨hnot, hne⟩ := hnew' place hplace
        exact ⟨fun hin => hnot (List.mem_append_left _ hin), hne⟩

/-- What is there is left as it is at a place that is not written. -/
theorem node_of_notMem (h : Grows written before after) (hplace : place ∉ written) {node : Node}
    (hnode : before.tree.node? place = some node) : after.tree.node? place = some node := by
  rcases h.nodes place with hsame | ⟨hnone, _⟩ | ⟨hmem, _⟩
  · rw [hsame, hnode]
  · rw [hnode] at hnone
    cases hnone
  · exact absurd hmem hplace

/-- No file is new at a place that is not written. -/
theorem file_iff_of_notMem (h : Grows written before after) (hplace : place ∉ written)
    (content : Content) : after.tree.node? place = some (.file content) ↔
      before.tree.node? place = some (.file content) := by
  constructor
  · intro hfile
    rcases h.nodes place with hsame | ⟨_, hdir⟩ | ⟨hmem, _⟩
    · rw [← hsame, hfile]
    · rw [hfile] at hdir
      cases hdir
    · exact absurd hmem hplace
  · exact h.node_of_notMem hplace

/-- A disk is as before at places that are not written and at which no directory is new. -/
theorem agreeOn (h : Grows written before after) {places : List Place}
    (hplaces : ∀ place ∈ places, place ∉ written ∧
      ¬ (before.tree.node? place = none ∧ after.tree.node? place = some .directory)) :
    AgreeOn places before after := by
  refine ⟨h.home, fun place hplace => ?_⟩
  rcases h.nodes place with hsame | hnew | ⟨hmem, _⟩
  · exact hsame
  · exact absurd hnew (hplaces place hplace).2
  · exact absurd hmem (hplaces place hplace).1

end Grows

/-! ## Operations that succeed -/

variable {disk after : Disk} {path : Path} {place : Place} {content : Content}

/-- Nothing is put where a directory is, so also not at the root. -/
theorem node?_insert (h : disk.tree.node? place ≠ some .directory) (node : Node) (other : Place) :
    (disk.insert place node).tree.node? other =
      if other = place then some node else disk.tree.node? other := by
  have hroot : place ≠ [] := by
    rintro rfl
    exact h rfl
  split
  · next heq =>
    rw [heq]
    exact Tree.node?_insert_self disk.tree hroot node
  · next hne => exact Tree.node?_insert_of_ne disk.tree hne node

theorem added_insert (h : disk.tree.node? place ≠ some .directory) (node : Node) :
    ∃ places, (disk.insert place node).tree.places = disk.tree.places ++ places ∧ places.Nodup ∧
      ∀ other ∈ places, other ∉ disk.tree.places ∧ other ≠ [] := by
  have hplaces : (disk.insert place node).tree.places =
      if place ∈ disk.tree.places then disk.tree.places else disk.tree.places ++ [place] :=
    Tree.map_fst_set place node disk.tree.nodes
  by_cases hin : place ∈ disk.tree.places
  · exact ⟨[], by rw [hplaces, if_pos hin, List.append_nil], List.nodup_nil, nofun⟩
  · refine ⟨[place], by rw [hplaces, if_neg hin], by simp, ?_⟩
    rw [List.forall_mem_singleton]
    refine ⟨hin, ?_⟩
    rintro rfl
    exact h rfl

theorem grows_insert_directory (h : disk.tree.node? place = none) :
    Grows [] disk (disk.insert place .directory) := by
  refine ⟨rfl, fun other => ?_, added_insert (by simp [h]) .directory⟩
  rw [node?_insert (by simp [h])]
  split
  · next heq => exact Or.inr (Or.inl ⟨heq ▸ h, rfl⟩)
  · exact Or.inl rfl

theorem grows_insert_file (h : disk.tree.node? place ≠ some .directory) (content : Content) :
    Grows [place] disk (disk.insert place (.file content)) := by
  refine ⟨rfl, fun other => ?_, added_insert h (.file content)⟩
  rw [node?_insert h]
  split
  · next heq => exact Or.inr (Or.inr ⟨List.mem_singleton.mpr heq, heq ▸ h, content, rfl⟩)
  · exact Or.inl rfl

theorem write_eq_ok : disk.write path content = .ok after ↔
    disk.Open path ∧ path.endsInSlash = false ∧
      disk.tree.node? (disk.target path) ≠ some .directory ∧
      after = disk.insert (disk.target path) (.file content) := by
  unfold write
  rw [bind_locate_eq_ok]
  refine and_congr_right fun _ => ?_
  split
  · next hbarred =>
    refine ⟨nofun, ?_⟩
    rintro ⟨hslash, hdir, rfl⟩
    simp [hslash, hdir, Tree.isDirectory] at hbarred
  · next hfile =>
    simp only [Tree.isDirectory, not_or, Bool.not_eq_true, beq_eq_false_iff_ne] at hfile
    constructor
    · rintro ⟨⟩
      exact ⟨hfile.1, hfile.2, rfl⟩
    · rintro ⟨_, _, rfl⟩
      rfl

/-- Whether a file can be written depends on the trail alone. -/
theorem write_congr {other : Disk} (h : AgreeOn (disk.trail path) disk other) (content : Content) :
    other.write path content =
      (disk.write path content).map fun _ => other.insert (disk.target path) (.file content) := by
  unfold write
  rw [locate_congr h]
  cases hplace : disk.locate path with
  | error error => rfl
  | ok place =>
    obtain ⟨_, rfl⟩ := locate_eq_ok.mp hplace
    have hdirectory : other.tree.isDirectory (disk.target path) =
        disk.tree.isDirectory (disk.target path) := by
      rw [Tree.isDirectory, Tree.isDirectory, h.nodes _ (mem_trail_of_locate hplace)]
    simp only [Except.bind, hdirectory]
    by_cases hfile : path.endsInSlash = true ∨ disk.tree.isDirectory (disk.target path) = true
    · simp only [if_pos hfile, Except.map]
    · simp only [if_neg hfile, Except.map]

/-- There is a directory where a path leads. -/
structure HasDirectory (disk : Disk) (path : Path) : Prop extends Open disk path where
  directory : disk.tree.node? (disk.target path) = some .directory

theorem isDirectory_iff : disk.isDirectory path = true ↔ disk.HasDirectory path := by
  have hnode : disk.isDirectory path = true ↔ disk.node path = .ok .directory := by
    unfold isDirectory
    rcases disk.node path with error | content | _ <;> simp
  rw [hnode, node_eq_ok]
  constructor
  · rintro ⟨hopen, hdir, _⟩
    exact ⟨hopen, hdir⟩
  · intro h
    exact ⟨h.toOpen, h.directory, fun _ => rfl⟩

theorem makeDirectory_eq_ok : disk.makeDirectory path = .ok after ↔
    disk.Open path ∧ disk.tree.node? (disk.target path) = none ∧
      after = disk.insert (disk.target path) .directory := by
  unfold makeDirectory
  rw [bind_locate_eq_ok]
  refine and_congr_right fun _ => ?_
  cases disk.tree.node? (disk.target path) <;> simp [eq_comm]

/-- A directory is there in the end, whether it is new or not. -/
theorem ensureDirectory_eq_ok : disk.ensureDirectory path = .ok after ↔
    (disk.HasDirectory path ∧ after = disk) ∨
      (disk.Open path ∧ disk.tree.node? (disk.target path) = none ∧
        after = disk.insert (disk.target path) .directory) := by
  unfold ensureDirectory
  cases hmake : disk.makeDirectory path with
  | ok made =>
    obtain ⟨hopen, hnone, rfl⟩ := makeDirectory_eq_ok.mp hmake
    constructor
    · rintro ⟨⟩
      exact Or.inr ⟨hopen, hnone, rfl⟩
    · rintro (⟨hdir, _⟩ | ⟨_, _, rfl⟩)
      · rw [hdir.directory] at hnone
        cases hnone
      · rfl
  | error error =>
    -- where the way is open, there is something in the way of the new directory
    have hthere : ¬ (disk.Open path ∧ disk.tree.node? (disk.target path) = none) := by
      rintro ⟨hopen, hnone⟩
      rw [makeDirectory_eq_ok.mpr ⟨hopen, hnone, rfl⟩] at hmake
      cases hmake
    simp only
    split
    · next hdir =>
      constructor
      · rintro ⟨⟩
        exact Or.inl ⟨isDirectory_iff.mp hdir, rfl⟩
      · rintro (⟨_, rfl⟩ | ⟨hopen, hnone, _⟩)
        · rfl
        · exact absurd ⟨hopen, hnone⟩ hthere
    · next hnot =>
      refine ⟨nofun, ?_⟩
      rintro (⟨hdir, _⟩ | ⟨hopen, hnone, _⟩)
      · exact absurd (isDirectory_iff.mpr hdir) hnot
      · exact absurd ⟨hopen, hnone⟩ hthere

/-! ## Effects of operations -/

theorem grows_write (h : disk.write path content = .ok after) :
    Grows [disk.target path] disk after := by
  obtain ⟨_, _, hdir, rfl⟩ := write_eq_ok.mp h
  exact grows_insert_file hdir content

theorem grows_ensureDirectory (h : disk.ensureDirectory path = .ok after) :
    Grows [] disk after := by
  rcases ensureDirectory_eq_ok.mp h with ⟨_, rfl⟩ | ⟨_, hnone, rfl⟩
  · exact .refl [] _
  · exact grows_insert_directory hnone

theorem grows_makeAbove (bound : Nat) (path : Path) (disk : Disk) :
    Grows [] disk (makeAbove bound path disk).1 := by
  induction bound generalizing path disk with
  | zero => exact .refl [] disk
  | succ bound ih =>
    unfold makeAbove
    split
    · exact .refl [] disk
    · split
      · next hensure => exact grows_ensureDirectory hensure
      · next parent hensure hparent =>
        have habove := ih parent disk
        split
        · next heq =>
          rw [heq] at habove
          exact habove
        · next heq =>
          rw [heq] at habove
          split
          · next hagain => exact habove.trans (grows_ensureDirectory hagain)
          · exact habove
      · exact .refl [] disk

theorem grows_makeDirectories (disk : Disk) (path : Path) :
    Grows [] disk (disk.makeDirectories path).1 :=
  grows_makeAbove _ path disk

theorem grows_makeParents (disk : Disk) (path : Path) :
    Grows [] disk (disk.makeParents path).1 := by
  unfold makeParents
  split
  · exact .refl [] disk
  · exact grows_makeDirectories disk _

/-- The place that is written, if writing has succeeded. -/
def writtenIf {ε : Type} (disk : Disk) (path : Path) : Except ε Unit → List Place
  | .ok () => [disk.target path]
  | .error _ => []

/-- Where a path leads does not change as long as relative paths start at the same place. -/
theorem target_congr {other : Disk} (h : other.home = disk.home) (path : Path) :
    other.target path = disk.target path := by
  rw [target, target, start, start, h]

theorem spine_congr {other : Disk} (h : other.home = disk.home) (path : Path) :
    other.spine path = disk.spine path := by
  rw [spine, spine, start, start, h]

/-- A file is saved in two steps: the directories above it are made, and it is written. -/
theorem save_eq_ok : disk.save path content = (after, .ok ()) ↔
    ∃ middle, disk.makeParents path = (middle, .ok ()) ∧ middle.write path content = .ok after := by
  unfold save
  cases hparents : disk.makeParents path with
  | mk middle result =>
    cases result with
    | error error => simp
    | ok _ =>
      cases hwrite : middle.write path content with
      | error error => simp [hwrite]
      | ok final => simp [hwrite]

theorem grows_save (disk : Disk) (path : Path) (content : Content) :
    Grows (writtenIf disk path (disk.save path content).2) disk (disk.save path content).1 := by
  have hparents := grows_makeParents disk path
  unfold save
  cases hmake : disk.makeParents path with
  | mk middle result =>
    rw [hmake] at hparents
    cases result with
    | error error => exact hparents
    | ok _ =>
      simp only
      cases hwrite : middle.write path content with
      | error error => exact hparents
      | ok final =>
        have hgrows := hparents.trans (grows_write hwrite)
        rw [target_congr hparents.home] at hgrows
        exact hgrows

/-- A file is copied if it can be read and is still there when the target has been emptied. -/
theorem copy_eq_ok {source : Path} : disk.copy source path = .ok after ↔
    ∃ first emptied content, disk.read source = .ok first ∧
      disk.write path (.text "") = .ok emptied ∧ emptied.read source = .ok content ∧
      emptied.write path content = .ok after := by
  unfold copy
  cases disk.read source with
  | error error => simp [Except.bind]
  | ok first =>
    cases disk.write path (.text "") with
    | error error => simp [Except.bind]
    | ok emptied => cases hread : emptied.read source <;> simp [Except.bind, hread]

theorem grows_copy {source : Path} (h : disk.copy source path = .ok after) :
    Grows [disk.target path] disk after := by
  obtain ⟨_, emptied, _, -, hempty, -, hwrite⟩ := copy_eq_ok.mp h
  have hgrows := grows_write hempty
  have hagain := grows_write hwrite
  rw [target_congr hgrows.home] at hagain
  exact (hgrows.trans hagain).mono (by simp)

end Disk

/-! ## Effects of scripts -/

namespace Script

open Disk (writtenIf Grows)

variable {α β : Type}

/-- The places that a script writes files to, in order. -/
def written : Script α → Disk → List Place
  | .done _, _ => []
  | .read path next, disk => (next (disk.read path)).written disk
  | .look path next, disk => (next (disk.look path)).written disk
  | .write path content next, disk =>
    let (after, answer) := settle disk (disk.write path content)
    writtenIf disk path answer ++ (next answer).written after
  | .save path content next, disk =>
    let (after, answer) := disk.save path content
    writtenIf disk path answer ++ (next answer).written after
  | .makeDirectories path next, disk =>
    let (after, answer) := disk.makeDirectories path
    (next answer).written after
  | .copy source target next, disk =>
    let (after, answer) := settle disk (disk.copy source target)
    writtenIf disk target answer ++ (next answer).written after

/-- Whether a script saves all files that it wants to save. -/
def savesAll : Script α → Disk → Bool
  | .done _, _ => true
  | .read path next, disk => (next (disk.read path)).savesAll disk
  | .look path next, disk => (next (disk.look path)).savesAll disk
  | .write path content next, disk =>
    let (after, answer) := settle disk (disk.write path content)
    (next answer).savesAll after
  | .save path content next, disk =>
    let (after, answer) := disk.save path content
    answer.isOk && (next answer).savesAll after
  | .makeDirectories path next, disk =>
    let (after, answer) := disk.makeDirectories path
    (next answer).savesAll after
  | .copy source target next, disk =>
    let (after, answer) := settle disk (disk.copy source target)
    (next answer).savesAll after

theorem grows_settle {disk : Disk} {path : Path} {result : Except FileError Disk}
    (h : ∀ after, result = .ok after → Grows [disk.target path] disk after) :
    Grows (writtenIf disk path (settle disk result).2) disk (settle disk result).1 := by
  cases result with
  | error error => exact .refl _ disk
  | ok after => exact h after rfl

/-- A script changes a disk by making directories and by writing the files that it writes. -/
theorem grows_run (script : Script α) (disk : Disk) :
    Grows (script.written disk) disk (script.run disk).1 := by
  induction script generalizing disk with
  | done result => exact .refl [] disk
  | read path next ih => exact ih _ disk
  | look path next ih => exact ih _ disk
  | write path content next ih =>
    exact (grows_settle fun _ => Disk.grows_write).trans (ih _ _)
  | save path content next ih => exact (Disk.grows_save disk path content).trans (ih _ _)
  | makeDirectories path next ih => exact (Disk.grows_makeDirectories disk path).trans (ih _ _)
  | copy source target next ih =>
    exact (grows_settle fun _ => Disk.grows_copy).trans (ih _ _)

theorem written_bind (script : Script α) (next : α → Script β) (disk : Disk) :
    (script.bind next).written disk =
      script.written disk ++ (next (script.run disk).2).written (script.run disk).1 := by
  induction script generalizing disk with
  | done result => rfl
  | read path go ih => exact ih _ disk
  | look path go ih => exact ih _ disk
  | write path content go ih => simp only [bind, written, run, ih, List.append_assoc]
  | save path content go ih => simp only [bind, written, run, ih, List.append_assoc]
  | makeDirectories path go ih => simp only [bind, written, run, ih]
  | copy source target go ih => simp only [bind, written, run, ih, List.append_assoc]

theorem savesAll_bind (script : Script α) (next : α → Script β) (disk : Disk) :
    (script.bind next).savesAll disk =
      (script.savesAll disk && (next (script.run disk).2).savesAll (script.run disk).1) := by
  induction script generalizing disk with
  | done result => simp [bind, savesAll, run]
  | read path go ih => exact ih _ disk
  | look path go ih => exact ih _ disk
  | write path content go ih => simp only [bind, savesAll, run, ih]
  | save path content go ih => simp only [bind, savesAll, run, ih, Bool.and_assoc]
  | makeDirectories path go ih => simp only [bind, savesAll, run, ih]
  | copy source target go ih => simp only [bind, savesAll, run, ih]

/-! ## Scripts one after another -/

variable (script : Script α) (rest : List (Script α)) (disk : Disk)

theorem run_all_cons : (all (script :: rest)).run disk =
    (((all rest).run (script.run disk).1).1,
      (script.run disk).2 :: ((all rest).run (script.run disk).1).2) := by
  rw [all, run_bind, run_bind]
  rfl

theorem written_all_cons : (all (script :: rest)).written disk =
    script.written disk ++ (all rest).written (script.run disk).1 := by
  rw [all, written_bind, written_bind]
  simp [written]

theorem savesAll_all_cons : (all (script :: rest)).savesAll disk =
    (script.savesAll disk && (all rest).savesAll (script.run disk).1) := by
  rw [all, savesAll_bind, savesAll_bind]
  simp [savesAll]

end Script

end SchemaBundle.Files
