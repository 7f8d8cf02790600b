import SchemaBundle.Copying
import SchemaBundle.Proofs.Files.Reading

/-!
# Where scripts write

A script writes within some places if it writes to no others, on a disk and on all disks that this
one grows into. Copying a tree writes only to the copies of its files. Which files these are is said
of the disk in the end, because a tree may grow while it is copied, also by the copying itself.

* `Script.WritesWithin`: where a script writes, and how this goes together in a sequence
* `Task.writesWithin_copyTree`: where a tree is copied to
-/

namespace SchemaBundle

namespace Files

/-! ## Directories and their names -/

theorem Tree.mem_namesIn {tree : Tree} {directory : Place} {name : String} :
    name ∈ tree.namesIn directory ↔ name :: directory ∈ tree.places := by
  have hname (place : Place) : nameIn? directory place = some name ↔ place = name :: directory := by
    cases place with
    | nil => simp [nameIn?]
    | cons first above => grind [nameIn?]
  rw [namesIn, List.mem_mergeSort, List.mem_filterMap, places, List.mem_map]
  simp only [hname]

namespace Disk

variable {disk before after : Disk} {root path place relative : Path} {written : List Place}

/-- What a path leads to is known from what stands there. -/
theorem look_eq (disk : Disk) (path : Path) : disk.look path =
    (disk.node path).map fun node =>
      match node with
      | .file _ => .file
      | .directory => .directory (disk.tree.namesIn (disk.target path)) := by
  unfold look
  cases hplace : disk.locate path with
  | error error =>
    rw [node, hplace]
    rfl
  | ok place =>
    obtain ⟨-, rfl⟩ := locate_eq_ok.mp hplace
    rfl

theorem look_eq_directory {names : List String} : disk.look path = .ok (.directory names) ↔
    disk.HasDirectory path ∧ names = disk.tree.namesIn (disk.target path) := by
  rw [← isDirectory_iff, isDirectory, look_eq]
  rcases disk.node path with error | content | _ <;> simp [Except.map, eq_comm]

theorem read_of_look_eq_file (h : disk.look path = .ok .file) :
    ∃ content, disk.read path = .ok content := by
  rw [look_eq] at h
  rw [read]
  rcases hnode : disk.node path with error | content | _ <;> rw [hnode] at h
  · cases h
  · exact ⟨content, rfl⟩
  · cases h

/-- A directory stays one, and keeps its names. -/
theorem Grows.look_directory (h : Grows written before after) {names : List String}
    (hlook : before.look path = .ok (.directory names)) :
    ∃ more, after.look path = .ok (.directory more) ∧ names ⊆ more := by
  obtain ⟨hdirectory, rfl⟩ := look_eq_directory.mp hlook
  have hthere : after.HasDirectory path := by
    refine ⟨h.isOpen hdirectory.toOpen, ?_⟩
    rw [target_congr h.home]
    exact h.directory hdirectory.directory
  refine ⟨_, look_eq_directory.mpr ⟨hthere, rfl⟩, fun name hname => ?_⟩
  obtain ⟨added, hplaces, -⟩ := h.added
  rw [Tree.mem_namesIn, target_congr h.home, hplaces]
  exact List.mem_append_left _ (Tree.mem_namesIn.mp hname)

/-- The paths in the tree below a path, with what they are when they are seen from there. -/
inductive Below (disk : Disk) (root : Path) : Path → Path → Prop where
  | root : Below disk root root ⟨""⟩
  | entry {place relative : Path} {names : List String} {name : String}
      (h : Below disk root place relative) (hlook : disk.look place = .ok (.directory names))
      (hname : name ∈ names) : Below disk root (place.join ⟨name⟩) (relative.join ⟨name⟩)

theorem Below.grows (h : Below before root place relative) (hgrows : Grows written before after) :
    Below after root place relative := by
  induction h with
  | root => exact .root
  | entry _ hlook hname ih =>
    obtain ⟨more, hmore, hsubset⟩ := hgrows.look_directory hlook
    exact .entry ih hmore (hsubset hname)

/-- What the files in the tree below a path are when they are seen from there. -/
def HoldsBelow (disk : Disk) (root relative : Path) : Prop :=
  ∃ place content, Below disk root place relative ∧ disk.read place = .ok content

theorem HoldsBelow.grows (h : HoldsBelow before root relative)
    (hgrows : Grows written before after) : HoldsBelow after root relative := by
  obtain ⟨place, content, hbelow, hread⟩ := h
  obtain ⟨other, hother⟩ := hgrows.read hread
  exact ⟨place, other, hbelow.grows hgrows, hother⟩

end Disk

/-! ## Scripts -/

namespace Script

open Disk (Grows)

variable {α β : Type} {allowed : Disk → Place → Prop} {disk middle last : Disk}
  {written more : List Place} {path : Path}

/-- Places that are allowed on a disk are allowed on each disk that it grows into. -/
def Persists (allowed : Disk → Place → Prop) : Prop :=
  ∀ written before after, Grows written before after →
    ∀ place, allowed before place → allowed after place

/-- On a disk and on those that it grows into, a script writes only to places that are allowed on
the disk that it leaves. -/
def WritesWithin (allowed : Disk → Place → Prop) (disk : Disk) (script : Script α) : Prop :=
  ∀ written middle, Grows written disk middle →
    ∀ place ∈ script.written middle, allowed (script.run middle).1 place

theorem WritesWithin.later {script : Script α} (h : WritesWithin allowed disk script)
    (hgrows : Grows written disk middle) : WritesWithin allowed middle script :=
  fun _ _ hmore => h _ _ (hgrows.trans hmore)

theorem writesWithin_done (result : α) : WritesWithin allowed disk (.done result) :=
  fun _ _ _ => nofun

theorem WritesWithin.bind (hallowed : Persists allowed) {script : Script α} {next : α → Script β}
    (h : WritesWithin allowed disk script)
    (hnext : ∀ written middle, Grows written disk middle →
      WritesWithin allowed (script.run middle).1 (next (script.run middle).2)) :
    WritesWithin allowed disk (script.bind next) := by
  intro written middle hgrows place hplace
  rw [written_bind] at hplace
  rw [run_bind]
  rcases List.mem_append.mp hplace with hplace | hplace
  · exact hallowed _ _ _ (grows_run _ _) place (h _ _ hgrows place hplace)
  · exact hnext _ _ hgrows _ _ (.refl [] _) place hplace

theorem writesWithin_read {next : Except FileError Content → Script α}
    (h : ∀ answer, WritesWithin allowed disk (next answer)) :
    WritesWithin allowed disk (.read path next) :=
  fun _ _ hgrows => h _ _ _ hgrows

theorem writesWithin_look {next : Except FileError Found → Script α}
    (h : ∀ written middle, Grows written disk middle →
      WritesWithin allowed middle (next (middle.look path))) :
    WritesWithin allowed disk (.look path next) :=
  fun _ _ hgrows => h _ _ hgrows _ _ (.refl [] _)

theorem writesWithin_makeDirectories {next : Except FileError Unit → Script α}
    (h : ∀ answer, WritesWithin allowed disk (next answer)) :
    WritesWithin allowed disk (.makeDirectories path next) :=
  fun _ _ hgrows => h _ _ _ (hgrows.trans (Disk.grows_makeDirectories _ path))

/-- A place that is allowed is still allowed when it has been written. -/
theorem allowed_of_mem_writtenIf (hallowed : Persists allowed)
    (hplace : allowed disk (disk.target path)) (hgrows : Grows written disk middle)
    (hmore : Grows more middle last) {ε : Type} {answer : Except ε Unit} {place : Place}
    (hin : place ∈ Disk.writtenIf middle path answer) : allowed last place := by
  rcases answer with error | _
  · cases hin
  · rw [List.mem_singleton.mp hin, Disk.target_congr hgrows.home]
    exact hallowed _ _ _ (hgrows.trans hmore) _ hplace

theorem writesWithin_save {content : Content} {next : Except SaveError Unit → Script α}
    (hallowed : Persists allowed) (hplace : allowed disk (disk.target path))
    (h : ∀ answer, WritesWithin allowed disk (next answer)) :
    WritesWithin allowed disk (.save path content next) := by
  intro written middle hgrows place hin
  have hsaved := Disk.grows_save middle path content
  rcases List.mem_append.mp hin with hin | hin
  · exact allowed_of_mem_writtenIf hallowed hplace hgrows (hsaved.trans (grows_run _ _)) hin
  · exact h _ _ _ (hgrows.trans hsaved) place hin

theorem writesWithin_copy {source : Path} {next : Except FileError Unit → Script α}
    (hallowed : Persists allowed) (hplace : allowed disk (disk.target path))
    (h : ∀ answer, WritesWithin allowed disk (next answer)) :
    WritesWithin allowed disk (.copy source path next) := by
  intro written middle hgrows place hin
  have hcopied : Grows _ middle (settle middle (middle.copy source path)).1 :=
    grows_settle fun _ => Disk.grows_copy
  rcases List.mem_append.mp hin with hin | hin
  · exact allowed_of_mem_writtenIf hallowed hplace hgrows (hcopied.trans (grows_run _ _)) hin
  · exact h _ _ _ (hgrows.trans hcopied) place hin

theorem writesWithin_all (hallowed : Persists allowed) {scripts : List (Script α)}
    (h : ∀ script ∈ scripts, WritesWithin allowed disk script) :
    WritesWithin allowed disk (all scripts) := by
  induction scripts with
  | nil => exact writesWithin_done _
  | cons script rest ih =>
    obtain ⟨hscript, hrest⟩ := List.forall_mem_cons.mp h
    refine hscript.bind hallowed fun _ _ hgrows => ?_
    refine WritesWithin.bind hallowed ((ih hrest).later (hgrows.trans (grows_run _ _)))
      fun _ _ _ => writesWithin_done _

end Script

end Files

/-! ## Tasks -/

namespace Task

open Files (Content Disk Place Script)
open Files.Script (Persists WritesWithin writesWithin_done)

variable {α β : Type} {allowed : Disk → Place → Prop} {disk : Disk}

theorem writesWithin_bind (hallowed : Persists allowed) {task : Task α} {next : α → Task β}
    (h : WritesWithin allowed disk task.run)
    (hnext : ∀ value, WritesWithin allowed disk (next value).run) :
    WritesWithin allowed disk (task >>= next).run := by
  refine WritesWithin.bind hallowed h fun written middle hgrows => ?_
  have hlater := hgrows.trans (task.run.grows_run middle)
  change WritesWithin allowed _ (ExceptT.bindCont next (task.run.run middle).2)
  cases (task.run.run middle).2 with
  | error failure => exact writesWithin_done _
  | ok value => exact (hnext value).later hlater

theorem writesWithin_saveText (hallowed : Persists allowed) {directory : Path} {name : String}
    (hplace : allowed disk (disk.target (directory.join ⟨name⟩))) (text : String) :
    WritesWithin allowed disk (saveText directory name text).run :=
  Script.writesWithin_save hallowed hplace fun _ => writesWithin_done _

theorem writesWithin_concat (hallowed : Persists allowed) {tasks : List (Task (List α))}
    (h : ∀ task ∈ tasks, WritesWithin allowed disk task.run) :
    WritesWithin allowed disk (concat tasks).run := by
  induction tasks with
  | nil => exact writesWithin_done _
  | cons task rest ih =>
    obtain ⟨htask, hrest⟩ := List.forall_mem_cons.mp h
    refine writesWithin_bind hallowed htask fun first => ?_
    exact writesWithin_bind hallowed (ih hrest) fun _ => writesWithin_done _

/-- What is below a place of a tree is copied to the places that it has seen from the root. -/
theorem writesWithin_copyBelow (hallowed : Persists allowed) {root target : Path}
    (h : ∀ disk relative, disk.HoldsBelow root relative →
      allowed disk (disk.target (target.join relative)))
    {bound : Nat} {place relative : Path} (hbelow : disk.Below root place relative) :
    WritesWithin allowed disk (copyBelow root target bound place relative).run := by
  induction bound generalizing disk place relative with
  | zero => exact writesWithin_done _
  | succ bound ih =>
    refine Script.writesWithin_look fun written middle hgrows => ?_
    -- the disk may have grown since the names of the directory were seen, but the place is there
    have hthere := hbelow.grows hgrows
    cases hlook : middle.look place with
    | error error => exact writesWithin_done _
    | ok found =>
      cases found with
      | file =>
        obtain ⟨content, hread⟩ := Disk.read_of_look_eq_file hlook
        have hplace := h middle relative ⟨place, content, hthere, hread⟩
        exact Script.writesWithin_copy hallowed hplace fun answer => by
          cases answer <;> exact writesWithin_done _
      | directory names =>
        refine Script.writesWithin_makeDirectories fun answer => ?_
        cases answer with
        | error error => exact writesWithin_done _
        | ok _ =>
          refine writesWithin_concat hallowed fun task htask => ?_
          obtain ⟨name, hname, rfl⟩ := List.mem_map.mp htask
          exact ih (.entry hthere hlook hname)

theorem writesWithin_copyTree (hallowed : Persists allowed) {source target : Path}
    (h : ∀ disk relative, disk.HoldsBelow source relative →
      allowed disk (disk.target (target.join relative))) :
    WritesWithin allowed disk (copyTree source target).run :=
  writesWithin_copyBelow hallowed h .root

end Task

end SchemaBundle
