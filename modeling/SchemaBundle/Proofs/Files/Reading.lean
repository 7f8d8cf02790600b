import SchemaBundle.Proofs.Files.Siblings

/-!
# Files that are read back

A file that has been saved can be read. It can be read for good: what is done later may replace the
file, but takes neither it nor its way away. And a file whose path is a name in a directory is
directly in that directory, wherever this is.

* `Disk.read_eq_ok`: when a file can be read
* `Disk.Grows.read_of_notMem`: a file that is not written again holds what it held
* `Disk.locate_join`: where a name in a directory leads
-/

namespace SchemaBundle

namespace Files.Disk

variable {disk before after : Disk} {path directory : Path} {content : Content} {name : String}

/-! ## Reading -/

/-- A file is read if the way of its path is open and there is a file where it leads. -/
theorem read_eq_ok : disk.read path = .ok content ↔
    disk.Open path ∧ path.endsInSlash = false ∧
      disk.tree.node? (disk.target path) = some (.file content) := by
  have hread : disk.read path = .ok content ↔ disk.node path = .ok (.file content) := by
    unfold read
    rcases disk.node path with error | other | _ <;> simp [Except.bind]
  rw [hread, node_eq_ok]
  refine and_congr_right fun _ => ?_
  rw [and_comm]
  cases path.endsInSlash <;> simp

/-- A file that has been saved holds what was saved. -/
theorem read_of_save (h : disk.save path content = (after, .ok ())) :
    after.read path = .ok content := by
  obtain ⟨hsound, hslash, _, hsaves⟩ := saves_of_save h
  refine read_eq_ok.mpr ⟨⟨hsound, fun place hplace => hsaves.spine place ?_⟩, hslash, ?_⟩
  · rwa [spine_congr hsaves.home] at hplace
  · rw [target_congr hsaves.home]
    exact hsaves.file

namespace Grows

variable {written : List Place}

theorem isOpen (h : Grows written before after) (hopen : before.Open path) : after.Open path := by
  refine ⟨hopen.sound, fun place hplace => h.directory (hopen.spine place ?_)⟩
  rwa [spine_congr h.home] at hplace

/-- What could be read can be read later. -/
theorem read (h : Grows written before after) (hread : before.read path = .ok content) :
    ∃ other, after.read path = .ok other := by
  obtain ⟨hopen, hslash, hnode⟩ := read_eq_ok.mp hread
  obtain ⟨other, hother⟩ := h.file hnode
  refine ⟨other, read_eq_ok.mpr ⟨h.isOpen hopen, hslash, ?_⟩⟩
  rwa [target_congr h.home]

/-- A file that is not written again holds what it held. -/
theorem read_of_notMem (h : Grows written before after) (hnot : before.target path ∉ written)
    (hread : before.read path = .ok content) : after.read path = .ok content := by
  obtain ⟨hopen, hslash, hnode⟩ := read_eq_ok.mp hread
  refine read_eq_ok.mpr ⟨h.isOpen hopen, hslash, ?_⟩
  rw [target_congr h.home]
  exact h.node_of_notMem hnot hnode

end Grows

/-- A file that can be read and whose path is a name in a directory is directly in it. -/
theorem locate_join (h : Path.IsFileName name)
    (hread : disk.read (directory.join ⟨name⟩) = .ok content) :
    disk.locate (directory.join ⟨name⟩) = .ok (name :: disk.target directory) ∧
      disk.tree.node? (disk.target directory) = some .directory := by
  obtain ⟨hopen, -, -⟩ := read_eq_ok.mp hread
  refine ⟨locate_eq_ok.mpr ⟨hopen, (target_join disk directory h).symm⟩, hopen.spine _ ?_⟩
  rw [spine_join disk directory h]
  exact List.mem_append_right _ List.mem_cons_self

end Files.Disk

end SchemaBundle
