import SchemaBundle.Proofs.Files.Directories

/-!
# Saving files

Saving a file makes the places on its way directories, writes the file, and changes nothing else.
Whether it succeeds depends on the directories and files that are there; with fewer of them it
succeeds as well.

* `Disk.saves_of_save`: what has changed when a file has been saved
* `Disk.save_mono`: a file that can be saved on a disk can be saved on one with less on it
* `Disk.save_remove`: so it can be saved when something has been removed
-/

namespace SchemaBundle.Files

/-- Dots at the end lead to a place that is already on the way. -/
theorem Place.walk_mem_spine_of_dots {place : Place} {names more : List String} (hne : more ≠ [])
    (hdots : ∀ name ∈ more, name = ".") :
    place.walk (names ++ more) ∈ place.spine (names ++ more) := by
  obtain ⟨name, rest, rfl⟩ := List.exists_cons_of_ne_nil hne
  rw [walk_append, walk_of_dots hdots, spine_append]
  exact List.mem_append_right _ List.mem_cons_self

namespace Disk

variable {disk : Disk} {path parent : Path}

/-- A file is saved: the places on its way become directories, and nothing else changes. -/
structure Saves (path : Path) (content : Content) (before after : Disk) : Prop where
  home : after.home = before.home
  file : after.tree.node? (before.target path) = some (.file content)
  spine : ∀ place ∈ before.spine path, after.tree.node? place = some .directory
  other : ∀ place, place ≠ before.target path → place ∉ before.spine path →
    after.tree.node? place = before.tree.node? place

theorem makes_of_makeParents {after : Disk} (h : disk.makeParents path = (after, .ok ())) :
    after.home = disk.home ∧
      ∀ place, place ∉ disk.spine path → after.tree.node? place = disk.tree.node? place := by
  unfold makeParents at h
  split at h
  · cases h
    exact ⟨rfl, fun _ _ => rfl⟩
  · next parent hparent =>
    cases hmake : disk.makeDirectories parent with
    | mk middle result =>
      rw [hmake] at h
      cases result with
      | error error => cases h
      | ok _ =>
        cases h
        have hmaking := makeDirectories_iff.mp hmake
        refine ⟨hmaking.home, fun place hplace => hmaking.other fun hin => hplace ?_⟩
        exact route_parent_subset (Path.isParent_of_parent? hparent) hin

theorem saves_of_save {content : Content} {after : Disk}
    (h : disk.save path content = (after, .ok ())) :
    path.Sound ∧ path.endsInSlash = false ∧ disk.tree.node? (disk.target path) ≠ some .directory ∧
      Saves path content disk after := by
  obtain ⟨middle, hparents, hwrite⟩ := save_eq_ok.mp h
  obtain ⟨hopen, hslash, hnot, rfl⟩ := write_eq_ok.mp hwrite
  obtain ⟨hhome, hother⟩ := makes_of_makeParents hparents
  have hgrows := grows_makeParents disk path
  rw [hparents] at hgrows
  have htarget := target_congr hhome path
  have hspine := spine_congr hhome path
  have hnode := node?_insert hnot (.file content)
  rw [htarget] at hnot hnode ⊢
  refine ⟨hopen.sound, hslash, fun hdir => hnot (hgrows.directory hdir), hhome, ?_, ?_, ?_⟩
  · rw [hnode, if_pos rfl]
  · intro place hplace
    have hdir := hopen.spine place (hspine ▸ hplace)
    rw [hnode, if_neg, hdir]
    rintro rfl
    exact hnot hdir
  · intro place hne hplace
    rw [hnode, if_neg hne, hother place hplace]

/-- A file can be saved if its path starts at a directory, no file stands in its way, and it is not
itself on its way or a directory. -/
theorem save_of_clear (content : Content) (hsound : path.Sound) (hslash : path.endsInSlash = false)
    (hstart : disk.tree.node? (disk.start path) = some .directory)
    (hclear : ∀ place ∈ disk.spine path, ∀ content, disk.tree.node? place ≠ some (.file content))
    (hnot : disk.tree.node? (disk.target path) ≠ some .directory)
    (hspine : disk.target path ∉ disk.spine path) :
    ∃ after, disk.save path content = (after, .ok ()) := by
  cases hparent : path.parent? with
  | none =>
    rw [target, Place.walk_of_dots (Path.eq_dot_of_parent?_eq_none hparent)] at hnot
    exact absurd hstart hnot
  | some parent =>
    have hisParent := Path.isParent_of_parent? hparent
    obtain ⟨idle, last, more, hnames, hidle, hmore⟩ := hisParent.names
    -- dots after the last name would put the target on the way
    have hnil : more = [] := by
      by_contra hne
      refine hspine ?_
      have hsplit : path.names = (parent.names ++ (idle ++ [last])) ++ more := by simp [hnames]
      rw [target, spine, hsplit]
      exact Place.walk_mem_spine_of_dots hne hmore
    subst hnil
    have hsubset : disk.spine path ⊆ disk.route parent :=
      spine_subset_route_parent hisParent hnames hidle
    have hmade : (disk.makeDirectories parent).2 = .ok () := by
      cases hempty : parent.text.isEmpty with
      | true => rw [makeDirectories_iff.mpr (.empty hempty)]
      | false =>
        exact (making_makeDirectories disk parent).eq_ok_of_clear (hisParent.sound hsound hempty)
          (Path.isTrimmed_of_parent? hparent) (start_congr hisParent ▸ hstart)
          fun place hplace => hclear place (route_parent_subset hisParent hplace)
    have hmakes : Disk.Makes (disk.route parent) disk (disk.makeDirectories parent).1 :=
      Making.makes_of_start (hmade ▸ making_makeDirectories disk parent)
        (start_congr hisParent ▸ hstart)
    have hparents : disk.makeParents path = ((disk.makeDirectories parent).1, .ok ()) := by
      unfold makeParents
      simp only [hparent, hmade]
      rfl
    obtain ⟨hhome, hother⟩ := makes_of_makeParents hparents
    refine ⟨_, save_eq_ok.mpr ⟨_, hparents, write_eq_ok.mpr ⟨⟨hsound, fun above ha => ?_⟩,
      hslash, ?_, rfl⟩⟩⟩
    · rw [spine_congr hhome] at ha
      exact hmakes.directory above (hsubset ha)
    · rw [target_congr hhome, hother _ hspine]
      exact hnot

/-! ## Disks with less on them -/

/-- A disk with no more on it than another: its directories are directories there, its files
files. -/
structure Within (disk other : Disk) : Prop where
  home : other.home = disk.home
  directory : ∀ place, disk.tree.node? place = some .directory →
    other.tree.node? place = some .directory
  file : ∀ place content, disk.tree.node? place = some (.file content) →
    ∃ content, other.tree.node? place = some (.file content)

theorem Grows.within {written : List Place} {before after : Disk}
    (h : Grows written before after) : Within before after :=
  ⟨h.home, fun _ => h.directory, fun _ _ => h.file⟩

/-- The same file saved on both keeps a disk within another. -/
theorem Within.saves {other saved after : Disk} {content : Content} (h : Within disk other)
    (hsaved : Saves path content disk saved) (hafter : Saves path content other after) :
    Within saved after := by
  have htarget := target_congr h.home path
  have hspine := spine_congr h.home path
  have hfile := hafter.file
  rw [htarget] at hfile
  have hother (place : Place) (hne : place ≠ disk.target path) (hin : place ∉ disk.spine path) :
      after.tree.node? place = other.tree.node? place :=
    hafter.other place (htarget ▸ hne) (hspine ▸ hin)
  refine ⟨by rw [hafter.home, h.home, hsaved.home], fun place hdir => ?_,
    fun place content' hbefore => ?_⟩
  · by_cases hin : place ∈ disk.spine path
    · exact hafter.spine place (hspine ▸ hin)
    · by_cases hne : place = disk.target path
      · rw [hne, hsaved.file] at hdir
        cases hdir
      · rw [hsaved.other place hne hin] at hdir
        rw [hother place hne hin]
        exact h.directory place hdir
  · by_cases hin : place ∈ disk.spine path
    · rw [hsaved.spine place hin] at hbefore
      cases hbefore
    · by_cases hne : place = disk.target path
      · exact ⟨content, by rw [hne]; exact hfile⟩
      · rw [hsaved.other place hne hin] at hbefore
        rw [hother place hne hin]
        exact h.file place content' hbefore

/-- A file that can be saved can be saved on a disk with less on it, and this leaves less on it. -/
theorem save_mono {other after : Disk} {content : Content} (h : Within disk other)
    (hhome : disk.tree.node? disk.home = some .directory)
    (hsave : other.save path content = (after, .ok ())) :
    ∃ saved, disk.save path content = (saved, .ok ()) ∧ Within saved after := by
  obtain ⟨hsound, hslash, hnot, hsaves⟩ := saves_of_save hsave
  have hgrows := grows_save other path content
  rw [hsave] at hgrows
  have htarget := target_congr h.home path
  have hspine := spine_congr h.home path
  have hstart : disk.tree.node? (disk.start path) = some .directory := by
    rw [start]
    split
    · rfl
    · exact hhome
  rw [htarget] at hnot
  have hclear : ∀ place ∈ disk.spine path, ∀ content,
      disk.tree.node? place ≠ some (.file content) := by
    intro place hplace content hbefore
    obtain ⟨_, hmiddle⟩ := h.file place content hbefore
    obtain ⟨_, hlater⟩ := hgrows.file hmiddle
    rw [hsaves.spine place (hspine ▸ hplace)] at hlater
    cases hlater
  have htargetSpine : disk.target path ∉ disk.spine path := by
    intro hin
    have hfile := hsaves.file
    rw [htarget, hsaves.spine _ (hspine ▸ hin)] at hfile
    cases hfile
  obtain ⟨saved, hsaved⟩ := save_of_clear content hsound hslash hstart hclear
    (fun hdir => hnot (h.directory _ hdir)) htargetSpine
  obtain ⟨_, _, _, hsaves'⟩ := saves_of_save hsaved
  exact ⟨saved, hsaved, h.saves hsaves' hsaves⟩

theorem within_remove (disk : Disk) (place : Place) :
    Within { disk with tree := disk.tree.remove place } disk :=
  ⟨rfl, fun _ => Tree.node?_of_remove, fun _ content h => ⟨content, Tree.node?_of_remove h⟩⟩

/-- What is removed between two builds, files or whole directories, keeps no file from being saved
that could be saved before, as long as relative paths have a directory to start at. -/
theorem save_remove {after : Disk} {content : Content} {place : Place}
    (hhome : (disk.tree.remove place).node? disk.home = some .directory)
    (h : disk.save path content = (after, .ok ())) :
    ∃ saved, Disk.save { disk with tree := disk.tree.remove place } path content =
      (saved, .ok ()) ∧ Within saved after :=
  save_mono (within_remove disk place) hhome h

end Disk

end SchemaBundle.Files
