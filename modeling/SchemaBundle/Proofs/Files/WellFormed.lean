import SchemaBundle.Proofs.Files.Siblings

/-!
# Well-formed trees of files

A tree says what stands at which place, and nothing keeps it from listing a place twice, or one
without a directory above it. A well-formed tree does neither. Files and directories are only put
where the way of a path leads, directly in a directory and under a name, and never in the place of a
directory; so whatever a script does, a tree stays well-formed.

* `Tree.WellFormed.insert`: putting something into a directory
* `Disk.Open.exists_eq_cons`: where the way of a path leads, if not to a directory
* `Script.wellFormed_run`: scripts keep trees well-formed
-/

namespace SchemaBundle

namespace Path

variable {path : Path} {name : String}

instance (name : String) : Decidable (IsFileName name) :=
  decidable_of_iff ('/' ∉ name.toList ∧ name ≠ "" ∧ name ≠ "." ∧ name ≠ "..")
    ⟨fun h => ⟨h.1, h.2.1, h.2.2.1, h.2.2.2⟩, fun h => ⟨h.1, h.2, h.3, h.4⟩⟩

/-- A name of a path that is no dots names a file. -/
theorem isFileName_of_mem_names (h : name ∈ path.names) (hdot : name ≠ ".") (hup : name ≠ "..") :
    IsFileName name := by
  obtain ⟨part, hpart, rfl⟩ := List.mem_map.mp h
  obtain ⟨hsplit, hne⟩ := List.mem_filter.mp hpart
  refine ⟨?_, ?_, hdot, hup⟩
  · rw [String.toList_ofList]
    exact notMem_of_mem_splitSlashes hsplit
  · intro hempty
    have hnil : part = [] := by simpa using congrArg String.toList hempty
    rw [hnil] at hne
    cases hne

/-- A path without names is empty, or all slashes. -/
theorem isAbsolute_of_names_eq_nil (hne : path.text.isEmpty = false) (h : path.names = []) :
    path.isAbsolute = true := by
  rw [names, List.map_eq_nil_iff, List.filter_eq_nil_iff] at h
  cases htext : path.text.toList with
  | nil =>
    have hempty : path.text = "" := String.toList_injective htext
    rw [hempty] at hne
    cases hne
  | cons c rest =>
    rw [isAbsolute, htext, List.head?_cons, beq_iff_eq]
    by_contra hslash
    have hc : c ≠ '/' := fun hc => hslash (congrArg some hc)
    -- the first part starts with the first character, so it is not empty
    have hpart : ∃ part ∈ splitSlashes (c :: rest), part.isEmpty = false := by
      rw [splitSlashes, if_neg hc]
      split
      · exact ⟨[c], List.mem_cons_self, rfl⟩
      · next part parts _ => exact ⟨c :: part, List.mem_cons_self, rfl⟩
    obtain ⟨part, hmem, hfull⟩ := hpart
    exact h part (htext ▸ hmem) (by rw [hfull]; rfl)

end Path

namespace Files

/-! ## Trees -/

namespace Tree

variable {tree : Tree} {name : String} {place above : Place} {node : Node}

/-- A place is the name of something in a directory. -/
def IsEntry (tree : Tree) : Place → Prop
  | [] => False
  | name :: above => Path.IsFileName name ∧ tree.node? above = some .directory

instance (tree : Tree) : DecidablePred tree.IsEntry
  | [] => isFalse id
  | name :: above => inferInstanceAs
    (Decidable (Path.IsFileName name ∧ tree.node? above = some .directory))

/-- A tree lists each place once, and only places that are in a directory of it. -/
structure WellFormed (tree : Tree) : Prop where
  nodup : tree.places.Nodup
  entries : ∀ place ∈ tree.places, tree.IsEntry place

instance (tree : Tree) : Decidable tree.WellFormed :=
  decidable_of_iff (tree.places.Nodup ∧ ∀ place ∈ tree.places, tree.IsEntry place)
    ⟨fun h => ⟨h.1, h.2⟩, fun h => ⟨h.1, h.2⟩⟩

namespace WellFormed

/-- What is there has a directory above it, and a name in it. -/
theorem isEntry (h : tree.WellFormed) (hnode : tree.node? (name :: above) ≠ none) :
    tree.IsEntry (name :: above) :=
  h.entries _ ((mem_places_iff (List.cons_ne_nil _ _)).mpr hnode)

theorem directory_tail (h : tree.WellFormed) (hdir : tree.node? place = some .directory) :
    tree.node? place.tail = some .directory := by
  cases place with
  | nil => exact hdir
  | cons name above =>
    have hnode : tree.node? (name :: above) ≠ none := by
      rw [hdir]
      exact nofun
    exact (h.isEntry hnode).2

/-- Whatever something is below is a directory. -/
theorem directory_of_append (h : tree.WellFormed) {names : List String} (hne : names ≠ [])
    (hnode : tree.node? (names ++ place) ≠ none) : tree.node? place = some .directory := by
  induction names with
  | nil => exact absurd rfl hne
  | cons name rest ih =>
    have habove : tree.node? (rest ++ place) = some .directory := (h.isEntry hnode).2
    by_cases hrest : rest = []
    · rwa [hrest] at habove
    · exact ih hrest (by rw [habove]; exact nofun)

/-- Whatever is there has a path of names that lead to it. -/
theorem isFileName_of_append (h : tree.WellFormed) {names : List String}
    (hnode : tree.node? (names ++ place) ≠ none) : ∀ name ∈ names, Path.IsFileName name := by
  induction names with
  | nil => exact nofun
  | cons name rest ih =>
    obtain ⟨hname, habove⟩ := h.isEntry hnode
    have hrest : tree.node? (rest ++ place) ≠ none := fun hnone => by
      cases hnone.symm.trans habove
    intro other hother
    rcases List.mem_cons.mp hother with rfl | hother
    · exact hname
    · exact ih hrest other hother

/-- Something may be put into a directory, unless a directory would be lost. -/
theorem insert (h : tree.WellFormed) (hname : Path.IsFileName name)
    (habove : tree.node? above = some .directory)
    (hnot : tree.node? (name :: above) ≠ some .directory) (node : Node) :
    (tree.insert (name :: above) node).WellFormed := by
  have hplaces : (tree.insert (name :: above) node).places =
      if name :: above ∈ tree.places then tree.places else tree.places ++ [name :: above] :=
    map_fst_set (name :: above) node tree.nodes
  have hkept : ∀ other, tree.node? other = some .directory →
      (tree.insert (name :: above) node).node? other = some .directory := by
    intro other hdir
    rw [node?_insert_of_ne _ _ node, hdir]
    rintro rfl
    exact hnot hdir
  have hentry : ∀ other, tree.IsEntry other → (tree.insert (name :: above) node).IsEntry other := by
    intro other hother
    cases other with
    | nil => exact hother
    | cons first rest => exact ⟨hother.1, hkept rest hother.2⟩
  refine ⟨?_, ?_⟩
  · rw [hplaces]
    split
    · exact h.nodup
    · next hnew =>
      refine List.nodup_append.mpr ⟨h.nodup, by simp, ?_⟩
      rintro place hplace other hother rfl
      exact hnew (List.mem_singleton.mp hother ▸ hplace)
  · intro place hplace
    have hmem : place ∈ tree.places ∨ place = name :: above := by
      rw [hplaces] at hplace
      split at hplace
      · exact Or.inl hplace
      · simpa using hplace
    rcases hmem with hmem | rfl
    · exact hentry place (h.entries place hmem)
    · exact ⟨hname, hkept above habove⟩

end WellFormed

end Tree

/-! ## Operations -/

namespace Disk

variable {disk after : Disk} {path source : Path} {content : Content}

/-- The way of a path leads to a directory, or to something under a name in a directory. -/
theorem Open.exists_eq_cons (h : disk.Open path) (hwf : disk.tree.WellFormed)
    (hnot : disk.tree.node? (disk.target path) ≠ some .directory) :
    ∃ name above, disk.target path = name :: above ∧ Path.IsFileName name ∧
      disk.tree.node? above = some .directory := by
  rcases List.eq_nil_or_concat path.names with hnil | ⟨names, name, hnames⟩
  · -- without names the path leads to the root
    have habsolute := Path.isAbsolute_of_names_eq_nil h.sound.nonempty hnil
    refine absurd ?_ hnot
    rw [target, start, if_pos habsolute, hnil]
    rfl
  · rw [List.concat_eq_append] at hnames
    have htarget : disk.target path = ((disk.start path).walk names).descend name := by
      rw [target, hnames, Place.walk_append]
      rfl
    have habove : disk.tree.node? ((disk.start path).walk names) = some .directory := by
      refine h.spine _ ?_
      rw [Disk.spine, hnames, Place.spine_append]
      exact List.mem_append_right _ List.mem_cons_self
    rw [htarget] at hnot ⊢
    unfold Place.descend at hnot ⊢
    by_cases hdot : name = "."
    · rw [if_pos hdot] at hnot
      exact absurd habove hnot
    · by_cases hup : name = ".."
      · rw [if_neg hdot, if_pos hup] at hnot
        exact absurd (hwf.directory_tail habove) hnot
      · rw [if_neg hdot, if_neg hup]
        have hmem : name ∈ path.names := by
          rw [hnames]
          exact List.mem_append_right _ List.mem_cons_self
        exact ⟨name, _, rfl, Path.isFileName_of_mem_names hmem hdot hup, habove⟩

theorem Open.wellFormed_insert (h : disk.Open path) (hwf : disk.tree.WellFormed)
    (hnot : disk.tree.node? (disk.target path) ≠ some .directory) (node : Node) :
    (disk.insert (disk.target path) node).tree.WellFormed := by
  obtain ⟨name, above, htarget, hname, habove⟩ := h.exists_eq_cons hwf hnot
  rw [htarget] at hnot ⊢
  exact hwf.insert hname habove hnot node

theorem wellFormed_write (hwf : disk.tree.WellFormed) (h : disk.write path content = .ok after) :
    after.tree.WellFormed := by
  obtain ⟨hopen, -, hnot, rfl⟩ := write_eq_ok.mp h
  exact hopen.wellFormed_insert hwf hnot _

theorem wellFormed_ensureDirectory (hwf : disk.tree.WellFormed)
    (h : disk.ensureDirectory path = .ok after) : after.tree.WellFormed := by
  rcases ensureDirectory_eq_ok.mp h with ⟨-, rfl⟩ | ⟨hopen, hnone, rfl⟩
  · exact hwf
  · exact hopen.wellFormed_insert hwf (by rw [hnone]; exact nofun) _

theorem wellFormed_makeDirectories (hwf : disk.tree.WellFormed) (path : Path) :
    (disk.makeDirectories path).1.tree.WellFormed := by
  have hmaking := making_makeDirectories disk path
  generalize (disk.makeDirectories path).1 = after at hmaking ⊢
  generalize (disk.makeDirectories path).2 = answer at hmaking
  induction hmaking with
  | empty | failed => exact hwf
  | ensured _ hensure => exact wellFormed_ensureDirectory hwf hensure
  | failedAbove _ _ _ _ ih => exact ih
  | failedAgain _ _ _ _ _ ih => exact ih
  | made _ _ _ _ hagain ih => exact wellFormed_ensureDirectory ih hagain

theorem wellFormed_save (hwf : disk.tree.WellFormed) (path : Path) (content : Content) :
    (disk.save path content).1.tree.WellFormed := by
  have hparents : (disk.makeParents path).1.tree.WellFormed := by
    unfold makeParents
    split
    · exact hwf
    · exact wellFormed_makeDirectories hwf _
  unfold save
  rcases hmade : disk.makeParents path with ⟨middle, error | _⟩
  · rw [hmade] at hparents
    exact hparents
  · rw [hmade] at hparents
    cases hwrite : middle.write path content with
    | error error =>
      simp only [hwrite]
      exact hparents
    | ok after =>
      simp only [hwrite]
      exact wellFormed_write hparents hwrite

theorem wellFormed_copy (hwf : disk.tree.WellFormed) (h : disk.copy source path = .ok after) :
    after.tree.WellFormed := by
  obtain ⟨_, emptied, _, -, hempty, -, hwrite⟩ := copy_eq_ok.mp h
  exact wellFormed_write (wellFormed_write hwf hempty) hwrite

end Disk

namespace Script

variable {disk : Disk}

theorem wellFormed_settle {result : Except FileError Disk} (hwf : disk.tree.WellFormed)
    (h : ∀ after, result = .ok after → after.tree.WellFormed) :
    (settle disk result).1.tree.WellFormed := by
  cases result with
  | error error => exact hwf
  | ok after => exact h after rfl

/-- Whatever a script does, and whether it succeeds or not, trees stay well-formed. -/
theorem wellFormed_run {α : Type} (script : Script α) (hwf : disk.tree.WellFormed) :
    (script.run disk).1.tree.WellFormed := by
  induction script generalizing disk with
  | done result => exact hwf
  | read path next ih => exact ih _ hwf
  | look path next ih => exact ih _ hwf
  | write path content next ih =>
    exact ih _ (wellFormed_settle hwf fun _ => Disk.wellFormed_write hwf)
  | save path content next ih => exact ih _ (Disk.wellFormed_save hwf path content)
  | makeDirectories path next ih => exact ih _ (Disk.wellFormed_makeDirectories hwf path)
  | copy source target next ih =>
    exact ih _ (wellFormed_settle hwf fun _ => Disk.wellFormed_copy hwf)

end Script

end Files

end SchemaBundle
