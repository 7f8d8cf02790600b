import Mathlib.Data.List.Lex
import Mathlib.Data.List.Sort
import Mathlib.Data.String.Basic
import SchemaBundle.Proofs.Files.WellFormed
import SchemaBundle.Proofs.Files.Writing

/-!
# The files below a place

The files of a tree below one of its places, each under the names that lead down to it, in the order
of these names. This is the order in which the tree is walked: each directory with its names in
order, and everything below a name before the next. So the list is known without a walk, from what
stands at each place alone.

* `Tree.mem_files`: which files are listed
* `Tree.files_of_directory`: the files of a directory, name after name
* `Tree.files_congr`: the list depends on the files below the place alone
-/

namespace SchemaBundle.Files.Tree

variable {tree other : Tree} {root place : Place} {names : List String} {content : Content}

/-! ## Files -/

/-- What the file at a place holds. -/
def content? (tree : Tree) (place : Place) : Option Content :=
  match tree.node? place with
  | some (.file content) => some content
  | _ => none

theorem content?_eq_some : tree.content? place = some content ↔
    tree.node? place = some (.file content) := by
  unfold content?
  cases hnode : tree.node? place with
  | none => simp
  | some node => cases node <;> simp

theorem node?_ne_none (h : tree.content? place = some content) : tree.node? place ≠ none := by
  rw [content?_eq_some.mp h]
  exact nofun

theorem content?_congr (h : ∀ content, other.node? place = some (.file content) ↔
    tree.node? place = some (.file content)) : other.content? place = tree.content? place := by
  refine Option.ext fun content => ?_
  rw [content?_eq_some, content?_eq_some]
  exact h content

/-- The names that lead from a place down to another one. -/
def namesBelow? (root place : Place) : Option (List String) :=
  if root.isSuffixOf place then some (place.take (place.length - root.length)).reverse else none

theorem namesBelow?_eq_some : namesBelow? root place = some names ↔
    place = names.reverse ++ root := by
  unfold namesBelow?
  constructor
  · intro h
    split at h
    · next hsuffix =>
      obtain ⟨above, rfl⟩ := List.isSuffixOf_iff_suffix.mp hsuffix
      have hnames : above.reverse = names := by simpa using h
      rw [← hnames, List.reverse_reverse]
    · cases h
  · rintro rfl
    rw [if_pos (List.isSuffixOf_iff_suffix.mpr (List.suffix_append _ _))]
    simp

/-- The files below a place, in the order of the names that lead to them. -/
def files (tree : Tree) (root : Place) : List (List String × Content) :=
  (tree.places.filterMap (namesBelow? root)).mergeSort.filterMap fun names =>
    (tree.content? (names.reverse ++ root)).map fun content => (names, content)

/-- A file is listed under its names if it is there. -/
theorem mem_files : (names, content) ∈ tree.files root ↔
    tree.content? (names.reverse ++ root) = some content := by
  have hnames : names ∈ (tree.places.filterMap (namesBelow? root)).mergeSort ↔
      names.reverse ++ root ∈ tree.places := by
    simp only [List.mem_mergeSort, List.mem_filterMap, namesBelow?_eq_some]
    constructor
    · rintro ⟨place, hplace, rfl⟩
      exact hplace
    · intro hplace
      exact ⟨_, hplace, rfl⟩
  constructor
  · intro h
    obtain ⟨other, -, hother⟩ := List.mem_filterMap.mp h
    obtain ⟨found, hfound, heq⟩ := Option.map_eq_some_iff.mp hother
    cases heq
    exact hfound
  · intro h
    refine List.mem_filterMap.mpr ⟨names, hnames.mpr ?_, by rw [h]; rfl⟩
    have hnode := content?_eq_some.mp h
    refine (mem_places_iff ?_).mpr (node?_ne_none h)
    intro hroot
    rw [hroot] at hnode
    cases hnode

/-- Where a tree lists no place twice, the files below a place are in order, each once. -/
theorem pairwise_files (h : tree.places.Nodup) (root : Place) :
    (tree.files root).Pairwise fun first second => first.1 < second.1 := by
  have hinjective : ∀ place other names, names ∈ namesBelow? root place →
      names ∈ namesBelow? root other → place = other := by
    intro place other names hplace hother
    rw [namesBelow?_eq_some.mp hplace, namesBelow?_eq_some.mp hother]
  have hnodup : (tree.places.filterMap (namesBelow? root)).mergeSort.Nodup :=
    (List.mergeSort_perm _ _).nodup_iff.mpr (h.filterMap hinjective)
  have hsorted : (tree.places.filterMap (namesBelow? root)).mergeSort.Pairwise (· < ·) := by
    refine List.Pairwise.imp₂ ?_ (List.sortedLE_mergeSort).pairwise hnodup
    intro first second hle hne
    exact lt_of_le_of_ne hle hne
  rw [files, List.pairwise_filterMap]
  refine hsorted.imp fun {first second} hlt entry hentry next hnext => ?_
  obtain ⟨_, -, rfl⟩ := Option.map_eq_some_iff.mp hentry
  obtain ⟨_, -, rfl⟩ := Option.map_eq_some_iff.mp hnext
  exact hlt

/-- A list of files in order is the list of those below a place if it holds the same. -/
theorem eq_files (h : tree.places.Nodup) {entries : List (List String × Content)}
    (hsorted : entries.Pairwise fun first second => first.1 < second.1)
    (hmem : ∀ names content, (names, content) ∈ entries ↔
      tree.content? (names.reverse ++ root) = some content) : entries = tree.files root := by
  have hasymm : Std.Asymm fun first second : List String × Content => first.1 < second.1 :=
    ⟨fun _ _ hlt => lt_asymm hlt⟩
  refine hsorted.eq_of_mem_iff (pairwise_files h root) fun entry => ?_
  rw [hmem, mem_files]

/-- The files of a well-formed tree are listed under names of files. -/
theorem WellFormed.isFileName_of_mem_files (h : tree.WellFormed)
    (hfile : (names, content) ∈ tree.files root) : ∀ name ∈ names, Path.IsFileName name := by
  intro name hname
  have hnode := node?_ne_none (mem_files.mp hfile)
  exact h.isFileName_of_append hnode name (List.mem_reverse.mpr hname)

/-- The files below a place depend on what the files there hold, and on nothing else. -/
theorem files_congr (h : tree.places.Nodup) (hother : other.places.Nodup)
    (hsame : ∀ names : List String,
      other.content? (names.reverse ++ root) = tree.content? (names.reverse ++ root)) :
    other.files root = tree.files root := by
  refine eq_files h (pairwise_files hother root) fun names content => ?_
  rw [mem_files, hsame]

/-! ## Walking -/

/-- A file has no other files below it. -/
theorem files_of_file (h : tree.WellFormed) (hfile : tree.content? root = some content) :
    tree.files root = [([], content)] := by
  refine (eq_files h.nodup (by simp) fun names found => ?_).symm
  by_cases hnames : names = []
  · subst hnames
    rw [List.mem_singleton, Prod.mk.injEq, List.reverse_nil, List.nil_append, hfile,
      Option.some.injEq]
    exact ⟨fun h => h.2.symm, fun h => ⟨rfl, h.symm⟩⟩
  · refine iff_of_false ?_ fun hfound => ?_
    · intro hmem
      exact hnames (Prod.mk.inj (List.mem_singleton.mp hmem)).1
    · -- whatever has something below it is a directory
      have hreverse : names.reverse ≠ [] := by simpa using hnames
      have hdir := h.directory_of_append hreverse (node?_ne_none hfound)
      rw [content?_eq_some.mp hfile] at hdir
      cases hdir

theorem WellFormed.isFileName_of_mem_namesIn (h : tree.WellFormed) {name : String}
    (hname : name ∈ tree.namesIn root) : Path.IsFileName name :=
  (h.entries (name :: root) (mem_namesIn.mp hname)).1

theorem pairwise_namesIn (h : tree.places.Nodup) (place : Place) :
    (tree.namesIn place).Pairwise (· < ·) := by
  have hinjective : ∀ first second name, name ∈ nameIn? place first →
      name ∈ nameIn? place second → first = second := by
    intro first second name hfirst hsecond
    cases first with
    | nil => cases hfirst
    | cons a above =>
      cases second with
      | nil => cases hsecond
      | cons b below => grind [nameIn?]
  have hplaces : tree.nodes.filterMap (fun entry => nameIn? place entry.1) =
      tree.places.filterMap (nameIn? place) := by
    rw [places, List.filterMap_map]
    rfl
  have hnodup : (tree.namesIn place).Nodup := by
    rw [namesIn, hplaces]
    exact (List.mergeSort_perm _ _).nodup_iff.mpr (h.filterMap hinjective)
  refine List.Pairwise.imp₂ ?_ (List.sortedLE_mergeSort).pairwise hnodup
  intro first second hle hne
  exact lt_of_le_of_ne hle hne

/-- The files below a directory are those below each of its names, name after name. -/
theorem files_of_directory (h : tree.WellFormed) (hdir : tree.node? root = some .directory) :
    tree.files root = (tree.namesIn root).flatMap fun name =>
      (tree.files (name :: root)).map fun entry => (name :: entry.1, entry.2) := by
  refine (eq_files h.nodup ?_ fun names content => ?_).symm
  · rw [List.pairwise_flatMap]
    refine ⟨fun name _ => ?_, ?_⟩
    · rw [List.pairwise_map]
      refine (pairwise_files h.nodup (name :: root)).imp fun hlt => ?_
      exact List.cons_lt_cons_iff.mpr (Or.inr ⟨rfl, hlt⟩)
    · refine (pairwise_namesIn h.nodup root).imp
        fun {first second} hlt entry hentry next hnext => ?_
      obtain ⟨_, -, rfl⟩ := List.mem_map.mp hentry
      obtain ⟨_, -, rfl⟩ := List.mem_map.mp hnext
      exact List.cons_lt_cons_iff.mpr (Or.inl hlt)
  · simp only [List.mem_flatMap, List.mem_map, Prod.exists, mem_files, Prod.mk.injEq]
    constructor
    · rintro ⟨name, -, rest, found, hfound, rfl, rfl⟩
      rwa [List.reverse_cons, List.append_assoc, List.singleton_append]
    · intro hfound
      cases names with
      | nil =>
        rw [List.reverse_nil, List.nil_append, content?_eq_some, hdir] at hfound
        cases hfound
      | cons name rest =>
        rw [List.reverse_cons, List.append_assoc, List.singleton_append] at hfound
        refine ⟨name, mem_namesIn.mpr ?_, rest, content, hfound, rfl, rfl⟩
        rw [mem_places_iff (List.cons_ne_nil _ _)]
        by_cases hrest : rest = []
        · rw [hrest, List.reverse_nil, List.nil_append] at hfound
          exact node?_ne_none hfound
        · have hreverse : rest.reverse ≠ [] := by simpa using hrest
          rw [h.directory_of_append hreverse (node?_ne_none hfound)]
          exact Option.some_ne_none _

end SchemaBundle.Files.Tree
