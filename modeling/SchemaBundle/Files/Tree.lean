import SchemaBundle.Files.Path

/-!
# Trees of files

A place is the chain of names from itself up to the root. A tree says what stands at which
place; the root is always a directory.

There are files and directories and nothing else. Symbolic links are left out, so a place is reached
by one chain of names only; so are hard links, and what is written to a file shows at its own place
alone. Nobody is kept from reading or writing a file: there are no permissions, owners or limits on
space.
-/

namespace SchemaBundle.Files

/-- The names that lead from a place up to the root. -/
abbrev Place := List String

/-- What a file holds: a text, or bytes that are no text. -/
inductive Content where
  | text (text : String)
  | bytes (bytes : List UInt8)
deriving DecidableEq, Repr

/-- What stands at a place. -/
inductive Node where
  | file (content : Content)
  | directory
deriving DecidableEq, Repr

/-- The places of a tree apart from the root, with what stands there. -/
structure Tree where
  nodes : List (Place × Node)
deriving DecidableEq, Repr

namespace Tree

/-- The tree of the root alone. -/
def empty : Tree := ⟨[]⟩

/-- What stands at a place in a list of nodes. -/
def lookup (place : Place) : List (Place × Node) → Option Node
  | [] => none
  | (other, node) :: rest => if other = place then some node else lookup place rest

/-- Replaces what stands at a place, or adds the place. -/
def set (place : Place) (node : Node) : List (Place × Node) → List (Place × Node)
  | [] => [(place, node)]
  | (other, before) :: rest =>
    if other = place then (place, node) :: rest else (other, before) :: set place node rest

/-- What stands at a place. -/
def node? (tree : Tree) (place : Place) : Option Node :=
  if place = [] then some .directory else lookup place tree.nodes

/-- The tree with a node at a place. -/
def insert (tree : Tree) (place : Place) (node : Node) : Tree :=
  ⟨set place node tree.nodes⟩

/-- The tree without a place and everything below it. -/
def remove (tree : Tree) (place : Place) : Tree :=
  ⟨tree.nodes.filter fun (other, _) => !place.isSuffixOf other⟩

/-- Whether a place is a directory. -/
def isDirectory (tree : Tree) (place : Place) : Bool :=
  tree.node? place == some .directory

/-- The tree in which a place and those above it are directories. -/
def insertDirectories (tree : Tree) : Place → Tree
  | [] => tree
  | name :: above => (tree.insertDirectories above).insert (name :: above) .directory

/-- The name of a place in a directory. -/
def nameIn? (directory : Place) : Place → Option String
  | [] => none
  | name :: above => if above = directory then some name else none

/-- The names in a directory, in order. -/
def namesIn (tree : Tree) (directory : Place) : List String :=
  (tree.nodes.filterMap fun (place, _) => nameIn? directory place).mergeSort

/-! ## Looking up what was written -/

theorem lookup_set_self (place : Place) (node : Node) (nodes : List (Place × Node)) :
    lookup place (set place node nodes) = some node := by
  induction nodes with
  | nil => simp [set, lookup]
  | cons entry rest ih =>
    obtain ⟨other, before⟩ := entry
    by_cases h : other = place <;> simp [set, lookup, h, ih]

theorem lookup_set_of_ne {place other : Place} (h : other ≠ place) (node : Node)
    (nodes : List (Place × Node)) :
    lookup other (set place node nodes) = lookup other nodes := by
  induction nodes with
  | nil => simp [set, lookup, Ne.symm h]
  | cons entry rest ih =>
    obtain ⟨first, before⟩ := entry
    by_cases hf : first = place
    · subst hf; simp [set, lookup, Ne.symm h]
    · by_cases ho : first = other
      · subst ho; simp [set, lookup, hf]
      · simp [set, lookup, hf, ho, ih]

theorem node?_insert_self (tree : Tree) {place : Place} (h : place ≠ []) (node : Node) :
    (tree.insert place node).node? place = some node := by
  simp [node?, h, insert, lookup_set_self]

theorem node?_insert_of_ne (tree : Tree) {place other : Place} (h : other ≠ place)
    (node : Node) : (tree.insert place node).node? other = tree.node? other := by
  simp [node?, insert, lookup_set_of_ne h]

/-! ## Looking up what was removed -/

theorem lookup_filter (keeps : Place → Bool) (place : Place) (nodes : List (Place × Node)) :
    lookup place (nodes.filter fun (other, _) => keeps other) =
      if keeps place then lookup place nodes else none := by
  induction nodes with
  | nil => simp [lookup]
  | cons entry rest ih =>
    obtain ⟨other, node⟩ := entry
    by_cases ho : other = place
    · subst ho
      cases hkeeps : keeps other <;> simp [lookup, hkeeps, ih]
    · cases hkeeps : keeps other <;> simp [lookup, hkeeps, ho, ih]

/-- Nothing is left at a place that has been removed, and below it; all else is as it was. -/
theorem node?_remove (tree : Tree) (place : Place) {other : Place} (h : other ≠ []) :
    (tree.remove place).node? other = if place <:+ other then none else tree.node? other := by
  rw [node?, node?, if_neg h, if_neg h, remove]
  show lookup other (tree.nodes.filter fun (entry, _) => !place.isSuffixOf entry) = _
  rw [lookup_filter (fun entry => !place.isSuffixOf entry)]
  by_cases hbelow : place <:+ other
  · simp [hbelow, List.isSuffixOf_iff_suffix.mpr hbelow]
  · simp [hbelow]

/-- What is there after something has been removed was there before. -/
theorem node?_of_remove {tree : Tree} {place other : Place} {node : Node}
    (h : (tree.remove place).node? other = some node) : tree.node? other = some node := by
  by_cases hroot : other = []
  · subst hroot
    exact h
  · rw [node?_remove tree place hroot] at h
    split at h
    · cases h
    · exact h

end Tree

end SchemaBundle.Files
