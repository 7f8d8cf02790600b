import SchemaBundle.Failure

/-!
# Copying trees of files

Every file of a tree is copied to the same place under another directory. A directory is looked
at before its copy is made, and its names are gone through in order, each with everything below
it before the next.

On a disk with symbolic links the walk would follow them, to files and directories, and would fail
where a link leads back to a directory above it. Disks have none here, nor permissions, which a copy
would take over from its original.
-/

namespace SchemaBundle

namespace Task

variable {α : Type}

/-- What a path leads to, while a tree is gone through. -/
def look (root place : Path) : Task Files.Found :=
  ExceptT.mk <| .look place fun answer => .done (answer.mapError (Failure.unwalkedTree root place))

/-- Makes a directory and those above it. -/
def makeDirectories (path : Path) : Task Unit :=
  ExceptT.mk <| .makeDirectories path fun answer =>
    .done (answer.mapError (Failure.unmadeDirectory path))

/-- Copies a file. -/
def copy (source target : Path) : Task Unit :=
  ExceptT.mk <| .copy source target fun answer =>
    .done (answer.mapError (Failure.uncopiedFile source target))

/-- Tasks one after another, with their lists put together. -/
def concat : List (Task (List α)) → Task (List α)
  | [] => return []
  | task :: rest => do
    let first ← task
    let others ← concat rest
    return first ++ others

end Task

/--
Copies what stands at a place of a tree, seen from its root, and gives the files that were made.
The bound is on the depth; no path is longer than the longest, and every level makes it longer.
-/
def copyBelow (root target : Path) : Nat → Path → Path → Task (List Path)
  | 0, _, _ => return []
  | bound + 1, place, relative => do
    let copied := target.join relative
    match ← Task.look root place with
    | .file =>
      Task.copy place copied
      return [copied]
    | .directory names =>
      Task.makeDirectories copied
      Task.concat <| names.map fun name =>
        copyBelow root target bound (place.join ⟨name⟩) (relative.join ⟨name⟩)

/-- Copies a tree into a directory, and gives the files that were made. -/
def copyTree (source target : Path) : Task (List Path) :=
  copyBelow source target (Files.longestPath + 1) source ⟨""⟩

end SchemaBundle
