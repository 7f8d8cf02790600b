import SchemaBundle.Files.Tree

/-!
# Disks

A disk is a tree of files together with the directory that relative paths start at. A path is
followed name by name; every place on the way has to be a directory, also before a dot or two
dots.
-/

namespace SchemaBundle.Files

/-- Why something could not be done with a file. -/
inductive FileError where
  | notFound
  | alreadyExists
  | notADirectory
  | isADirectory
  | nameTooLong
  | nulInName
  | notText
  /-- Another problem, in the words of the system. -/
  | other (text : String)
deriving DecidableEq, Repr

/-- The text of an error. -/
def FileError.message : FileError → String
  | .notFound => "No such file or directory (os error 2)"
  | .alreadyExists => "File exists (os error 17)"
  | .notADirectory => "Not a directory (os error 20)"
  | .isADirectory => "Is a directory (os error 21)"
  | .nameTooLong => "File name too long (os error 36)"
  | .nulInName => "file name contained an unexpected NUL byte"
  | .notText => "stream did not contain valid UTF-8"
  | .other text => text

/-- The most bytes a name can have. -/
def longestName : Nat := 255

/-- The most bytes a path can have. -/
def longestPath : Nat := 4095

/-- The place that names lead to from another. The last one need not exist. -/
def Tree.follow (tree : Tree) (place : Place) : List String → Except FileError Place
  | [] => .ok place
  | name :: rest =>
    match tree.node? place with
    | none => .error .notFound
    | some (.file _) => .error .notADirectory
    | some .directory =>
      if name = "." then tree.follow place rest
      else if name = ".." then tree.follow place.tail rest
      else if longestName < name.utf8ByteSize then .error .nameTooLong
      else tree.follow (name :: place) rest

/-- A tree of files and the place that relative paths start at. -/
structure Disk where
  tree : Tree
  home : Place
deriving DecidableEq, Repr

/-- What a path leads to: a file, or a directory with its names in order. -/
inductive Found where
  | file
  | directory (names : List String)
deriving DecidableEq, Repr

/-- Why a file could not be written together with the directories above it. -/
inductive SaveError where
  | directory (path : Path) (error : FileError)
  | file (path : Path) (error : FileError)
deriving DecidableEq, Repr

namespace Disk

/-- The disk with an empty home. -/
def fresh (home : Place) : Disk :=
  ⟨Tree.empty.insertDirectories home, home⟩

/-- The place that a path leads to. -/
def locate (disk : Disk) (path : Path) : Except FileError Place :=
  if path.text.toList.contains '\x00' then .error .nulInName
  else if path.text.isEmpty then .error .notFound
  else if longestPath < path.text.utf8ByteSize then .error .nameTooLong
  else disk.tree.follow (if path.isAbsolute then [] else disk.home) path.names

/-- What stands where a path leads. -/
def node (disk : Disk) (path : Path) : Except FileError Node :=
  (disk.locate path).bind fun place =>
    match disk.tree.node? place with
    | none => .error .notFound
    | some .directory => .ok .directory
    | some (.file content) =>
      if path.endsInSlash then .error .notADirectory else .ok (.file content)

/-- Whether a path leads to a directory. -/
def isDirectory (disk : Disk) (path : Path) : Bool :=
  match disk.node path with
  | .ok .directory => true
  | _ => false

/-- What a file holds. -/
def read (disk : Disk) (path : Path) : Except FileError Content :=
  (disk.node path).bind fun node =>
    match node with
    | .file content => .ok content
    | .directory => .error .isADirectory

/-- What a path leads to. -/
def look (disk : Disk) (path : Path) : Except FileError Found :=
  (disk.locate path).bind fun place =>
    (disk.node path).map fun node =>
      match node with
      | .file _ => .file
      | .directory => .directory (disk.tree.namesIn place)

/-- The disk with a node at a place. -/
def insert (disk : Disk) (place : Place) (node : Node) : Disk :=
  { disk with tree := disk.tree.insert place node }

/-- Writes a file; the directory above it has to be there. -/
def write (disk : Disk) (path : Path) (content : Content) : Except FileError Disk :=
  (disk.locate path).bind fun place =>
    if path.endsInSlash ∨ disk.tree.isDirectory place then .error .isADirectory
    else .ok (disk.insert place (.file content))

/-- Makes a directory. -/
def makeDirectory (disk : Disk) (path : Path) : Except FileError Disk :=
  (disk.locate path).bind fun place =>
    match disk.tree.node? place with
    | some _ => .error .alreadyExists
    | none => .ok (disk.insert place .directory)

/-- Makes a directory unless it is there. -/
def ensureDirectory (disk : Disk) (path : Path) : Except FileError Disk :=
  match disk.makeDirectory path with
  | .ok disk => .ok disk
  | .error error => if disk.isDirectory path then .ok disk else .error error

/--
Makes a directory and those above it; those made stay when a later one cannot be made. The bound
is on the number of directories above, which is less than the number of characters; the empty
path needs none.
-/
def makeAbove : Nat → Path → Disk → Disk × Except FileError Unit
  | 0, _, disk => (disk, .ok ())
  | bound + 1, path, disk =>
    if path.text.isEmpty then (disk, .ok ())
    else
      match disk.ensureDirectory path, path.parent? with
      | .ok disk, _ => (disk, .ok ())
      | .error .notFound, some parent =>
        match makeAbove bound parent disk with
        | (disk, .error error) => (disk, .error error)
        | (disk, .ok ()) =>
          match disk.ensureDirectory path with
          | .ok disk => (disk, .ok ())
          | .error error => (disk, .error error)
      | .error error, _ => (disk, .error error)

/-- Makes a directory and those above it. -/
def makeDirectories (disk : Disk) (path : Path) : Disk × Except FileError Unit :=
  makeAbove path.text.length path disk

/-- Makes the directories above a path. -/
def makeParents (disk : Disk) (path : Path) : Disk × Except SaveError Unit :=
  match path.parent? with
  | none => (disk, .ok ())
  | some parent =>
    let (disk, result) := disk.makeDirectories parent
    (disk, result.mapError (SaveError.directory parent))

/-- Copies a file. The target is emptied before the source is read. -/
def copy (disk : Disk) (source target : Path) : Except FileError Disk :=
  (disk.read source).bind fun _ =>
    (disk.write target (.text "")).bind fun emptied =>
      (emptied.read source).bind fun content =>
        emptied.write target content

/-- Writes a file together with the directories above it. -/
def save (disk : Disk) (path : Path) (content : Content) : Disk × Except SaveError Unit :=
  match disk.makeParents path with
  | (disk, .error error) => (disk, .error error)
  | (disk, .ok ()) =>
    match disk.write path content with
    | .ok disk => (disk, .ok ())
    | .error error => (disk, .error (.file path error))

end Disk

end SchemaBundle.Files
