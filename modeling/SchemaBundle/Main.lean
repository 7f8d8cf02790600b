import SchemaBundle.CommandLine.Run

/-!
# The program

The outer layer: a script is carried out with the files of the system, and its outcome is
written to the standard streams.
-/

namespace SchemaBundle

open Files (Content FileError Found SaveError Script)

/-- The error that a failed operation of the system amounts to. -/
def fileError : IO.Error → FileError
  | .noFileOrDirectory .. => .notFound
  | .alreadyExists .. => .alreadyExists
  | .inappropriateType _ code _ => if code = 20 then .notADirectory else .isADirectory
  | error => .other (toString error)

/-- What bytes are: a text if they can be read as one. -/
def contentOf (bytes : ByteArray) : Content :=
  match String.fromUTF8? bytes with
  | some text => .text text
  | none => .bytes bytes.toList

/-- The bytes of a file. -/
def bytesOf : Content → ByteArray
  | .text text => text.toUTF8
  | .bytes bytes => ⟨bytes.toArray⟩

/-- Carries out an operation, and answers with its error where it fails. -/
def attempt (operation : IO α) : IO (Except FileError α) := do
  try
    return .ok (← operation)
  catch error =>
    return .error (fileError error)

/-- What a path leads to. -/
def lookAt (path : Path) : IO Found := do
  let place ← IO.FS.realPath path.text
  if (← place.metadata).type == .dir then
    let entries ← place.readDir
    return .directory (entries.toList.map (·.fileName)).mergeSort
  else return .file

/-- Makes a directory and those above it. -/
def makeAll (path : Path) : IO Unit :=
  unless path.text.isEmpty do IO.FS.createDirAll path.text

/-- Writes a file together with the directories above it. -/
def saveAt (path : Path) (content : Content) : IO (Except SaveError Unit) := do
  let above : Except SaveError Unit ←
    match path.parent? with
    | none => pure (.ok ())
    | some parent => return ((← attempt (makeAll parent)).mapError (SaveError.directory parent))
  match above with
  | .error error => return .error error
  | .ok () =>
    let written ← attempt (IO.FS.writeBinFile path.text (bytesOf content))
    return written.mapError (SaveError.file path)

/-- Copies a file. -/
def copyAt (source target : Path) : IO Unit := do
  discard (IO.FS.readBinFile source.text)
  IO.FS.writeBinFile target.text .empty
  IO.FS.writeBinFile target.text (← IO.FS.readBinFile source.text)

/-- Carries out a script. -/
def perform : Script α → IO α
  | .done result => return result
  | .read path next => do
    let answer ← attempt (IO.FS.readBinFile path.text)
    perform (next (answer.map contentOf))
  | .look path next => do
    let answer ← attempt (lookAt path)
    perform (next answer)
  | .write path content next => do
    let answer ← attempt (IO.FS.writeBinFile path.text (bytesOf content))
    perform (next answer)
  | .save path content next => do
    let answer ← saveAt path content
    perform (next answer)
  | .makeDirectories path next => do
    let answer ← attempt (makeAll path)
    perform (next answer)
  | .copy source target next => do
    let answer ← attempt (copyAt source target)
    perform (next answer)

/-- The lines for the error stream. -/
def problemLines : CommandLine.Outcome → List String
  | .finished _ => []
  | .failed _ failure => failure.chain
  | .misused text => [text]

end SchemaBundle

/-- Runs the program on the arguments that it was called with. -/
def main (arguments : List String) : IO UInt32 := do
  let outcome ← SchemaBundle.perform (SchemaBundle.CommandLine.run arguments)
  IO.print outcome.output
  for line in SchemaBundle.problemLines outcome do
    IO.eprintln line
  return outcome.status.toUInt32
