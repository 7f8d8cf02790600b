import SchemaBundle.Document.Bundled
import SchemaBundle.Files.Script
import SchemaBundle.Registry
import SchemaBundle.Text.Quoted
import SchemaBundle.TypeScript.Emission

/-!
# Failures

Why a task that works with files came to no result: what was being done, with which file, and
what stood in the way. A report tells this from the outside in, one message for each.
-/

namespace SchemaBundle

open Files (FileError SaveError Script)
open Json (Location)
open Text (ticked)

/-- Why a task failed. -/
inductive Failure where
  | unreadFile (path : Path) (error : FileError)
  | unwrittenFile (path : Path) (error : FileError)
  | unmadeDirectory (path : Path) (error : FileError)
  | unwalkedTree (root place : Path) (error : FileError)
  | uncopiedFile (source target : Path) (error : FileError)
  | unrenderedTemplate (path : Path)
  | badDefinitions (path : Path) (error : RegistryError)
  | badDocument (path : Path) (location : Location)
  | unbundledDocument (path : Path) (error : DocumentError)
  | noSchemas (path : Path) (error : DocumentError)
  | unresolvedDocument (path : Path) (error : UnresolvedRefs)
  | unresolved (error : UnresolvedRefs)
  | untypedApi (name : String) (error : TypeScript.EmitError)
  | sharedName (apis : List String) (name : String)
  | failedApis (failed total : Nat)

namespace Failure

/-- The messages of a failure, the outermost first. -/
def chain : Failure → List String
  | unreadFile path error => ["Failed to read " ++ ticked path.text, error.message]
  | unwrittenFile path error => ["Failed to write " ++ ticked path.text, error.message]
  | unmadeDirectory path error =>
    ["Failed to create directory " ++ ticked path.text, error.message]
  | unwalkedTree root place error =>
    ["Failed to walk " ++ ticked root.text,
      "IO error for operation on " ++ place.text ++ ": " ++ error.message, error.message]
  | uncopiedFile source target error =>
    ["Failed to copy " ++ ticked source.text ++ " to " ++ ticked target.text, error.message]
  | unrenderedTemplate path => ["Failed to render " ++ ticked path.text]
  | badDefinitions path error =>
    ["Failed to load shared definitions from " ++ ticked path.text, error.message]
  | badDocument path _ => ["Failed to parse " ++ ticked path.text]
  | unbundledDocument path error => ["Failed to bundle " ++ ticked path.text, error.message]
  | noSchemas path error => ["Failed to extract schemas from " ++ ticked path.text, error.message]
  | unresolvedDocument path error => ["Failed to resolve " ++ ticked path.text, error.message]
  | unresolved error => [error.message]
  | untypedApi name error => ["Failed to generate types for " ++ ticked name, error.message]
  | sharedName apis name =>
    ["APIs " ++ ", ".intercalate (apis.map ticked) ++ " would all be written as " ++ ticked name]
  | failedApis failed total =>
    [toString failed ++ " of " ++ toString total ++ " APIs failed to build"]

/-- The failure that a file could not be written together with the directories above it. -/
def ofSaveError : SaveError → Failure
  | .directory path error => unmadeDirectory path error
  | .file path error => unwrittenFile path error

end Failure

/-- A script that may fail. -/
abbrev Task := ExceptT Failure Script

namespace Task

variable {α : Type}

/-- Goes on with an answer, or fails with what its error amounts to. -/
def orFail {ε : Type} (failure : ε → Failure) (result : Except ε α) : Task α :=
  ExceptT.mk (.done (result.mapError failure))

/-- The text of a file. -/
def readText (path : Path) : Task String :=
  ExceptT.mk <| (Files.readText path).bind fun answer =>
    .done (answer.mapError (Failure.unreadFile path))

/-- Writes a text to a file in a directory, and gives the path of the file. -/
def saveText (directory : Path) (name text : String) : Task Path :=
  let path := directory.join ⟨name⟩
  ExceptT.mk <| .save path (.text text) fun answer =>
    .done ((answer.mapError Failure.ofSaveError).map fun _ => path)

end Task

end SchemaBundle
