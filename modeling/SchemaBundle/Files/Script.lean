import SchemaBundle.Files.Disk

/-!
# Scripts

A script is a program that works with files: at each step it asks for one operation and goes on
with the answer. What a script does to a disk is said by `Script.run`; that running a script
after another runs the one on the disk that the other leaves is `run_bind`.
-/

namespace SchemaBundle.Files

/-- A program that works with files and ends in a result. -/
inductive Script (α : Type) where
  | done (result : α)
  | read (path : Path) (next : Except FileError Content → Script α)
  | look (path : Path) (next : Except FileError Found → Script α)
  | write (path : Path) (content : Content) (next : Except FileError Unit → Script α)
  | save (path : Path) (content : Content) (next : Except SaveError Unit → Script α)
  | makeDirectories (path : Path) (next : Except FileError Unit → Script α)
  | copy (source target : Path) (next : Except FileError Unit → Script α)

namespace Script

variable {α β γ : Type}

/-- The script that goes on with the result of another. -/
def bind (script : Script α) (next : α → Script β) : Script β :=
  match script with
  | .done result => next result
  | .read path go => .read path fun answer => (go answer).bind next
  | .look path go => .look path fun answer => (go answer).bind next
  | .write path content go => .write path content fun answer => (go answer).bind next
  | .save path content go => .save path content fun answer => (go answer).bind next
  | .makeDirectories path go => .makeDirectories path fun answer => (go answer).bind next
  | .copy source target go => .copy source target fun answer => (go answer).bind next

instance : Monad Script where
  pure := Script.done
  bind := Script.bind

/-- The disk after an operation and its answer; an operation that fails changes nothing. -/
def settle (disk : Disk) : Except FileError Disk → Disk × Except FileError Unit
  | .ok changed => (changed, .ok ())
  | .error error => (disk, .error error)

/-- What a script does to a disk, and its result. -/
def run : Script α → Disk → Disk × α
  | .done result, disk => (disk, result)
  | .read path next, disk => (next (disk.read path)).run disk
  | .look path next, disk => (next (disk.look path)).run disk
  | .write path content next, disk =>
    let (disk, answer) := settle disk (disk.write path content)
    (next answer).run disk
  | .save path content next, disk =>
    let (disk, answer) := disk.save path content
    (next answer).run disk
  | .makeDirectories path next, disk =>
    let (disk, answer) := disk.makeDirectories path
    (next answer).run disk
  | .copy source target next, disk =>
    let (disk, answer) := settle disk (disk.copy source target)
    (next answer).run disk

/-- Scripts one after another. -/
def all : List (Script α) → Script (List α)
  | [] => .done []
  | script :: rest =>
    script.bind fun result => (all rest).bind fun results => .done (result :: results)

/-! ## Laws -/

theorem bind_assoc (script : Script α) (f : α → Script β) (g : β → Script γ) :
    (script.bind f).bind g = script.bind fun result => (f result).bind g := by
  induction script with
  | done result => rfl
  | read path next ih => simp only [bind, ih]
  | look path next ih => simp only [bind, ih]
  | write path content next ih => simp only [bind, ih]
  | save path content next ih => simp only [bind, ih]
  | makeDirectories path next ih => simp only [bind, ih]
  | copy source target next ih => simp only [bind, ih]

/-- Running a script and then another is running the other on the disk that the first leaves. -/
theorem run_bind (script : Script α) (next : α → Script β) (disk : Disk) :
    (script.bind next).run disk = (next (script.run disk).2).run (script.run disk).1 := by
  induction script generalizing disk with
  | done result => rfl
  | read path go ih => simp only [bind, run, ih]
  | look path go ih => simp only [bind, run, ih]
  | write path content go ih => simp only [bind, run, ih]
  | save path content go ih => simp only [bind, run, ih]
  | makeDirectories path go ih => simp only [bind, run, ih]
  | copy source target go ih => simp only [bind, run, ih]

end Script

/-! ## Operations -/

/-- Asks what a file holds, which has to be a text. -/
def readText (path : Path) : Script (Except FileError String) :=
  .read path fun answer => .done <|
    answer.bind fun content =>
      match content with
      | .text text => .ok text
      | .bytes _ => .error .notText

end SchemaBundle.Files
