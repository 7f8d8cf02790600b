import SchemaBundle.Proofs.Files.Effects

/-!
# Scripts side by side

Scripts that run side by side take turns, operation by operation, in whatever order. One after
another is one of these orders. What holds at first and is kept by each operation holds in the end.

* `Script.interleaves_all`: running scripts one after another is an interleaving
* `Script.Interleaves.invariant`: invariants of interleavings
* `Script.Interleaves.grows`: in whatever order, disks only grow
* `Script.interleaves_takeTurns`: every list of turns is the beginning of an interleaving
-/

namespace SchemaBundle.Files.Script

variable {α : Type}

/-! ## Single operations -/

/-- The next operation of a script: the disk after it, and what is left to do. -/
def next? : Script α → Disk → Option (Disk × Script α)
  | .done _, _ => none
  | .read path next, disk => some (disk, next (disk.read path))
  | .look path next, disk => some (disk, next (disk.look path))
  | .write path content next, disk =>
    let (after, answer) := settle disk (disk.write path content)
    some (after, next answer)
  | .save path content next, disk =>
    let (after, answer) := disk.save path content
    some (after, next answer)
  | .makeDirectories path next, disk =>
    let (after, answer) := disk.makeDirectories path
    some (after, next answer)
  | .copy source target next, disk =>
    let (after, answer) := settle disk (disk.copy source target)
    some (after, next answer)

/-! ## Interleavings -/

/-- Scripts take turns on a disk until all of them are done: their results, and the disk then. -/
inductive Interleaves : List (Script α) → Disk → List α → Disk → Prop where
  | done (results : List α) (disk : Disk) : Interleaves (results.map .done) disk results disk
  | step {before after : List (Script α)} {script rest : Script α} {disk middle last : Disk}
      {results : List α} (next : script.next? disk = some (middle, rest))
      (others : Interleaves (before ++ rest :: after) middle results last) :
      Interleaves (before ++ script :: after) disk results last

/-- A script may do all its operations before another takes its turn. -/
theorem interleaves_run (before after : List (Script α)) {script : Script α} {disk last : Disk}
    {results : List α}
    (h : Interleaves (before ++ .done (script.run disk).2 :: after) (script.run disk).1 results
      last) :
    Interleaves (before ++ script :: after) disk results last := by
  induction script generalizing disk with
  | done result => exact h
  | read path next ih => exact .step rfl (ih _ h)
  | look path next ih => exact .step rfl (ih _ h)
  | write path content next ih => exact .step rfl (ih _ h)
  | save path content next ih => exact .step rfl (ih _ h)
  | makeDirectories path next ih => exact .step rfl (ih _ h)
  | copy source target next ih => exact .step rfl (ih _ h)

/-- Scripts may run one after another, in order. -/
theorem interleaves_all (scripts : List (Script α)) (disk : Disk) :
    Interleaves scripts disk ((all scripts).run disk).2 ((all scripts).run disk).1 := by
  -- those before are done
  have hrest (results : List α) : Interleaves (results.map .done ++ scripts) disk
      (results ++ ((all scripts).run disk).2) ((all scripts).run disk).1 := by
    induction scripts generalizing disk results with
    | nil =>
      simp only [List.append_nil]
      rw [all, run, List.append_nil]
      exact .done results disk
    | cons script rest ih =>
      refine interleaves_run _ _ ?_
      have hothers := ih (script.run disk).1 (results ++ [(script.run disk).2])
      rw [all, run_bind, run_bind]
      simpa [run] using hothers
  exact hrest []

/-- What is kept by each operation holds when all scripts are done. -/
theorem Interleaves.invariant (Holds : List (Script α) → Disk → Prop)
    (hstep : ∀ {before after : List (Script α)} {script rest : Script α} {disk middle : Disk},
      Holds (before ++ script :: after) disk → script.next? disk = some (middle, rest) →
      Holds (before ++ rest :: after) middle)
    {scripts : List (Script α)} {disk last : Disk} {results : List α}
    (h : Interleaves scripts disk results last) (hfirst : Holds scripts disk) :
    Holds (results.map .done) last := by
  induction h with
  | done results disk => exact hfirst
  | step next _ ih => exact ih (hstep hfirst next)

theorem grows_next? {script rest : Script α} {disk after : Disk}
    (h : script.next? disk = some (after, rest)) : ∃ written, Disk.Grows written disk after := by
  cases script with
  | done result => cases h
  | read path next => cases h; exact ⟨_, .refl [] disk⟩
  | look path next => cases h; exact ⟨_, .refl [] disk⟩
  | write path content next => cases h; exact ⟨_, grows_settle fun _ => Disk.grows_write⟩
  | save path content next => cases h; exact ⟨_, Disk.grows_save disk path content⟩
  | makeDirectories path next => cases h; exact ⟨_, Disk.grows_makeDirectories disk path⟩
  | copy source target next => cases h; exact ⟨_, grows_settle fun _ => Disk.grows_copy⟩

/-- Whatever the order, a disk only grows. -/
theorem Interleaves.grows {scripts : List (Script α)} {disk last : Disk} {results : List α}
    (h : Interleaves scripts disk results last) : ∃ written, Disk.Grows written disk last := by
  refine Interleaves.invariant (fun _ other => ∃ written, Disk.Grows written disk other) ?_ h
    ⟨[], .refl [] disk⟩
  rintro _ _ _ _ other middle ⟨written, hgrows⟩ hnext
  obtain ⟨more, hmore⟩ := grows_next? hnext
  exact ⟨_, hgrows.trans hmore⟩

/-! ## Orders -/

/-- What is left of scripts, and the disk, after turns have been taken: each turn says whose it is,
and one of a script that is done or not there changes nothing. -/
def takeTurns : List Nat → List (Script α) → Disk → List (Script α) × Disk
  | [], scripts, disk => (scripts, disk)
  | turn :: rest, scripts, disk =>
    match scripts[turn]?.bind (·.next? disk) with
    | some (after, script) => takeTurns rest (scripts.set turn script) after
    | none => takeTurns rest scripts disk

/-- A turn of the script at a position. -/
theorem Interleaves.turn {scripts : List (Script α)} {position : Nat} {script rest : Script α}
    {disk middle last : Disk} {results : List α} (hscript : scripts[position]? = some script)
    (next : script.next? disk = some (middle, rest))
    (others : Interleaves (scripts.set position rest) middle results last) :
    Interleaves scripts disk results last := by
  obtain ⟨hposition, rfl⟩ := List.getElem?_eq_some_iff.mp hscript
  rw [List.set_eq_take_append_cons_drop, if_pos hposition] at others
  simpa using Interleaves.step next others

/-- Scripts may take any turns at first; what is left of them is run in order. -/
theorem interleaves_takeTurns (turns : List Nat) (scripts : List (Script α)) (disk : Disk) :
    Interleaves scripts disk
      ((all (takeTurns turns scripts disk).1).run (takeTurns turns scripts disk).2).2
      ((all (takeTurns turns scripts disk).1).run (takeTurns turns scripts disk).2).1 := by
  induction turns generalizing scripts disk with
  | nil => exact interleaves_all scripts disk
  | cons turn rest ih =>
    rw [takeTurns]
    split
    · next after script hnext =>
      obtain ⟨before, hbefore, hstep⟩ := Option.bind_eq_some_iff.mp hnext
      exact .turn hbefore hstep (ih _ after)
    · exact ih scripts disk

end SchemaBundle.Files.Script
