import SchemaBundle.Dict
import SchemaBundle.Text.Folding

/-!
# Names that differ in more than case

Names are given out so that no two of them are the same but for case. A name that is taken gets
the first free number, counted from 2, after it. The numbers below the one that a name got last
are all taken, so the search goes on from there.
-/

namespace SchemaBundle

/-- The names given out, by what they are without case, each with the number reached. -/
structure NamePool where
  reached : Dict Nat

namespace NamePool

/-- No name is given out. -/
def empty : NamePool :=
  ⟨∅⟩

instance : EmptyCollection NamePool := ⟨empty⟩

/-- A name without case. -/
def foldName (name : String) : String :=
  String.ofList (Text.fold name.toList)

/-- A name with a number after it. -/
def numbered (name : String) (number : Nat) : String :=
  name ++ toString number

/-- Whether a name is given out, in whatever case. -/
def isTaken (pool : NamePool) (name : String) : Bool :=
  pool.reached.contains (foldName name)

/-- Writes down that a name is given out, and the number reached for it. -/
def record (pool : NamePool) (name : String) (number : Nat) : NamePool :=
  ⟨pool.reached.insert (foldName name) number⟩

/-- The first free number from `number` on, among the next `count`. -/
def freeNumber? (pool : NamePool) (name : String) (number : Nat) : Nat → Option Nat
  | 0 => none
  | count + 1 =>
    if pool.isTaken (numbered name number) then freeNumber? pool name (number + 1) count
    else some number

/-- Gives out a name. Of one number more than there are names, at least one is free. -/
def give (pool : NamePool) (name : String) : String × NamePool :=
  match pool.reached.find? (foldName name) with
  | none => (name, pool.record name 1)
  | some last =>
    match pool.freeNumber? name (last + 1) (pool.reached.size + 1) with
    | none => (name, pool)
    | some number =>
      (numbered name number, (pool.record (numbered name number) 1).record name number)

/-- Gives out names one after another. -/
def giveAll : NamePool → List String → List String × NamePool
  | pool, [] => ([], pool)
  | pool, name :: rest =>
    let (given, pool) := pool.give name
    let (more, pool) := giveAll pool rest
    (given :: more, pool)

end NamePool

end SchemaBundle
