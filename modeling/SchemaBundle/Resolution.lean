import SchemaBundle.Reference.Scan
import SchemaBundle.Reference.Visitor
import SchemaBundle.Registry

/-!
# Resolving references

A document needs the schemas it refers to, those that these refer to, and so on. They are found
breadth first: names wait in a queue, each enters it at most once, and the schema of each name
that is taken from it adds the names it refers to. Names that the registry defines make the
bundle, in the order in which they were discovered, and the others are left unresolved.
-/

namespace SchemaBundle

open Json (Value)

/-- A set of named schemas, in the order of discovery. -/
abbrev Bundle := Dict Value

/-- What resolving gives: the schemas found, and the names that are not defined. -/
structure Resolution where
  bundle : Bundle
  unresolved : List String
deriving DecidableEq

/-- The names that a schema refers to, in the order of its text, with repeats. -/
def referencedNames (schema : Value) : List String :=
  (Visitor.start schema).toList.map SchemaRef.name

/-- The names of a list that are not seen yet, each once, in order of first appearance. -/
def fresh (seen : List String) : List String → List String
  | [] => []
  | name :: rest =>
    if name ∈ seen then fresh seen rest else name :: fresh (name :: seen) rest

theorem mem_fresh {seen names : List String} {name : String} :
    name ∈ fresh seen names ↔ name ∈ names ∧ name ∉ seen := by
  induction names generalizing seen with
  | nil => simp [fresh]
  | cons first rest ih =>
    by_cases h : first ∈ seen
    · simp only [fresh, h, if_true, ih, List.mem_cons]
      constructor
      · rintro ⟨hr, hs⟩; exact ⟨.inr hr, hs⟩
      · rintro ⟨rfl | hr, hs⟩
        · exact absurd h hs
        · exact ⟨hr, hs⟩
    · simp only [fresh, h, if_false, List.mem_cons, ih, not_or]
      by_cases hn : name = first
      · subst hn; simp [h]
      · simp [hn]

theorem nodup_fresh (seen names : List String) : (fresh seen names).Nodup := by
  induction names generalizing seen with
  | nil => simp [fresh]
  | cons first rest ih =>
    by_cases h : first ∈ seen
    · simp [fresh, h, ih]
    · simp [fresh, h, ih, mem_fresh]

/-! ## The worklist -/

/-- The state of resolving. -/
structure Worklist where
  /-- The names taken from the queue, in order. -/
  visited : List String
  /-- The names that wait, next first. -/
  queue : List String
  bundle : Bundle
  unresolved : List String

namespace Worklist

/-- The names to start with wait, each once. -/
def start (names : List String) : Worklist :=
  ⟨[], fresh [] names, ∅, []⟩

/-- Every name that ever entered the queue, in the order in which it did. -/
def seen (work : Worklist) : List String :=
  work.visited ++ work.queue

/-- Takes a name from the front of the queue. -/
def visit (registry : Registry) (name : String) (rest : List String) (work : Worklist) :
    Worklist :=
  match registry.schema? name with
  | none =>
    { work with
      visited := work.visited ++ [name]
      queue := rest
      unresolved := work.unresolved ++ [name] }
  | some schema =>
    { work with
      visited := work.visited ++ [name]
      queue := rest ++ fresh work.seen (referencedNames schema)
      bundle := work.bundle.insert name schema }

end Worklist

namespace Registry

/-- Every name that a schema of the registry refers to, with repeats. -/
def referencedNames (registry : Registry) : List String :=
  registry.schemas.toList.flatMap fun (_, schema) => SchemaBundle.referencedNames schema

theorem mem_referencedNames {registry : Registry} {name other : String} {schema : Value}
    (h : registry.schema? name = some schema)
    (hmem : other ∈ SchemaBundle.referencedNames schema) : other ∈ registry.referencedNames := by
  have key : ∀ entries : Entries Value, Entries.find? name entries = some schema →
      (name, schema) ∈ entries := by
    intro entries
    induction entries with
    | nil => simp [Entries.find?]
    | cons entry rest ih =>
      obtain ⟨k, v⟩ := entry
      by_cases hk : k = name
      · simp only [Entries.find?, hk, if_true, Option.some.injEq, List.mem_cons]
        rintro rfl
        exact .inl rfl
      · simp only [Entries.find?, hk, if_false, List.mem_cons]
        exact fun h => .inr (ih h)
  exact List.mem_flatMap.2 ⟨(name, schema), key _ h, hmem⟩

end Registry

namespace Worklist

/-- The names referred to in the registry that never entered the queue. -/
def unseen (registry : Registry) (work : Worklist) : List String :=
  registry.referencedNames.filter fun name => name ∉ work.seen

/--
Bounds the rounds that are left: a name in the queue takes one, and a name that is not seen
enters the queue at most once.
-/
def measure (registry : Registry) (work : Worklist) : Nat :=
  2 * (work.unseen registry).length + work.queue.length

/-- Leaving out further names, all of which stand in the list, makes it shorter by as many. -/
theorem length_filter_notMem_append (names seen more : List String) (hnodup : more.Nodup)
    (hmem : ∀ name ∈ more, name ∈ names ∧ name ∉ seen) :
    (names.filter fun name => name ∉ seen ++ more).length + more.length ≤
      (names.filter fun name => name ∉ seen).length := by
  induction more generalizing seen with
  | nil => simp
  | cons name more ih =>
    have hn := hmem name (by simp)
    have hd := List.nodup_cons.1 hnodup
    have step := ih (seen ++ [name]) hd.2 (by
      intro other ho
      refine ⟨(hmem other (by simp [ho])).1, ?_⟩
      rw [List.mem_append, List.mem_singleton, not_or]
      exact ⟨(hmem other (by simp [ho])).2, fun h => hd.1 (h ▸ ho)⟩)
    have one : (names.filter fun other => other ∉ seen ++ [name]).length + 1 ≤
        (names.filter fun other => other ∉ seen).length := by
      have sub : (names.filter fun other => other ∉ seen ++ [name]) =
          (names.filter fun other => other ∉ seen).filter fun other => other ≠ name := by
        rw [List.filter_filter]
        congr 1
        funext other
        by_cases h : other = name <;> simp [h]
      rw [sub]
      have hin : name ∈ names.filter fun other => other ∉ seen := by
        simp [List.mem_filter, hn.1, hn.2]
      exact List.length_filter_lt_length_iff_exists.2 ⟨name, hin, by simp⟩
    simp only [List.append_assoc, List.singleton_append] at step
    simp only [List.length_cons]
    omega

/-- Taking a name from the queue brings the end nearer. -/
theorem measure_visit_lt {registry : Registry} {name : String} {rest : List String}
    {work : Worklist} (h : work.queue = name :: rest) :
    (work.visit registry name rest).measure registry < work.measure registry := by
  unfold visit
  split
  · simp [measure, unseen, seen, h]
  · rename_i schema hs
    have hseen : work.visited ++ [name] ++
        (rest ++ fresh work.seen (SchemaBundle.referencedNames schema)) =
        work.seen ++ fresh work.seen (SchemaBundle.referencedNames schema) := by
      simp [seen, h]
    have := length_filter_notMem_append registry.referencedNames work.seen
      (fresh work.seen (SchemaBundle.referencedNames schema)) (nodup_fresh _ _) (by
        intro other ho
        rw [mem_fresh] at ho
        exact ⟨Registry.mem_referencedNames hs ho.1, ho.2⟩)
    simp only [measure, unseen, seen, h, List.length_append, List.length_cons] at this hseen ⊢
    rw [hseen]
    omega

/-- Takes names from the queue until it is empty. -/
def run (registry : Registry) (work : Worklist) : Worklist :=
  match _h : work.queue with
  | [] => work
  | name :: rest => run registry (work.visit registry name rest)
termination_by work.measure registry
decreasing_by exact measure_visit_lt _h

end Worklist

/-! ## Resolutions -/

namespace Registry

/-- The schemas that a list of names needs. -/
def resolveNames (registry : Registry) (names : List String) : Resolution :=
  let work := (Worklist.start names).run registry
  ⟨work.bundle, work.unresolved⟩

/-- The schemas that a text needs, by the quoted references in it. -/
def resolve (registry : Registry) (source : String) : Resolution :=
  registry.resolveNames ((SchemaRef.scan source).map SchemaRef.name)

end Registry

/-- The names that a resolution could not find. -/
structure UnresolvedRefs where
  names : List String
deriving DecidableEq, Repr

/-- The text of the error that undefined names are. -/
def UnresolvedRefs.message (error : UnresolvedRefs) : String :=
  "references to undefined schemas: " ++
    ", ".intercalate (error.names.map fun name => "`" ++ name ++ "`")

namespace Resolution

/-- Nothing is needed. -/
def empty : Resolution :=
  ⟨∅, []⟩

/-- The bundle, if every name was found. -/
def strict (resolution : Resolution) : Except UnresolvedRefs Bundle :=
  if resolution.unresolved.isEmpty then .ok resolution.bundle
  else .error ⟨resolution.unresolved⟩

/-- Whether two resolutions hold the same schemas and the same names, in whatever order. -/
def sameAs (a b : Resolution) : Bool :=
  a.bundle.sameEntries b.bundle && a.unresolved.length == b.unresolved.length &&
    a.unresolved.all fun name => name ∈ b.unresolved

end Resolution

end SchemaBundle
