import SchemaBundle.Proofs.Naming.Distinct
import SchemaBundle.Proofs.Naming.Identifiers
import SchemaBundle.Proofs.Resolution.Closure
import SchemaBundle.Proofs.TypeScript.Failure
import SchemaBundle.Proofs.TypeScript.References

/-!
# Declarations and references line up

A module declares the root and then each definition, in order, under names that differ in more than
case. Wherever a definition refers to a schema that is defined, its declaration names the type that
this schema is declared as, and it names no other types.

* `emitted_declarations`: what the declarations of an emitted module are
-/

namespace SchemaBundle.TypeScript

open Json (Value)

/-- A declaration stands for a definition: it has the name declared for the key, and at every path
it names the types declared for the defined schemas that the definition refers to, and no others. -/
structure Declaration.StandsFor (declared : String → String) (defined : List String)
    (entry : String × Value) (declaration : Declaration) : Prop where
  name : declaration.name = declared entry.1
  names : ∀ path type, type ∈ declaration.body.namesAt path ↔
    ∃ name ∈ entry.2.schema.referencesAt path, name ∈ defined ∧ type = declared name

/-! ## Names of declarations -/

/-- The name that a definition is declared under. -/
def declaredName (root : String) (definitions : Dict Value) (key : String) : String :=
  ((assignNames root definitions).2.find? key).getD ""

section Names

variable (root : String) (definitions : Dict Value)

/-- The names after that of the root. -/
def givenNames : List String :=
  (((NamePool.empty.give (typeName root)).2).giveAll (definitions.keys.map typeName)).1

theorem entries_assignNames :
    (assignNames root definitions).2.entries =
      definitions.keys.zip (givenNames root definitions) := by
  refine Entries.ofPairs_of_nodup ?_
  rw [Entries.keys, List.map_fst_zip]
  · exact definitions.nodup
  · rw [length_giveAll, List.length_map]

/-- The definitions are declared under the names that are given out, in order. -/
theorem map_declaredName :
    definitions.keys.map (declaredName root definitions) = givenNames root definitions := by
  have hlength : (givenNames root definitions).length = definitions.keys.length := by
    rw [givenNames, length_giveAll, List.length_map]
  have hkeys : Entries.keys (assignNames root definitions).2.entries = definitions.keys := by
    rw [entries_assignNames, Entries.keys, List.map_fst_zip (Nat.le_of_eq hlength.symm)]
  have hvalues := Entries.map_find?_keys (assignNames root definitions).2.nodup ""
  rw [hkeys, entries_assignNames, List.map_snd_zip (Nat.le_of_eq hlength)] at hvalues
  rw [← hvalues]
  refine List.map_congr_left fun key _ => ?_
  rw [declaredName, Dict.find?, entries_assignNames]

/-- The names of the root and of the definitions differ in more than case. -/
theorem nodup_declaredNames :
    ((typeName root :: definitions.keys.map (declaredName root definitions)).map
      NamePool.foldName).Nodup := by
  rw [map_declaredName]
  exact (NamePool.nodup_giveAll NamePool.empty (typeName root :: definitions.keys.map typeName)).1

/-- A definition is declared under the name of its type, with a number after it or not. -/
theorem declaredName_spelling {key : String} (h : key ∈ definitions.keys) :
    declaredName root definitions key = typeName key ∨
      ∃ number, declaredName root definitions key = NamePool.numbered (typeName key) number := by
  have hgiven := NamePool.forall₂_giveAll (NamePool.empty.give (typeName root)).2
    (definitions.keys.map typeName)
  rw [← givenNames, ← map_declaredName, List.forall₂_map_left_iff, List.forall₂_map_right_iff,
    List.forall₂_same] at hgiven
  exact hgiven key h

theorem isIdentifier_declaredName {key : String} (h : key ∈ definitions.keys)
    (hname : isSchemaName key = true) :
    isIdentifier (declaredName root definitions key) = true := by
  have htype := isIdentifier_typeName hname
  rcases declaredName_spelling root definitions h with heq | ⟨number, heq⟩
  · rw [heq]
    exact htype
  · rw [heq]
    exact isIdentifier_numbered htype number

end Names

/-! ## Declarations of definitions -/

/-- Each definition has its declaration, in order. -/
theorem Scope.definitionDeclarations_standFor (scope : Scope) (definitions : Entries Value) :
    Yields (List.Forall₂ (fun entry declaration => declaration.StandsFor
        (fun key => (scope.names.find? key).getD "") scope.names.keys entry) definitions)
      (definitionDeclarations scope definitions) := by
  induction definitions with
  | nil =>
    rw [definitionDeclarations]
    exact .pure .nil
  | cons entry rest ih =>
    obtain ⟨key, schema⟩ := entry
    rw [definitionDeclarations]
    refine (Yields.trivial _).bind fun _ _ => ?_
    refine (scope.definitionBody_namesDeclared schema).bind fun body hbody => ?_
    refine ih.bind fun declarations hd => .pure (.cons ⟨rfl, fun path type => ?_⟩ hd)
    rw [hbody path type]
    refine exists_congr fun name => and_congr_right fun _ => ?_
    -- a name that is looked up is a key, and its type the one that is found
    constructor
    · intro hfind
      refine ⟨Entries.find?_isSome.mp (by rw [← Dict.find?, hfind]; rfl), ?_⟩
      simp [hfind]
    · rintro ⟨hkey, rfl⟩
      obtain ⟨found, hfound⟩ := Option.isSome_iff_exists.mp (Entries.find?_isSome.mpr hkey)
      rw [Dict.find?, hfound, Option.getD_some]

/--
If definitions have a module, it declares the root, as an empty interface under the name of its
type, and after it exactly the definitions, in order. All names differ in more than case. Each
definition names, wherever it refers to a schema that is defined, the type that this schema is
declared as; a pointer is such a reference in either spelling. Definitions whose keys are schema
names, as in every bundle, have identifiers as names.
-/
theorem emitted_declarations {definitions : Dict Value} {root text : String} {strict : Bool}
    (h : emit definitions root strict = .ok text) :
    ∃ (module : Module) (declared : String → String) (declarations : List Declaration),
      emitModule definitions root strict = .ok module ∧ text = module.text ∧
      module.declarations = ⟨typeName root, .interface [], none⟩ :: declarations ∧
      List.Forall₂ (fun entry declaration =>
        declaration.StandsFor declared definitions.keys entry) definitions.toList declarations ∧
      (module.declarations.map fun declaration => NamePool.foldName declaration.name).Nodup ∧
      (∀ (entries : Entries Value) (ref : SchemaRef),
        Entries.find? "$ref" entries = some (.string ref.pointer) ∨
          Entries.find? "$ref" entries = some (.string ref.definitionPointer) →
        (Value.object entries).schema.referencesAt [] = [ref.name]) ∧
      ((∀ key ∈ definitions.keys, isSchemaName key = true) →
        ∀ declaration ∈ declarations, isIdentifier declaration.name = true) ∧
      (∀ (registry : Registry) (source : String),
        definitions.keys = (registry.resolve source).bundle.keys →
        ∀ key ∈ definitions.keys, isSchemaName key = true) := by
  unfold emit at h
  cases hmodule : emitModule definitions root strict with
  | error error =>
    rw [hmodule] at h
    cases h
  | ok module =>
    rw [hmodule] at h
    cases h
    unfold emitModule at hmodule
    simp only at hmodule
    split at hmodule
    · cases hmodule
    · next declarations comments hdeclarations =>
      cases hmodule
      have hall : List.Forall₂ (fun entry declaration => declaration.StandsFor
          (declaredName root definitions) definitions.keys entry) definitions.toList
          declarations := by
        refine (Scope.definitionDeclarations_standFor _ _ _ _ hdeclarations).imp ?_
        intro entry declaration hstands
        refine ⟨hstands.name, fun path type => ?_⟩
        rw [hstands.names path type]
        simp only [mem_keys_assignNames]
        rfl
      have hnames : declarations.map Declaration.name =
          definitions.keys.map (declaredName root definitions) := by
        rw [Dict.keys, Entries.keys, List.map_map]
        refine List.forall₂_eq_eq_eq ▸ ?_
        exact List.forall₂_map_left_iff.mpr <| List.forall₂_map_right_iff.mpr <|
          (hall.imp fun _ _ hstands => hstands.name).flip
      refine ⟨_, declaredName root definitions, declarations, rfl, rfl, rfl, hall, ?_, ?_, ?_, ?_⟩
      · have hnodup := nodup_declaredNames root definitions
        rw [← hnames, List.map_cons, List.map_map] at hnodup
        exact hnodup
      · exact fun entries ref => Value.referencesAt_of_pointer
      · intro hkeys declaration hd
        have hname := List.mem_map_of_mem (f := Declaration.name) hd
        rw [hnames] at hname
        obtain ⟨key, hkey, heq⟩ := List.mem_map.mp hname
        rw [← heq]
        exact isIdentifier_declaredName root definitions hkey (hkeys key hkey)
      · intro registry source heq key hkey
        rw [heq] at hkey
        exact Registry.isSchemaName_of_mem_resolve hkey

/-- Three schemas whose types would have one name but for case, or the name of the root. -/
def herd : Dict Value :=
  .ofPairs [
    ("sheep_dog", .object [("$ref", .string "#/definitions/SheepDog")]),
    ("SheepDog", .object [("type", .string "object"), ("properties", .object [
      ("flock", .object [("type", .string "array"),
        ("items", .object [("$ref", .string "#/components/schemas/farm")])])])]),
    ("farm", .object [("type", .string "string")])]

theorem emitted_declarations_herd : ∃ module declarations,
    emitModule herd "farm" true = .ok module ∧
    module.declarations = ⟨"Farm", .interface [], none⟩ :: declarations ∧
    declarations.map Declaration.name = ["SheepDog", "SheepDog2", "Farm2"] ∧
    (module.declarations.map fun declaration => NamePool.foldName declaration.name).Nodup ∧
    ∀ declaration ∈ declarations, isIdentifier declaration.name = true := by
  have hsome : (emit herd "farm" true).toOption.isSome = true := by decide +kernel
  have hnames : (emitModule herd "farm" true).toOption.map
      (fun module => module.declarations.map Declaration.name) =
        some ["Farm", "SheepDog", "SheepDog2", "Farm2"] := by
    decide +kernel
  cases htext : emit herd "farm" true with
  | error error => simp [htext, Except.toOption] at hsome
  | ok text =>
    obtain ⟨module, _, declarations, hmodule, _, hroot, _, hnodup, _, hidentifiers, _⟩ :=
      emitted_declarations htext
    rw [hmodule, Except.toOption, Option.map_some, hroot] at hnames
    exact ⟨module, declarations, hmodule, hroot, (List.cons.inj (Option.some.inj hnames)).2, hnodup,
      hidentifiers (by decide)⟩

end SchemaBundle.TypeScript
