import Mathlib.Data.List.Basic
import SchemaBundle.Proofs.TypeScript.Failure

/-!
# Strict and permissive emission

Strict emission does what permissive emission does until it comes to a reference to a name that no
definition has; there it fails. `Stricter` says so of two parts of emission, and the induction over
schemas carries it from references to whole modules.

* `Scope.schemaType_stricter`: the types of schemas
* `emit_stricter`: modules
* `emit_agrees`: how the results of the two compare
-/

namespace SchemaBundle.TypeScript

open Json (Value)

/-! ## Parts of emission -/

/-- A part of emission is as another one, but may fail for an unknown name where the other does
not. -/
def Stricter {α : Type} (strict permissive : Emit α) : Prop :=
  ∀ comments, strict comments = permissive comments ∨
    ∃ name, strict comments = .error (.unknownRef name)

namespace Stricter

variable {α β : Type}

theorem refl (emit : Emit α) : Stricter emit emit :=
  fun _ => Or.inl rfl

/-- A sequence is stricter than another if its parts are. -/
theorem bind {strict permissive : Emit α} {next other : α → Emit β}
    (h : Stricter strict permissive) (hnext : ∀ a, Stricter (next a) (other a)) :
    Stricter (strict >>= next) (permissive >>= other) := by
  intro comments
  show (strict comments >>= fun s => next s.1 s.2) =
      (permissive comments >>= fun s => other s.1 s.2) ∨
    ∃ name, (strict comments >>= fun s => next s.1 s.2) = .error (.unknownRef name)
  rcases h comments with hsame | ⟨name, hname⟩
  · rw [← hsame]
    cases hfirst : strict comments with
    | error error => exact Or.inl rfl
    | ok result => exact hnext result.1 result.2
  · rw [hname]
    exact Or.inr ⟨name, rfl⟩

theorem mapM {strict permissive : α → Emit β} (h : ∀ a, Stricter (strict a) (permissive a))
    (items : List α) : Stricter (items.mapM strict) (items.mapM permissive) := by
  induction items with
  | nil =>
    rw [List.mapM_nil, List.mapM_nil]
    exact refl _
  | cons item rest ih =>
    rw [List.mapM_cons, List.mapM_cons]
    exact (h item).bind fun _ => ih.bind fun _ => refl _

end Stricter

/-! ## Schemas -/

/-- The scope with undefined names allowed. -/
def Scope.permissive (scope : Scope) : Scope :=
  { scope with strict := false }

namespace Scope

variable (scope : Scope)

/-- Only a reference to a name that no definition has makes a difference. -/
theorem referenceType_stricter (target : Target) :
    Stricter (referenceType scope target) (referenceType scope.permissive target) := by
  cases target with
  | unsupported text => exact Stricter.refl _
  | schema name =>
    intro comments
    simp only [referenceType, permissive]
    cases scope.names.find? name with
    | some typeName => exact Or.inl rfl
    | none =>
      cases scope.strict with
      | false => exact Or.inl rfl
      | true => exact Or.inr ⟨name, rfl⟩

theorem kindType_stricter {array object otherArray otherObject : Emit Ty}
    (harray : Stricter array otherArray) (hobject : Stricter object otherObject) (kind : Kind) :
    Stricter (kindType array object kind) (kindType otherArray otherObject kind) := by
  cases kind with
  | array => exact harray
  | object => exact hobject
  | _ => exact Stricter.refl _

mutual

/-- The type of a schema is the same in permissive emission, unless a name in it is unknown. -/
theorem schemaType_stricter : ∀ schema : Schema,
    Stricter (schemaType scope schema) (schemaType scope.permissive schema)
  | .mk _ form nullable => by
    rw [schemaType, schemaType]
    exact (formType_stricter form).bind fun _ => .refl _

theorem formType_stricter : ∀ form : Form,
    Stricter (formType scope form) (formType scope.permissive form)
  | .unknown => by rw [formType, formType]; exact .refl _
  | .never => by rw [formType, formType]; exact .refl _
  | .reference target => by
    rw [formType, formType]
    exact scope.referenceType_stricter target
  | .constant _ => by rw [formType, formType]; exact .refl _
  | .choice _ => by rw [formType, formType]; exact .refl _
  | .all parts none => by
    rw [formType, formType]
    exact (schemaTypes_stricter parts).bind fun _ => .refl _
  | .all parts (some shape) => by
    rw [formType, formType]
    exact (schemaTypes_stricter parts).bind fun _ =>
      (shapeType_stricter shape).bind fun _ => .refl _
  | .any variants => by
    rw [formType, formType]
    exact (schemaTypes_stricter variants).bind fun _ => .refl _
  | .kind kind items shape => by
    rw [formType, formType]
    exact kindType_stricter (itemsType_stricter items) (shapeType_stricter shape) kind
  | .kinds kinds items shape => by
    have hkind := kindType_stricter (itemsType_stricter items) (shapeType_stricter shape)
    rw [formType, formType]
    exact (Stricter.mapM hkind kinds).bind fun _ => .refl _
  | .object shape => by
    rw [formType, formType]
    exact shapeType_stricter shape

theorem schemaTypes_stricter : ∀ schemas : List Schema,
    Stricter (schemaTypes scope schemas) (schemaTypes scope.permissive schemas)
  | [] => by rw [schemaTypes, schemaTypes]; exact .refl _
  | schema :: rest => by
    rw [schemaTypes, schemaTypes]
    exact (schemaType_stricter schema).bind fun _ =>
      (schemaTypes_stricter rest).bind fun _ => .refl _

theorem itemsType_stricter : ∀ items : Items,
    Stricter (itemsType scope items) (itemsType scope.permissive items)
  | .unspecified => by rw [itemsType, itemsType]; exact .refl _
  | .each schema => by
    rw [itemsType, itemsType]
    exact (schemaType_stricter schema).bind fun _ => .refl _
  | .tuple schemas => by
    rw [itemsType, itemsType]
    exact (schemaTypes_stricter schemas).bind fun _ => .refl _

theorem shapeType_stricter : ∀ shape : Shape,
    Stricter (shapeType scope shape) (shapeType scope.permissive shape)
  | .mk properties further => by
    rw [shapeType, shapeType]
    exact (propertyMembers_stricter properties).bind fun _ =>
      (furtherType_stricter further).bind fun _ => .refl _

theorem propertyMembers_stricter : ∀ properties : List Property,
    Stricter (propertyMembers scope properties) (propertyMembers scope.permissive properties)
  | [] => by rw [propertyMembers, propertyMembers]; exact .refl _
  | .mk _ required schema :: rest => by
    rw [propertyMembers, propertyMembers]
    exact (Stricter.refl _).bind fun _ => (schemaType_stricter schema).bind fun _ =>
      (propertyMembers_stricter rest).bind fun _ => .refl _

theorem furtherType_stricter : ∀ further : Further,
    Stricter (furtherType scope further) (furtherType scope.permissive further)
  | .unmentioned => by rw [furtherType, furtherType]; exact .refl _
  | .anything => by rw [furtherType, furtherType]; exact .refl _
  | .each schema => by
    rw [furtherType, furtherType]
    exact (schemaType_stricter schema).bind fun _ => .refl _

end

/-! ## Definitions -/

theorem definitionBody_stricter (schema : Value) :
    Stricter (definitionBody scope schema) (definitionBody scope.permissive schema) := by
  unfold definitionBody
  split
  · exact (scope.propertyMembers_stricter (mentionedProperties schema)).bind fun _ => .refl _
  · exact (scope.schemaType_stricter schema.schema).bind fun _ => .refl _

theorem definitionDeclarations_stricter (definitions : Entries Value) :
    Stricter (definitionDeclarations scope definitions)
      (definitionDeclarations scope.permissive definitions) := by
  induction definitions with
  | nil =>
    rw [definitionDeclarations, definitionDeclarations]
    exact .refl _
  | cons entry rest ih =>
    obtain ⟨name, schema⟩ := entry
    rw [definitionDeclarations, definitionDeclarations]
    exact (Stricter.refl _).bind fun _ => (scope.definitionBody_stricter schema).bind fun _ =>
      ih.bind fun _ => .refl _

end Scope

/-- Strict emission gives the module that permissive emission gives, fails as permissive emission
does, or finds a name unknown. -/
theorem emit_stricter (definitions : Dict Value) (root : String) :
    emit definitions root true = emit definitions root false ∨
      ∃ name, emit definitions root true = .error (.unknownRef name) := by
  have hdeclarations := Scope.definitionDeclarations_stricter
    ⟨(assignNames root definitions).2, true⟩ definitions.toList ⟨1, []⟩
  unfold emit emitModule
  simp only [Scope.permissive] at hdeclarations ⊢
  rcases hdeclarations with hsame | ⟨name, hname⟩
  · rw [hsame]
    exact Or.inl rfl
  · rw [hname]
    exact Or.inr ⟨name, rfl⟩

/-- Permissive emission fails for a reference that is no supported pointer, and for nothing else. -/
theorem unsupportedRef_of_permissive {definitions : Dict Value} {root : String} {error : EmitError}
    (h : emit definitions root false = .error error) :
    ∃ pointer, error = .unsupportedRef pointer := by
  cases rejects_of_emit h with
  | unknown mem absent strict => cases strict
  | unsupported mem => exact ⟨_, rfl⟩

/--
Strict emission gives what permissive emission gives, or nothing. Where permissive emission fails,
it is for an unsupported reference, and strict emission fails as well, perhaps for another reason.
Where strict emission alone fails, it is for a name that no definition has and at which a reference
of a definition points. If every pointer among the strings of the definitions, in either spelling,
is to a definition, the two have the same result.
-/
theorem emit_agrees (definitions : Dict Value) (root : String) :
    (∀ text, emit definitions root true = .ok text → emit definitions root false = .ok text) ∧
      (∀ error, emit definitions root false = .error error →
        (∃ pointer, error = .unsupportedRef pointer) ∧
          ∃ other, emit definitions root true = .error other) ∧
      (∀ text error, emit definitions root false = .ok text →
        emit definitions root true = .error error →
        ∃ ref : SchemaRef, error = .unknownRef ref.name ∧ ref.name ∉ definitions.keys ∧
          ∃ key schema, definitions.find? key = some schema ∧
            (.string ref.definitionPointer ∈ schema.referenceValues ∨
              .string ref.pointer ∈ schema.referenceValues)) ∧
      ((∀ key schema, definitions.find? key = some schema → ∀ ref : SchemaRef,
          ref.definitionPointer ∈ schema.strings ∨ ref.pointer ∈ schema.strings →
            ref.name ∈ definitions.keys) →
        emit definitions root true = emit definitions root false) := by
  have hstricter := emit_stricter definitions root
  refine ⟨fun text htext => ?_, fun error herror => ?_, fun text error htext herror => ?_,
    fun hdefined => ?_⟩
  · rcases hstricter with hsame | ⟨name, hunknown⟩
    · rw [← hsame, htext]
    · rw [htext] at hunknown
      cases hunknown
  · refine ⟨unsupportedRef_of_permissive herror, ?_⟩
    rcases hstricter with hsame | ⟨name, hunknown⟩
    · exact ⟨error, hsame.trans herror⟩
    · exact ⟨_, hunknown⟩
  · rcases hstricter with hsame | ⟨name, hunknown⟩
    · rw [hsame, htext] at herror
      cases herror
    · obtain ⟨-, habsent, key, schema, hfind, ref, rfl, hreference⟩ :=
        exists_reference_of_unknownRef hunknown
      rw [hunknown] at herror
      cases herror
      exact ⟨ref, rfl, habsent, key, schema, hfind, hreference⟩
  · rcases hstricter with hsame | ⟨name, hunknown⟩
    · exact hsame
    · obtain ⟨-, habsent, key, schema, hfind, ref, rfl, hstring⟩ :=
        exists_string_of_unknownRef hunknown
      exact absurd (hdefined key schema hfind ref hstring) habsent

/-- A horse whose rider is not defined. -/
def stable : Dict Value :=
  .ofPairs [
    ("Horse", .object [("properties", .object [
      ("stall", .object [("$ref", .string "#/components/schemas/Stall")]),
      ("rider", .object [("$ref", .string "#/definitions/Rider")])])]),
    ("Stall", .object [("type", .string "string")])]

/-- A foal whose stall is elsewhere, after a horse whose rider is not defined. -/
def strangers : Dict Value :=
  .ofPairs [
    ("Horse", .object [("$ref", .string "#/definitions/Rider")]),
    ("Foal", .object [("$ref", .string "stalls.json")])]

/-- A foal whose stall is elsewhere. -/
def foals : Dict Value :=
  .ofPairs [("Foal", .object [("$ref", .string "stalls.json")])]

theorem emit_agrees_horses :
    (emit stable "farm" true = .error (.unknownRef "Rider") ∧ "Rider" ∉ stable.keys ∧
      ∃ key schema, stable.find? key = some schema ∧
        (.string (definitionsPointer ++ "Rider") ∈ schema.referenceValues ∨
          .string (schemasPointer ++ "Rider") ∈ schema.referenceValues)) ∧
    (emit strangers "farm" false = .error (.unsupportedRef "stalls.json") ∧
      emit strangers "farm" true = .error (.unknownRef "Rider") ∧
      ∃ other, emit strangers "farm" true = .error other) ∧
    emit foals "farm" true = emit foals "farm" false := by
  have hsome : (emit stable "farm" false).toOption.isSome = true := by decide +kernel
  have hunknown : emit stable "farm" true = .error (.unknownRef "Rider") := by decide +kernel
  have hunsupported : emit strangers "farm" false = .error (.unsupportedRef "stalls.json") := by
    decide +kernel
  have hstrings : ∀ entry ∈ foals.entries, entry.2.strings = ["stalls.json"] := by decide +kernel
  refine ⟨⟨hunknown, ?_⟩, ⟨hunsupported, by decide +kernel, ?_⟩, ?_⟩
  · cases htext : emit stable "farm" false with
    | error error => simp [htext, Except.toOption] at hsome
    | ok text =>
      obtain ⟨ref, herror, habsent, key, schema, hfind, hreference⟩ :=
        (emit_agrees stable "farm").2.2.1 text _ htext hunknown
      obtain ⟨name, hvalid⟩ := ref
      cases herror
      exact ⟨habsent, key, schema, hfind, hreference⟩
  · exact ((emit_agrees strangers "farm").2.1 _ hunsupported).2
  · refine (emit_agrees foals "farm").2.2.2 fun key schema hfind ref hpointer => ?_
    rw [hstrings _ (Entries.mem_of_find? hfind), List.mem_singleton, List.mem_singleton] at hpointer
    -- the text starts in neither of the two ways
    rcases hpointer with heq | heq
    · simp [← String.toList_inj, SchemaRef.definitionPointer, definitionsPointer] at heq
    · simp [← String.toList_inj, SchemaRef.pointer, schemasPointer] at heq

end SchemaBundle.TypeScript
