import SchemaBundle.Proofs.Schema.Spelling
import SchemaBundle.TypeScript.Printer

/-!
# Types and the spelling of references

Emission succeeds on the gist of a schema as it does on the schema: with the same type, and where it
does. So it succeeds on definitions as on those whose references have been pointed at definitions,
if nothing but the key for references points at schemas. What differs is why it fails.

* `SucceedsAs`: two parts of emission have the same results
* `Scope.schemaType_gist`: the types of schemas
* `emit_rewriteReferences_eq_ok`: modules
-/

namespace SchemaBundle.TypeScript

open Json (Value)

/-! ## Parts of emission -/

/-- A part of emission has the results that another one has, but may fail for another reason. -/
def SucceedsAs {α : Type} (emit other : Emit α) : Prop :=
  ∀ comments, (emit comments).toOption = (other comments).toOption

namespace SucceedsAs

variable {α β : Type}

theorem refl (emit : Emit α) : SucceedsAs emit emit :=
  fun _ => rfl

theorem symm {emit other : Emit α} (h : SucceedsAs emit other) : SucceedsAs other emit :=
  fun comments => (h comments).symm

theorem trans {emit other third : Emit α} (h : SucceedsAs emit other)
    (hnext : SucceedsAs other third) : SucceedsAs emit third :=
  fun comments => (h comments).trans (hnext comments)

/-- A sequence succeeds as another one if its parts do. -/
theorem bind {emit other : Emit α} {next following : α → Emit β} (h : SucceedsAs emit other)
    (hnext : ∀ a, SucceedsAs (next a) (following a)) :
    SucceedsAs (emit >>= next) (other >>= following) := by
  intro comments
  have hfirst := h comments
  show (emit comments >>= fun s => next s.1 s.2).toOption =
    (other comments >>= fun s => following s.1 s.2).toOption
  match emit comments, other comments, hfirst with
  | .error _, .error _, _ => rfl
  | .ok result, .ok _, rfl => exact hnext result.1 result.2

theorem mapM {emit other : α → Emit β} (h : ∀ a, SucceedsAs (emit a) (other a)) (items : List α) :
    SucceedsAs (items.mapM emit) (items.mapM other) := by
  induction items with
  | nil =>
    rw [List.mapM_nil, List.mapM_nil]
    exact refl _
  | cons item rest ih =>
    rw [List.mapM_cons, List.mapM_cons]
    exact (h item).bind fun _ => ih.bind fun _ => refl _

end SucceedsAs

/-! ## Schemas -/

theorem literal_gist (value : Value) : literal value.gist = literal value := by
  cases value <;> rfl

theorem description_gist (schema : Schema) : schema.gist.description = schema.description := by
  cases schema
  rfl

namespace Scope

variable (scope : Scope)

/-- A reference that is not supported has no type, whatever its text. -/
theorem referenceType_gist (target : Target) :
    SucceedsAs (referenceType scope target.gist) (referenceType scope target) := by
  cases target with
  | schema name => exact .refl _
  | unsupported text => exact fun _ => rfl

theorem kindType_succeedsAs {array object otherArray otherObject : Emit Ty}
    (harray : SucceedsAs array otherArray) (hobject : SucceedsAs object otherObject) (kind : Kind) :
    SucceedsAs (kindType array object kind) (kindType otherArray otherObject kind) := by
  cases kind with
  | array => exact harray
  | object => exact hobject
  | _ => exact .refl _

mutual

/-- The gist of a schema has the type of the schema. -/
theorem schemaType_gist : ∀ schema : Schema,
    SucceedsAs (schemaType scope schema.gist) (schemaType scope schema)
  | .mk _ form nullable => by
    rw [Schema.gist, schemaType, schemaType]
    exact (formType_gist form).bind fun _ => .refl _

theorem formType_gist : ∀ form : Form,
    SucceedsAs (formType scope form.gist) (formType scope form)
  | .unknown => .refl _
  | .never => .refl _
  | .reference target => by
    rw [Form.gist, formType, formType]
    exact scope.referenceType_gist target
  | .constant value => by
    rw [Form.gist, formType, formType, literal_gist]
    exact .refl _
  | .choice values => by
    rw [Form.gist, formType, formType, List.map_map,
      funext (f := literal ∘ Value.gist) literal_gist]
    exact .refl _
  | .all parts none => by
    rw [Form.gist, formType, formType]
    exact (schemaTypes_gist parts).bind fun _ => .refl _
  | .all parts (some shape) => by
    rw [Form.gist, formType, formType]
    exact (schemaTypes_gist parts).bind fun _ => (shapeType_gist shape).bind fun _ => .refl _
  | .any variants => by
    rw [Form.gist, formType, formType]
    exact (schemaTypes_gist variants).bind fun _ => .refl _
  | .kind kind items shape => by
    rw [Form.gist, formType, formType]
    exact kindType_succeedsAs (itemsType_gist items) (shapeType_gist shape) kind
  | .kinds kinds items shape => by
    have hkind := kindType_succeedsAs (itemsType_gist items) (shapeType_gist shape)
    rw [Form.gist, formType, formType]
    exact (SucceedsAs.mapM hkind kinds).bind fun _ => .refl _
  | .object shape => by
    rw [Form.gist, formType, formType]
    exact shapeType_gist shape

theorem schemaTypes_gist : ∀ schemas : List Schema,
    SucceedsAs (schemaTypes scope (Schema.gists schemas)) (schemaTypes scope schemas)
  | [] => .refl _
  | schema :: rest => by
    rw [Schema.gists, schemaTypes, schemaTypes]
    exact (schemaType_gist schema).bind fun _ => (schemaTypes_gist rest).bind fun _ => .refl _

theorem itemsType_gist : ∀ items : Items,
    SucceedsAs (itemsType scope items.gist) (itemsType scope items)
  | .unspecified => .refl _
  | .each schema => by
    rw [Items.gist, itemsType, itemsType]
    exact (schemaType_gist schema).bind fun _ => .refl _
  | .tuple schemas => by
    rw [Items.gist, itemsType, itemsType]
    exact (schemaTypes_gist schemas).bind fun _ => .refl _

theorem shapeType_gist : ∀ shape : Shape,
    SucceedsAs (shapeType scope shape.gist) (shapeType scope shape)
  | .mk properties further => by
    rw [Shape.gist, shapeType, shapeType]
    exact (propertyMembers_gist properties).bind fun _ =>
      (furtherType_gist further).bind fun _ => .refl _

theorem propertyMembers_gist : ∀ properties : List Property,
    SucceedsAs (propertyMembers scope (Property.gists properties))
      (propertyMembers scope properties)
  | [] => .refl _
  | .mk _ required schema :: rest => by
    rw [Property.gists, propertyMembers, propertyMembers, description_gist]
    exact (SucceedsAs.refl _).bind fun _ => (schemaType_gist schema).bind fun _ =>
      (propertyMembers_gist rest).bind fun _ => .refl _

theorem furtherType_gist : ∀ further : Further,
    SucceedsAs (furtherType scope further.gist) (furtherType scope further)
  | .unmentioned => .refl _
  | .anything => .refl _
  | .each schema => by
    rw [Further.gist, furtherType, furtherType]
    exact (schemaType_gist schema).bind fun _ => .refl _

end

/-- Schemas with one gist have one type. -/
theorem schemaType_congr {schema other : Schema} (h : schema.gist = other.gist) :
    SucceedsAs (schemaType scope schema) (schemaType scope other) :=
  (scope.schemaType_gist schema).symm.trans (h ▸ scope.schemaType_gist other)

theorem propertyMembers_congr {properties others : List Property}
    (h : Property.gists properties = Property.gists others) :
    SucceedsAs (propertyMembers scope properties) (propertyMembers scope others) :=
  (scope.propertyMembers_gist properties).symm.trans (h ▸ scope.propertyMembers_gist others)

/-! ## Definitions -/

theorem definitionBody_rewriteReferences {schema : Value} (h : schema.KeysReferences) :
    SucceedsAs (definitionBody scope schema.rewriteReferences) (definitionBody scope schema) := by
  unfold definitionBody
  rw [Value.isInterface_rewriteReferences h]
  split
  · exact (scope.propertyMembers_congr
      (Value.gists_mentionedProperties_rewriteReferences h)).bind fun _ => .refl _
  · exact (scope.schemaType_congr (Value.gist_schema_rewriteReferences h)).bind fun _ => .refl _

theorem definitionDeclarations_rewriteReferences {definitions : Entries Value}
    (h : ∀ entry ∈ definitions, entry.2.KeysReferences) :
    SucceedsAs
      (definitionDeclarations scope (Entries.mapValues Value.rewriteReferences definitions))
      (definitionDeclarations scope definitions) := by
  induction definitions with
  | nil => exact .refl _
  | cons entry rest ih =>
    obtain ⟨name, schema⟩ := entry
    obtain ⟨hschema, hrest⟩ := List.forall_mem_cons.mp h
    show SucceedsAs (definitionDeclarations scope
      ((name, schema.rewriteReferences) :: Entries.mapValues Value.rewriteReferences rest)) _
    rw [definitionDeclarations, definitionDeclarations,
      Value.description?_rewriteReferences hschema]
    exact (SucceedsAs.refl _).bind fun _ =>
      (scope.definitionBody_rewriteReferences hschema).bind fun _ =>
        (ih hrest).bind fun _ => .refl _

end Scope

theorem assignNames_mapValues (root : String) (definitions : Dict Value) (f : Value → Value) :
    assignNames root (definitions.mapValues f) = assignNames root definitions := by
  have hkeys : (definitions.mapValues f).keys = definitions.keys := Entries.keys_mapValues _ _
  rw [assignNames, assignNames, hkeys]

/-- The text of a module comes from its declarations, and there is none if these fail. -/
theorem toOption_emit (definitions : Dict Value) (root : String) (strict : Bool) :
    (emit definitions root strict).toOption =
      (definitionDeclarations ⟨(assignNames root definitions).2, strict⟩ definitions.toList
          ⟨1, []⟩).toOption.map fun (declarations, comments) =>
        Module.text ⟨⟨(assignNames root definitions).1, .interface [], none⟩ :: declarations,
          comments⟩ := by
  unfold emit emitModule
  simp only
  cases definitionDeclarations ⟨(assignNames root definitions).2, strict⟩ definitions.toList
    ⟨1, []⟩ <;> rfl

/-- Emission gives the same for definitions whose references have been pointed at definitions, if it
gives anything. -/
theorem toOption_emit_rewriteReferences {definitions : Dict Value}
    (h : ∀ key schema, definitions.find? key = some schema → schema.KeysReferences)
    (root : String) (strict : Bool) :
    (emit (definitions.mapValues Value.rewriteReferences) root strict).toOption =
      (emit definitions root strict).toOption := by
  have hentries : ∀ entry ∈ definitions.toList, entry.2.KeysReferences := fun entry hentry =>
    h entry.1 entry.2 (Entries.find?_of_mem definitions.nodup hentry)
  rw [toOption_emit, toOption_emit, assignNames_mapValues]
  exact congrArg (Option.map _) (Scope.definitionDeclarations_rewriteReferences _ hentries ⟨1, []⟩)

theorem emit_rewriteReferences_eq_ok {definitions : Dict Value}
    (h : ∀ key schema, definitions.find? key = some schema → schema.KeysReferences)
    (root : String) (strict : Bool) (text : String) :
    emit (definitions.mapValues Value.rewriteReferences) root strict = .ok text ↔
      emit definitions root strict = .ok text := by
  match emit (definitions.mapValues Value.rewriteReferences) root strict,
    emit definitions root strict, toOption_emit_rewriteReferences h root strict with
  | .error _, .error _, _ => exact ⟨nofun, nofun⟩
  | .ok _, .ok _, rfl => exact Iff.rfl

end SchemaBundle.TypeScript
