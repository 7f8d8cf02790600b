import SchemaBundle.Proofs.Schema.Targets
import SchemaBundle.TypeScript.Printer

/-!
# Why emission fails

Emission fails for a reference only: one that is no supported pointer, or, where it is strict, one
to a name that no definition has. `FailsWith` says of a part of emission what its errors are, and
the induction over schemas finds for every error a target that gives rise to it.

* `Scope.schemaType_failsWith`: the errors of a schema come from its targets
* `exists_reference_of_unknownRef`: an unknown name stands in a reference of a definition
-/

namespace SchemaBundle.TypeScript

open Json (Value)

/-! ## Errors of a part of emission -/

/-- The errors that a list of targets gives rise to. -/
inductive Scope.Rejects (scope : Scope) (targets : List Target) : EmitError → Prop where
  | unknown {name : String} (mem : .schema name ∈ targets)
      (absent : scope.names.find? name = none) (strict : scope.strict = true) :
      Rejects scope targets (.unknownRef name)
  | unsupported {text : String} (mem : .unsupported text ∈ targets) :
      Rejects scope targets (.unsupportedRef text)

theorem Scope.Rejects.mono {scope : Scope} {targets more : List Target} (hsub : targets ⊆ more)
    {error : EmitError} (h : scope.Rejects targets error) : scope.Rejects more error := by
  cases h with
  | unknown mem absent strict => exact .unknown (hsub mem) absent strict
  | unsupported mem => exact .unsupported (hsub mem)

/-- Every error with which emission can fail has a property. -/
def FailsWith {α : Type} (property : EmitError → Prop) (emit : Emit α) : Prop :=
  ∀ comments error, emit comments = .error error → property error

namespace FailsWith

variable {α β : Type} {property : EmitError → Prop}

theorem pure (a : α) : FailsWith property (Pure.pure a : Emit α) := by
  intro comments error h
  cases h

theorem throw {error : EmitError} (h : property error) :
    FailsWith property (MonadExcept.throw error : Emit α) := by
  intro comments other ho
  cases ho
  exact h

/-- A sequence fails where its first part does, or its second. -/
theorem bind {emit : Emit α} {next : α → Emit β} (h : FailsWith property emit)
    (hnext : ∀ a, FailsWith property (next a)) : FailsWith property (emit >>= next) := by
  intro comments error he
  cases hfirst : emit comments with
  | error first =>
    have heq : (emit >>= next) comments = .error first := by
      show (emit comments >>= fun s => next s.1 s.2) = _
      rw [hfirst]
      rfl
    rw [heq] at he
    cases he
    exact h comments _ hfirst
  | ok result =>
    have heq : (emit >>= next) comments = next result.1 result.2 := by
      show (emit comments >>= fun s => next s.1 s.2) = _
      rw [hfirst]
      rfl
    rw [heq] at he
    exact hnext result.1 result.2 error he

/-- What fails for some targets fails for more. -/
theorem widen {scope : Scope} {targets more : List Target} {emit : Emit α}
    (h : FailsWith (scope.Rejects targets) emit) (hsub : targets ⊆ more) :
    FailsWith (scope.Rejects more) emit :=
  fun comments error he => (h comments error he).mono hsub

theorem mapM {emit : α → Emit β} (h : ∀ a, FailsWith property (emit a)) (items : List α) :
    FailsWith property (items.mapM emit) := by
  induction items with
  | nil =>
    rw [List.mapM_nil]
    exact pure []
  | cons item rest ih =>
    rw [List.mapM_cons]
    exact bind (h item) fun b => bind ih fun bs => pure (b :: bs)

theorem mark (description : Option String) : FailsWith property (mark description) := by
  intro comments error h
  cases h

end FailsWith

/-! ## What definitions refer to -/

/-- What a definition refers to, whether it is declared as an interface or as an alias. -/
def definitionTargets (schema : Value) : List Target :=
  Property.targetsOfList (mentionedProperties schema) ++ schema.schema.targets

/-- What a list of definitions refers to. -/
def definitionsTargets (definitions : Entries Value) : List Target :=
  definitions.flatMap fun entry => definitionTargets entry.2

/-- What a definition refers to comes from values of the key for references. -/
theorem definitionTargets_subset (schema : Value) :
    definitionTargets schema ⊆ schema.referenceValues.map Fields.target := by
  refine List.append_subset.mpr ⟨?_, Value.targets_schema_subset schema⟩
  cases schema with
  | object entries =>
    exact Fields.targets_properties_subset
      (Value.targetsAmong_fields (Value.targetsAmong_readingsOfEntries entries))
  | _ => exact List.nil_subset _

/-! ## Errors of schemas -/

namespace Scope

variable (scope : Scope)

theorem referenceType_failsWith (target : Target) :
    FailsWith (scope.Rejects [target]) (referenceType scope target) := by
  cases target with
  | unsupported text => exact FailsWith.throw (.unsupported List.mem_cons_self)
  | schema name =>
    simp only [referenceType]
    split
    · exact FailsWith.pure _
    · next habsent =>
      split
      · next hstrict => exact FailsWith.throw (.unknown List.mem_cons_self habsent hstrict)
      · exact FailsWith.pure _

theorem kindType_failsWith {property : EmitError → Prop} {array object : Emit Ty}
    (harray : FailsWith property array) (hobject : FailsWith property object) (kind : Kind) :
    FailsWith property (kindType array object kind) := by
  cases kind with
  | array => exact harray
  | object => exact hobject
  | _ => exact FailsWith.pure _

mutual

/-- The errors of a schema come from its targets. -/
theorem schemaType_failsWith : ∀ schema : Schema,
    FailsWith (scope.Rejects schema.targets) (schemaType scope schema)
  | .mk _ form nullable => by
    rw [schemaType, Schema.targets]
    exact (formType_failsWith form).bind fun _ => .pure _

theorem formType_failsWith : ∀ form : Form,
    FailsWith (scope.Rejects form.targets) (formType scope form)
  | .unknown => by rw [formType]; exact .pure _
  | .never => by rw [formType]; exact .pure _
  | .reference target => by
    rw [formType, Form.targets]
    exact scope.referenceType_failsWith target
  | .constant _ => by rw [formType]; exact .pure _
  | .choice _ => by rw [formType]; exact .pure _
  | .all parts none => by
    rw [formType, Form.targets]
    exact (schemaTypes_failsWith parts).bind fun _ => .pure _
  | .all parts (some shape) => by
    have hparts := (schemaTypes_failsWith parts).widen
      (List.subset_append_left _ shape.targets)
    have hshape := (shapeType_failsWith shape).widen
      (List.subset_append_right (Schema.targetsOfList parts) _)
    rw [formType, Form.targets]
    exact hparts.bind fun _ => hshape.bind fun _ => .pure _
  | .any variants => by
    rw [formType, Form.targets]
    exact (schemaTypes_failsWith variants).bind fun _ => .pure _
  | .kind kind items shape => by
    have hitems := (itemsType_failsWith items).widen (List.subset_append_left _ shape.targets)
    have hshape := (shapeType_failsWith shape).widen (List.subset_append_right items.targets _)
    rw [formType, Form.targets]
    exact kindType_failsWith hitems hshape kind
  | .kinds kinds items shape => by
    have hitems := (itemsType_failsWith items).widen (List.subset_append_left _ shape.targets)
    have hshape := (shapeType_failsWith shape).widen (List.subset_append_right items.targets _)
    rw [formType, Form.targets]
    exact (FailsWith.mapM (kindType_failsWith hitems hshape) kinds).bind fun _ => .pure _
  | .object shape => by
    rw [formType, Form.targets]
    exact shapeType_failsWith shape

theorem schemaTypes_failsWith : ∀ schemas : List Schema,
    FailsWith (scope.Rejects (Schema.targetsOfList schemas)) (schemaTypes scope schemas)
  | [] => by rw [schemaTypes]; exact .pure _
  | schema :: rest => by
    have hfirst := (schemaType_failsWith schema).widen
      (List.subset_append_left _ (Schema.targetsOfList rest))
    have hrest := (schemaTypes_failsWith rest).widen
      (List.subset_append_right schema.targets _)
    rw [schemaTypes, Schema.targetsOfList]
    exact hfirst.bind fun _ => hrest.bind fun _ => .pure _

theorem itemsType_failsWith : ∀ items : Items,
    FailsWith (scope.Rejects items.targets) (itemsType scope items)
  | .unspecified => by rw [itemsType]; exact .pure _
  | .each schema => by
    rw [itemsType, Items.targets]
    exact (schemaType_failsWith schema).bind fun _ => .pure _
  | .tuple schemas => by
    rw [itemsType, Items.targets]
    exact (schemaTypes_failsWith schemas).bind fun _ => .pure _

theorem shapeType_failsWith : ∀ shape : Shape,
    FailsWith (scope.Rejects shape.targets) (shapeType scope shape)
  | .mk properties further => by
    have hproperties := (propertyMembers_failsWith properties).widen
      (List.subset_append_left _ further.targets)
    have hfurther := (furtherType_failsWith further).widen
      (List.subset_append_right (Property.targetsOfList properties) _)
    rw [shapeType, Shape.targets]
    exact hproperties.bind fun _ => hfurther.bind fun _ => .pure _

theorem propertyMembers_failsWith : ∀ properties : List Property,
    FailsWith (scope.Rejects (Property.targetsOfList properties))
      (propertyMembers scope properties)
  | [] => by rw [propertyMembers]; exact .pure _
  | .mk _ required schema :: rest => by
    have hfirst := (schemaType_failsWith schema).widen
      (List.subset_append_left _ (Property.targetsOfList rest))
    have hrest := (propertyMembers_failsWith rest).widen
      (List.subset_append_right schema.targets _)
    rw [propertyMembers, Property.targetsOfList]
    exact (FailsWith.mark _).bind fun _ => hfirst.bind fun _ => hrest.bind fun _ => .pure _

theorem furtherType_failsWith : ∀ further : Further,
    FailsWith (scope.Rejects further.targets) (furtherType scope further)
  | .unmentioned => by rw [furtherType]; exact .pure _
  | .anything => by rw [furtherType]; exact .pure _
  | .each schema => by
    rw [furtherType, Further.targets]
    exact (schemaType_failsWith schema).bind fun _ => .pure _

end

/-! ## Errors of definitions -/

theorem definitionBody_failsWith (schema : Value) :
    FailsWith (scope.Rejects (definitionTargets schema)) (definitionBody scope schema) := by
  unfold definitionBody
  split
  · have hmembers := (scope.propertyMembers_failsWith (mentionedProperties schema)).widen
      (List.subset_append_left _ schema.schema.targets)
    exact hmembers.bind fun _ => .pure _
  · have htype := (scope.schemaType_failsWith schema.schema).widen
      (List.subset_append_right (Property.targetsOfList (mentionedProperties schema)) _)
    exact htype.bind fun _ => .pure _

theorem definitionDeclarations_failsWith (definitions : Entries Value) :
    FailsWith (scope.Rejects (definitionsTargets definitions))
      (definitionDeclarations scope definitions) := by
  induction definitions with
  | nil =>
    rw [definitionDeclarations]
    exact .pure _
  | cons entry rest ih =>
    obtain ⟨name, schema⟩ := entry
    have hbody := (scope.definitionBody_failsWith schema).widen
      (List.subset_append_left _ (definitionsTargets rest))
    have hrest := ih.widen (List.subset_append_right (definitionTargets schema) _)
    rw [definitionDeclarations]
    exact (FailsWith.mark _).bind fun _ => hbody.bind fun _ => hrest.bind fun _ => .pure _

end Scope

/-! ## Names of definitions -/

theorem length_giveAll (pool : NamePool) (names : List String) :
    (pool.giveAll names).1.length = names.length := by
  induction names generalizing pool with
  | nil => rfl
  | cons name rest ih =>
    simp only [NamePool.giveAll, List.length_cons]
    rw [ih]

/-- Every definition is given a name, and nothing else is. -/
theorem mem_keys_assignNames {root name : String} {definitions : Dict Value} :
    name ∈ (assignNames root definitions).2.keys ↔ name ∈ definitions.keys := by
  simp only [assignNames, Dict.keys, Dict.ofPairs]
  rw [Entries.mem_keys_ofPairs, Entries.keys, List.map_fst_zip]
  exact Nat.le_of_eq (by rw [length_giveAll, List.length_map])

/-- Whatever the error of emission is, a target of the definitions gives rise to it. -/
theorem rejects_of_emit {definitions : Dict Value} {root : String} {strict : Bool}
    {error : EmitError} (h : emit definitions root strict = .error error) :
    Scope.Rejects ⟨(assignNames root definitions).2, strict⟩
      (definitionsTargets definitions.toList) error := by
  -- only the emission of a module fails, not writing it
  have hmodule : emitModule definitions root strict = .error error := by
    unfold emit at h
    cases hm : emitModule definitions root strict with
    | error error =>
      rw [hm] at h
      cases h
      rfl
    | ok module =>
      rw [hm] at h
      cases h
  unfold emitModule at hmodule
  simp only at hmodule
  split at hmodule
  · next error he =>
    cases hmodule
    exact Scope.definitionDeclarations_failsWith _ _ _ _ he
  · cases hmodule

/--
Emission finds a name unknown only where it is strict, no definition has the name, and the key for
references has in some definition a pointer to it, in one of the two spellings.
-/
theorem exists_reference_of_unknownRef {definitions : Dict Value} {root name : String}
    {strict : Bool} (h : emit definitions root strict = .error (.unknownRef name)) :
    strict = true ∧ name ∉ definitions.keys ∧
      ∃ key schema, definitions.find? key = some schema ∧ ∃ ref : SchemaRef, ref.name = name ∧
        (.string ref.definitionPointer ∈ schema.referenceValues ∨
          .string ref.pointer ∈ schema.referenceValues) := by
  cases rejects_of_emit h with
  | unknown mem absent hstrict =>
    obtain ⟨⟨key, schema⟩, hin, ht⟩ := List.mem_flatMap.mp mem
    obtain ⟨value, hvalue, htarget⟩ := List.mem_map.mp (definitionTargets_subset schema ht)
    have habsent : name ∉ definitions.keys := by
      rw [← mem_keys_assignNames]
      exact Entries.find?_eq_none.mp absent
    refine ⟨hstrict, habsent, key, schema, Entries.find?_of_mem definitions.nodup hin, ?_⟩
    cases value with
    | string text =>
      obtain ⟨ref, hname, rfl | rfl⟩ := Fields.target_eq_schema htarget
      · exact ⟨ref, hname, Or.inl hvalue⟩
      · exact ⟨ref, hname, Or.inr hvalue⟩
    | _ => cases htarget

/-- The pointer is one of the strings of the definition. -/
theorem exists_string_of_unknownRef {definitions : Dict Value} {root name : String}
    {strict : Bool} (h : emit definitions root strict = .error (.unknownRef name)) :
    strict = true ∧ name ∉ definitions.keys ∧
      ∃ key schema, definitions.find? key = some schema ∧ ∃ ref : SchemaRef, ref.name = name ∧
        (ref.definitionPointer ∈ schema.strings ∨ ref.pointer ∈ schema.strings) := by
  obtain ⟨hstrict, habsent, key, schema, hfind, ref, hname, hreference⟩ :=
    exists_reference_of_unknownRef h
  have hstrings {text : String} (hin : .string text ∈ schema.referenceValues) :
      text ∈ schema.strings := by
    refine Value.strings_subset_of_mem_referenceValues schema hin ?_
    rw [Value.strings]
    exact List.mem_singleton_self text
  exact ⟨hstrict, habsent, key, schema, hfind, ref, hname, hreference.imp hstrings hstrings⟩

end SchemaBundle.TypeScript
