import SchemaBundle.Proofs.Json.Strings
import SchemaBundle.Proofs.Schema.Interface

/-!
# What a schema refers to

The targets of a schema are those of all references in it, at whatever depth. Where the schema is
read from a value, each of them is the target of a value that the key for references has there.

* `Json.Value.targets_schema_subset`: every target of a schema comes from a value of the key
-/

namespace SchemaBundle

open Json (Value)

/-! ## The targets of a schema -/

mutual

/-- What the references in a schema point at. -/
def Schema.targets : Schema → List Target
  | .mk _ form _ => Form.targets form

/-- What the references in a form point at. -/
def Form.targets : Form → List Target
  | .reference target => [target]
  | .all parts none => Schema.targetsOfList parts
  | .all parts (some shape) => Schema.targetsOfList parts ++ Shape.targets shape
  | .any variants => Schema.targetsOfList variants
  | .kind _ items shape => Items.targets items ++ Shape.targets shape
  | .kinds _ items shape => Items.targets items ++ Shape.targets shape
  | .object shape => Shape.targets shape
  | .unknown | .never | .constant _ | .choice _ => []

/-- What the references in the items of an array point at. -/
def Items.targets : Items → List Target
  | .unspecified => []
  | .each schema => Schema.targets schema
  | .tuple schemas => Schema.targetsOfList schemas

/-- What the references in the properties of an object point at. -/
def Shape.targets : Shape → List Target
  | .mk properties further => Property.targetsOfList properties ++ Further.targets further

/-- What the references in a list of properties point at. -/
def Property.targetsOfList : List Property → List Target
  | [] => []
  | .mk _ _ schema :: rest => Schema.targets schema ++ Property.targetsOfList rest

/-- What the references in further properties point at. -/
def Further.targets : Further → List Target
  | .unmentioned | .anything => []
  | .each schema => Schema.targets schema

/-- What the references in a list of schemas point at. -/
def Schema.targetsOfList : List Schema → List Target
  | [] => []
  | schema :: rest => Schema.targets schema ++ Schema.targetsOfList rest

end

/-- The texts of a target are its pointers in the two spellings. -/
theorem Fields.target_eq_schema {text name : String}
    (h : Fields.target (.string text) = .schema name) :
    ∃ ref : SchemaRef, ref.name = name ∧ (text = ref.definitionPointer ∨ text = ref.pointer) := by
  unfold Fields.target at h
  simp only at h
  split at h
  · next ref hr =>
    cases h
    exact ⟨ref, rfl, Or.inl (SchemaRef.parseDefinition_eq_ok.mp hr)⟩
  · split at h
    · next ref hr =>
      cases h
      exact ⟨ref, rfl, Or.inr (SchemaRef.parse_eq_ok.mp hr)⟩
    · cases h

/-- A pointer is read as its name, in either spelling. -/
theorem Fields.target_definitionPointer (ref : SchemaRef) :
    Fields.target (.string ref.definitionPointer) = .schema ref.name := by
  simp [Fields.target, SchemaRef.parseDefinition_eq_ok.mpr rfl]

theorem Fields.target_pointer (ref : SchemaRef) :
    Fields.target (.string ref.pointer) = .schema ref.name := by
  unfold Fields.target
  cases hdefinition : SchemaRef.parseDefinition ref.pointer with
  | ok other =>
    -- a text cannot start in both ways
    have heq := congrArg String.toList (SchemaRef.parseDefinition_eq_ok.mp hdefinition)
    simp [SchemaRef.pointer, SchemaRef.definitionPointer, schemasPointer, definitionsPointer] at heq
  | error error => simp only [hdefinition, SchemaRef.parse_pointer]

/-! ## The values of references -/

namespace Json.Value

mutual

/-- The values that the key for references has in a value, at whatever depth. -/
def referenceValues : Value → List Value
  | .array items => referenceValuesOfItems items
  | .object entries => referenceValuesOfEntries entries
  | .null | .bool _ | .number _ | .string _ => []

/-- The values that the key for references has in a list of items. -/
def referenceValuesOfItems : List Value → List Value
  | [] => []
  | item :: rest => referenceValues item ++ referenceValuesOfItems rest

/-- The values that the key for references has in a list of entries. -/
def referenceValuesOfEntries : List (String × Value) → List Value
  | [] => []
  | (key, value) :: rest =>
    (if key = "$ref" then [value] else []) ++
      (referenceValues value ++ referenceValuesOfEntries rest)

end

theorem mem_referenceValuesOfEntries {value : Value} {entries : List (String × Value)}
    (h : ("$ref", value) ∈ entries) : value ∈ referenceValuesOfEntries entries := by
  induction entries with
  | nil => cases h
  | cons entry rest ih =>
    rw [referenceValuesOfEntries]
    rcases List.mem_cons.mp h with rfl | h
    · exact List.mem_append_left _ (by simp)
    · exact List.mem_append_right _ (List.mem_append_right _ (ih h))

mutual

/-- The strings of these values are strings of the whole. -/
theorem strings_subset_of_mem_referenceValues {part : Value} : ∀ value : Value,
    part ∈ value.referenceValues → part.strings ⊆ value.strings
  | .array items, h => strings_subset_ofItems items h
  | .object entries, h => strings_subset_ofEntries entries h

theorem strings_subset_ofItems {part : Value} : ∀ items : List Value,
    part ∈ referenceValuesOfItems items → part.strings ⊆ stringsOfItems items
  | item :: rest, h => by
    rw [stringsOfItems]
    rcases List.mem_append.mp h with h | h
    · exact List.subset_append_of_subset_left _ (strings_subset_of_mem_referenceValues item h)
    · exact List.subset_append_of_subset_right _ (strings_subset_ofItems rest h)

theorem strings_subset_ofEntries {part : Value} : ∀ entries : List (String × Value),
    part ∈ referenceValuesOfEntries entries → part.strings ⊆ stringsOfEntries entries
  | (key, value) :: rest, h => by
    rw [stringsOfEntries]
    rcases List.mem_append.mp h with h | h
    · split at h
      · rw [List.mem_singleton.mp h]
        exact List.subset_append_left _ _
      · cases h
    · rcases List.mem_append.mp h with h | h
      · exact List.subset_append_of_subset_left _ (strings_subset_of_mem_referenceValues value h)
      · exact List.subset_append_of_subset_right _ (strings_subset_ofEntries rest h)

end

end Json.Value

/-! ## Readings -/

/-- All that a value is read as has its targets among the given ones. -/
structure Reading.TargetsAmong (targets : List Target) (reading : Reading) : Prop where
  schema : reading.schema.targets ⊆ targets
  items : Schema.targetsOfList reading.items ⊆ targets
  fields : ∀ entry ∈ reading.fields, entry.2.targets ⊆ targets

theorem Reading.TargetsAmong.mono {targets more : List Target} {reading : Reading}
    (h : reading.TargetsAmong targets) (hsub : targets ⊆ more) : reading.TargetsAmong more where
  schema := List.Subset.trans h.schema hsub
  items := List.Subset.trans h.items hsub
  fields entry he := List.Subset.trans (h.fields entry he) hsub

namespace Fields

variable {targets : List Target} {fields : Fields}

/-- An object has the target of its own reference and those of its entries among the given ones. -/
structure TargetsAmong (targets : List Target) (fields : Fields) : Prop where
  reference : ∀ value, fields.value? "$ref" = some value → target value ∈ targets
  entries : ∀ key reading, Entries.find? key fields = some reading → reading.TargetsAmong targets

theorem targets_properties_subset (h : fields.TargetsAmong targets) :
    Property.targetsOfList fields.properties ⊆ targets := by
  unfold properties
  split
  · next reading hr =>
    have hfields := (h.entries "properties" reading hr).fields
    -- the induction is on the entries, whatever reading they belong to
    revert hfields
    generalize reading.fields = entries
    induction entries with
    | nil => exact fun _ => List.nil_subset _
    | cons entry rest ih =>
      intro hfields
      rw [List.map_cons, Property.targetsOfList]
      obtain ⟨hfirst, hrest⟩ := List.forall_mem_cons.mp hfields
      exact List.append_subset.mpr ⟨hfirst, ih hrest⟩
  · exact List.nil_subset _

theorem targets_further_subset (h : fields.TargetsAmong targets) :
    fields.further.targets ⊆ targets := by
  unfold further
  split
  · next reading hr =>
    split
    · exact List.nil_subset _
    · exact (h.entries "additionalProperties" reading hr).schema
    · exact List.nil_subset _
  · exact List.nil_subset _

theorem targets_shape_subset (h : fields.TargetsAmong targets) :
    fields.shape.targets ⊆ targets :=
  List.append_subset.mpr ⟨targets_properties_subset h, targets_further_subset h⟩

theorem targets_items_subset (h : fields.TargetsAmong targets) :
    fields.items.targets ⊆ targets := by
  unfold items
  split
  · exact List.nil_subset _
  · next reading hr =>
    split
    · exact (h.entries "items" reading hr).items
    · exact (h.entries "items" reading hr).schema

theorem targets_schemas?_subset (h : fields.TargetsAmong targets) {key : String}
    {schemas : List Schema} (hs : fields.schemas? key = some schemas) :
    Schema.targetsOfList schemas ⊆ targets := by
  obtain ⟨reading, hr, hitems⟩ := Option.bind_eq_some_iff.mp hs
  split at hitems
  · cases hitems
    exact (h.entries key reading hr).items
  · cases hitems

theorem targets_variants?_subset (h : fields.TargetsAmong targets) {schemas : List Schema}
    (hs : fields.variants? = some schemas) : Schema.targetsOfList schemas ⊆ targets := by
  unfold variants? at hs
  split at hs
  · exact targets_schemas?_subset h hs
  · exact targets_schemas?_subset h hs

theorem targets_typeForm_subset (h : fields.TargetsAmong targets) :
    fields.typeForm.targets ⊆ targets := by
  have hboth : fields.items.targets ++ fields.shape.targets ⊆ targets :=
    List.append_subset.mpr ⟨targets_items_subset h, targets_shape_subset h⟩
  unfold typeForm
  split
  · exact hboth
  · exact hboth
  · split
    · exact targets_shape_subset h
    · exact List.nil_subset _

theorem targets_form_subset (h : fields.TargetsAmong targets) : fields.form.targets ⊆ targets := by
  -- one case for each key that may decide the form, in the order in which they do
  unfold form
  split
  · next value hv =>
    rw [Form.targets]
    exact List.cons_subset.mpr ⟨h.reference value hv, List.nil_subset _⟩
  · split
    · exact List.nil_subset _
    · split
      · exact List.nil_subset _
      · split
        · next parts hp =>
          have hparts := targets_schemas?_subset h hp
          split
          · exact List.append_subset.mpr ⟨hparts, targets_shape_subset h⟩
          · exact hparts
        · split
          · next variants hv => exact targets_variants?_subset h hv
          · exact targets_typeForm_subset h

end Fields

/-! ## Values -/

namespace Json.Value

/-- What is no object refers to nothing. -/
theorem targetsAmong_ofScalar {value : Value} {targets : List Target} :
    Reading.TargetsAmong targets ⟨value, Schema.ofScalar value, [], []⟩ where
  schema := by
    unfold Schema.ofScalar
    split <;> exact List.nil_subset _
  items := List.nil_subset _
  fields := nofun

theorem targetsOfList_map_schema_subset {targets : List Target} {readings : List Reading}
    (h : ∀ reading ∈ readings, reading.TargetsAmong targets) :
    Schema.targetsOfList (readings.map Reading.schema) ⊆ targets := by
  induction readings with
  | nil => exact List.nil_subset _
  | cons reading rest ih =>
    obtain ⟨hfirst, hrest⟩ := List.forall_mem_cons.mp h
    exact List.append_subset.mpr ⟨hfirst.schema, ih hrest⟩

/-- The reference of an object is among the values of references in it. -/
theorem targetsAmong_fields {entries : List (String × Value)}
    (h : ∀ entry ∈ readingsOfEntries entries,
      entry.2.TargetsAmong ((referenceValuesOfEntries entries).map Fields.target)) :
    Fields.TargetsAmong ((referenceValuesOfEntries entries).map Fields.target)
      (readingsOfEntries entries) where
  reference value hv := by
    rw [value?_readingsOfEntries] at hv
    exact List.mem_map_of_mem (mem_referenceValuesOfEntries (Entries.mem_of_find? hv))
  entries key reading hr := h (key, reading) (Entries.mem_of_find? hr)

mutual

/-- All that a value is read as refers to what its references refer to. -/
theorem targetsAmong_reading : ∀ value : Value,
    value.reading.TargetsAmong (value.referenceValues.map Fields.target)
  | .object entries => by
    have hentries := targetsAmong_readingsOfEntries entries
    refine ⟨Fields.targets_form_subset (targetsAmong_fields hentries), List.nil_subset _, ?_⟩
    intro entry he
    simp only [reading, Entries.mapValues, List.mem_map] at he
    obtain ⟨inner, hin, rfl⟩ := he
    exact (hentries inner hin).schema
  | .array items => by
    have hitems := targetsAmong_readingsOfItems items
    exact ⟨targetsAmong_ofScalar.schema, targetsOfList_map_schema_subset hitems, nofun⟩
  | .string _ => targetsAmong_ofScalar
  | .null => targetsAmong_ofScalar
  | .bool _ => targetsAmong_ofScalar
  | .number _ => targetsAmong_ofScalar

theorem targetsAmong_readingsOfItems : ∀ items : List Value, ∀ reading ∈ readingsOfItems items,
    reading.TargetsAmong ((referenceValuesOfItems items).map Fields.target)
  | item :: rest, reading, h => by
    rw [referenceValuesOfItems, List.map_append]
    rcases List.mem_cons.mp h with rfl | h
    · exact (targetsAmong_reading item).mono (List.subset_append_left _ _)
    · exact (targetsAmong_readingsOfItems rest reading h).mono (List.subset_append_right _ _)

theorem targetsAmong_readingsOfEntries : ∀ entries : List (String × Value),
    ∀ entry ∈ readingsOfEntries entries,
      entry.2.TargetsAmong ((referenceValuesOfEntries entries).map Fields.target)
  | (key, value) :: rest, entry, h => by
    rw [referenceValuesOfEntries, List.map_append, List.map_append]
    refine Reading.TargetsAmong.mono ?_ (List.subset_append_right _ _)
    rcases List.mem_cons.mp h with rfl | h
    · exact (targetsAmong_reading value).mono (List.subset_append_left _ _)
    · exact (targetsAmong_readingsOfEntries rest entry h).mono (List.subset_append_right _ _)

end

/-- Every target of the schema that a value is comes from a value of the key for references. -/
theorem targets_schema_subset (value : Value) :
    value.schema.targets ⊆ value.referenceValues.map Fields.target :=
  (targetsAmong_reading value).schema

end Json.Value

end SchemaBundle
