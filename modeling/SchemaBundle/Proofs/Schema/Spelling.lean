import Mathlib.Data.Option.Defs
import SchemaBundle.Proofs.Reference.Rewriting
import SchemaBundle.Proofs.Schema.Targets

/-!
# Schemas and the spelling of references

Where nothing but the key for references points at schemas, a schema says the same about types when
its references point at definitions instead. What changes are the texts that no type is made of:
those of references that are not supported, and those inside of arrays and objects that stand for a
constant. The gist of a schema is the schema without these.

* `Schema.gist`: what the type of a schema is made of
* `Json.Value.KeysReferences`: nothing but the key for references points at schemas
* `Json.Value.gist_schema_rewriteReferences`: rewriting keeps the gist
-/

namespace SchemaBundle

open Json (Value)

/-! ## The gist of a schema -/

/-- A constant without what is inside of it. -/
def Json.Value.gist : Value → Value
  | .array _ => .array []
  | .object _ => .object []
  | .null => .null
  | .bool value => .bool value
  | .number value => .number value
  | .string text => .string text

/-- A target without the text of one that is not supported. -/
def Target.gist : Target → Target
  | .schema name => .schema name
  | .unsupported _ => .unsupported ""

mutual

/-- A schema without the texts that its type is not made of. -/
def Schema.gist : Schema → Schema
  | .mk description form nullable => .mk description form.gist nullable

/-- A form without the texts that its type is not made of. -/
def Form.gist : Form → Form
  | .unknown => .unknown
  | .never => .never
  | .reference target => .reference target.gist
  | .constant value => .constant value.gist
  | .choice values => .choice (values.map Value.gist)
  | .all parts none => .all (Schema.gists parts) none
  | .all parts (some shape) => .all (Schema.gists parts) (some shape.gist)
  | .any variants => .any (Schema.gists variants)
  | .kind kind items shape => .kind kind items.gist shape.gist
  | .kinds kinds items shape => .kinds kinds items.gist shape.gist
  | .object shape => .object shape.gist

/-- Items without the texts that their type is not made of. -/
def Items.gist : Items → Items
  | .unspecified => .unspecified
  | .each schema => .each schema.gist
  | .tuple schemas => .tuple (Schema.gists schemas)

/-- A shape without the texts that its type is not made of. -/
def Shape.gist : Shape → Shape
  | .mk properties further => .mk (Property.gists properties) further.gist

/-- Properties without the texts that their types are not made of. -/
def Property.gists : List Property → List Property
  | [] => []
  | .mk name required schema :: rest => .mk name required schema.gist :: Property.gists rest

/-- Further properties without the texts that their type is not made of. -/
def Further.gist : Further → Further
  | .unmentioned => .unmentioned
  | .anything => .anything
  | .each schema => .each schema.gist

/-- Schemas without the texts that their types are not made of. -/
def Schema.gists : List Schema → List Schema
  | [] => []
  | schema :: rest => schema.gist :: Schema.gists rest

end

/-- Properties with the names and schemas of some entries. -/
theorem Property.gists_map (required : List String) (fields : Entries Schema) :
    Property.gists (fields.map fun (name, schema) => .mk name (name ∈ required) schema) =
      (Entries.mapValues Schema.gist fields).map fun (name, schema) =>
        .mk name (name ∈ required) schema := by
  induction fields with
  | nil => rfl
  | cons entry rest ih =>
    rw [List.map_cons, Property.gists, ih]
    rfl

/-! ## Strings that are no references -/

namespace Json.Value

mutual

/-- The strings inside of a value that are not what the key for references says. -/
def looseStrings : Value → List String
  | .array items => looseStringsOfItems items
  | .object entries => looseStringsOfEntries entries
  | .null | .bool _ | .number _ | .string _ => []

/-- The loose strings of a list of items: they themselves, and those inside of them. -/
def looseStringsOfItems : List Value → List String
  | [] => []
  | item :: rest => item.asString?.toList ++ (looseStrings item ++ looseStringsOfItems rest)

/-- The loose strings of the values of a list of entries. -/
def looseStringsOfEntries : List (String × Value) → List String
  | [] => []
  | (key, value) :: rest =>
    (if key = "$ref" then [] else value.asString?.toList) ++
      (looseStrings value ++ looseStringsOfEntries rest)

end

/-- Nothing but the key for references points at schemas inside of a value. -/
def KeysReferences (value : Value) : Prop :=
  ∀ text ∈ value.looseStrings, ∀ ref, SchemaRef.parse text ≠ .ok ref

/-- A value is no pointer to a schema. -/
def IsNoPointer (value : Value) : Prop :=
  ∀ ref : SchemaRef, value ≠ .string ref.pointer

theorem isNoPointer_iff {value : Value} :
    value.IsNoPointer ↔ ∀ text ∈ value.asString?.toList, ∀ ref, SchemaRef.parse text ≠ .ok ref := by
  cases value with
  | string text => simp [IsNoPointer, asString?, SchemaRef.parse_eq_ok]
  | _ => simp [IsNoPointer, asString?]

theorem KeysReferences.of_mem_items {items : List Value} (h : KeysReferences (.array items))
    {item : Value} (hmem : item ∈ items) : item.IsNoPointer ∧ item.KeysReferences := by
  have hstrings : item.asString?.toList ++ item.looseStrings ⊆ looseStringsOfItems items := by
    clear h
    induction items with
    | nil => cases hmem
    | cons first rest ih =>
      rw [looseStringsOfItems, ← List.append_assoc]
      rcases List.mem_cons.mp hmem with rfl | hmem
      · exact List.subset_append_left _ _
      · exact List.subset_append_of_subset_right _ (ih hmem)
  have hall := fun text ht => h text (hstrings ht)
  exact ⟨isNoPointer_iff.mpr fun text ht => hall text (List.mem_append_left _ ht),
    fun text ht => hall text (List.mem_append_right _ ht)⟩

theorem KeysReferences.of_mem_entries {entries : List (String × Value)}
    (h : KeysReferences (.object entries)) {key : String} {value : Value}
    (hmem : (key, value) ∈ entries) :
    (key ≠ "$ref" → value.IsNoPointer) ∧ value.KeysReferences := by
  have hstrings : (if key = "$ref" then [] else value.asString?.toList) ++ value.looseStrings ⊆
      looseStringsOfEntries entries := by
    clear h
    induction entries with
    | nil => cases hmem
    | cons first rest ih =>
      rw [looseStringsOfEntries, ← List.append_assoc]
      rcases List.mem_cons.mp hmem with rfl | hmem
      · exact List.subset_append_left _ _
      · exact List.subset_append_of_subset_right _ (ih hmem)
  have hall := fun text ht => h text (hstrings ht)
  refine ⟨fun hkey => isNoPointer_iff.mpr fun text ht => ?_,
    fun text ht => hall text (List.mem_append_right _ ht)⟩
  exact hall text (List.mem_append_left _ (by rwa [if_neg hkey]))

/-! ## Values that are no pointers -/

variable {value : Value}

theorem rewriteReferences_string (h : value.IsNoPointer) {text : String}
    (hvalue : value = .string text) : value.rewriteReferences = value := by
  subst hvalue
  exact congrArg Value.string (pointAtDefinition_of_ne fun ref heq => h ref (congrArg _ heq))

theorem asString?_rewriteReferences (h : value.IsNoPointer) :
    value.rewriteReferences.asString? = value.asString? := by
  cases value with
  | string text => rw [rewriteReferences_string h rfl]
  | _ => rfl

theorem gist_rewriteReferences (h : value.IsNoPointer) :
    value.rewriteReferences.gist = value.gist := by
  cases value with
  | string text => rw [rewriteReferences_string h rfl]
  | _ => rfl

/-- A flag is no string. -/
theorem map_rewriteReferences_beq_bool (found : Option Value) (flag : Bool) :
    (found.map rewriteReferences == some (.bool flag)) = (found == some (.bool flag)) := by
  cases found with
  | none => rfl
  | some value => cases value <;> rfl

theorem filterMap_asString?_rewriteReferences {items : List Value}
    (h : ∀ item ∈ items, item.IsNoPointer) :
    (items.map rewriteReferences).filterMap asString? = items.filterMap asString? := by
  rw [List.filterMap_map]
  exact List.filterMap_congr fun item hitem => asString?_rewriteReferences (h item hitem)

end Json.Value

/-- A target stays what it is but for its spelling. -/
theorem Fields.gist_target_rewriteReferences (value : Value) :
    (Fields.target value.rewriteReferences).gist = (Fields.target value).gist := by
  cases value with
  | string text =>
    show (Fields.target (.string (Value.pointAtDefinition text))).gist = _
    rcases Value.pointAtDefinition_cases text with ⟨ref, rfl, hpoints⟩ | ⟨-, hsame⟩
    · rw [hpoints, Fields.target_definitionPointer, Fields.target_pointer]
    · rw [hsame]
  | _ => rfl

/-! ## Readings -/

/-- A reading is that of a value whose references have been pointed at definitions. -/
structure Reading.Respells (after before : Reading) : Prop where
  value : after.value = before.value.rewriteReferences
  schema : after.schema.gist = before.schema.gist
  items : Schema.gists after.items = Schema.gists before.items
  fields : Entries.mapValues Schema.gist after.fields = Entries.mapValues Schema.gist before.fields

namespace Fields

/-- The entries of an object are those of one whose references have been pointed at definitions, and
among which only the key for references points at schemas. -/
structure Respells (after before : Fields) : Prop where
  readings : ∀ key, Option.Rel Reading.Respells (Entries.find? key after) (Entries.find? key before)
  noPointer : ∀ key ≠ "$ref", ∀ value, before.value? key = some value → value.IsNoPointer
  noPointers : ∀ key items, before.values? key = some items → ∀ item ∈ items, item.IsNoPointer

variable {after before : Fields} {key : String}

theorem Respells.value? (h : after.Respells before) (key : String) :
    after.value? key = (before.value? key).map Value.rewriteReferences := by
  unfold Fields.value?
  match Entries.find? key after, Entries.find? key before, h.readings key with
  | _, _, .none => rfl
  | _, _, .some hreading => exact congrArg some hreading.value

theorem Respells.has (h : after.Respells before) (key : String) :
    after.has key = before.has key := by
  unfold Fields.has
  match Entries.find? key after, Entries.find? key before, h.readings key with
  | _, _, .none => rfl
  | _, _, .some _ => rfl

theorem Respells.text? (h : after.Respells before) (hkey : key ≠ "$ref") :
    after.text? key = before.text? key := by
  rw [Fields.text?, Fields.text?, h.value?]
  cases hvalue : before.value? key with
  | none => rfl
  | some value => exact Value.asString?_rewriteReferences (h.noPointer key hkey value hvalue)

theorem Respells.schemas? (h : after.Respells before) (key : String) :
    (after.schemas? key).map Schema.gists = (before.schemas? key).map Schema.gists := by
  unfold Fields.schemas?
  match Entries.find? key after, Entries.find? key before, h.readings key with
  | _, _, .none => rfl
  | some reading, some other, .some hreading =>
    rw [Option.bind_some, Option.bind_some, hreading.value]
    cases other.value with
    | array items => exact congrArg some hreading.items
    | _ => rfl

theorem Respells.values? (h : after.Respells before) (key : String) :
    after.values? key = (before.values? key).map (List.map Value.rewriteReferences) := by
  rw [Fields.values?, Fields.values?, h.value?]
  cases before.value? key with
  | none => rfl
  | some value =>
    cases value with
    | array items =>
      rw [Option.map_some, Value.rewriteReferences_array]
      rfl
    | _ => rfl

theorem Respells.required (h : after.Respells before) : after.required = before.required := by
  rw [Fields.required, Fields.required, h.values?]
  cases hvalues : before.values? "required" with
  | none => rfl
  | some items =>
    exact Value.filterMap_asString?_rewriteReferences (h.noPointers "required" items hvalues)

theorem Respells.properties (h : after.Respells before) :
    Property.gists after.properties = Property.gists before.properties := by
  unfold Fields.properties
  rw [h.required]
  match Entries.find? "properties" after, Entries.find? "properties" before,
    h.readings "properties" with
  | _, _, .none => rfl
  | some reading, some other, .some hreading =>
    show Property.gists (reading.fields.map _) = Property.gists (other.fields.map _)
    rw [Property.gists_map, Property.gists_map, hreading.fields]

theorem Respells.further (h : after.Respells before) :
    after.further.gist = before.further.gist := by
  unfold Fields.further
  match Entries.find? "additionalProperties" after, Entries.find? "additionalProperties" before,
    h.readings "additionalProperties" with
  | _, _, .none => rfl
  | some reading, some other, .some hreading =>
    simp only [hreading.value]
    cases other.value with
    | bool value => cases value <;> rfl
    | object entries => exact congrArg Further.each hreading.schema
    | _ => rfl

theorem Respells.shape (h : after.Respells before) : after.shape.gist = before.shape.gist := by
  show Shape.mk _ _ = Shape.mk _ _
  rw [h.properties, h.further]

theorem Respells.hasShape (h : after.Respells before) : after.hasShape = before.hasShape := by
  rw [Fields.hasShape, Fields.hasShape, h.has, h.has]

theorem Respells.itemsForm (h : after.Respells before) : after.items.gist = before.items.gist := by
  unfold Fields.items
  match Entries.find? "items" after, Entries.find? "items" before, h.readings "items" with
  | _, _, .none => rfl
  | some reading, some other, .some hreading =>
    simp only [hreading.value]
    cases other.value with
    | array items => exact congrArg Items.tuple hreading.items
    | _ => exact congrArg Items.each hreading.schema

theorem Respells.variants? (h : after.Respells before) :
    after.variants?.map Schema.gists = before.variants?.map Schema.gists := by
  unfold Fields.variants?
  rw [h.has]
  split
  · exact h.schemas? "oneOf"
  · exact h.schemas? "anyOf"

theorem Respells.typeForm (h : after.Respells before) :
    after.typeForm.gist = before.typeForm.gist := by
  unfold Fields.typeForm
  rw [h.value?, h.hasShape]
  cases hvalue : before.value? "type" with
  | none =>
    show Form.gist (if _ then _ else _) = Form.gist (if _ then _ else _)
    split
    · exact congrArg Form.object h.shape
    · rfl
  | some value =>
    cases value with
    | string name =>
      have hname := Value.rewriteReferences_string (h.noPointer "type" (by decide) _ hvalue) rfl
      rw [Option.map_some, hname]
      show Form.kind _ _ _ = Form.kind _ _ _
      rw [h.itemsForm, h.shape]
    | array names =>
      have hnames := Value.filterMap_asString?_rewriteReferences
        (h.noPointers "type" names (by rw [Fields.values?, hvalue]; rfl))
      rw [Option.map_some, Value.rewriteReferences_array]
      show Form.kinds _ _ _ = Form.kinds _ _ _
      rw [hnames, h.itemsForm, h.shape]
    | _ =>
      show Form.gist (if _ then _ else _) = Form.gist (if _ then _ else _)
      split
      · exact congrArg Form.object h.shape
      · rfl

/-- The same key decides the form, and it says the same. -/
theorem Respells.form (h : after.Respells before) : after.form.gist = before.form.gist := by
  unfold Fields.form
  rw [h.value?, h.value?, h.values?, h.hasShape]
  cases before.value? "$ref" with
  | some value => exact congrArg Form.reference (gist_target_rewriteReferences value)
  | none =>
    cases hconst : before.value? "const" with
    | some value =>
      exact congrArg Form.constant
        (Value.gist_rewriteReferences (h.noPointer "const" (by decide) value hconst))
    | none =>
      cases henum : before.values? "enum" with
      | some values =>
        refine congrArg Form.choice ?_
        rw [List.map_map]
        exact List.map_congr_left fun item hitem =>
          Value.gist_rewriteReferences (h.noPointers "enum" values henum item hitem)
      | none =>
        match after.schemas? "allOf", before.schemas? "allOf", h.schemas? "allOf" with
        | some parts, some others, hparts =>
          have hgists : Schema.gists parts = Schema.gists others := Option.some.inj hparts
          show Form.gist (.all parts (if before.hasShape then some after.shape else none)) =
            Form.gist (.all others (if before.hasShape then some before.shape else none))
          split
          · rw [Form.gist, Form.gist, hgists, h.shape]
          · rw [Form.gist, Form.gist, hgists]
        | none, none, _ =>
          match after.variants?, before.variants?, h.variants? with
          | some variants, some others, hvariants =>
            exact congrArg Form.any (Option.some.inj hvariants)
          | none, none, _ => exact h.typeForm

theorem Respells.nullable (h : after.Respells before) : after.nullable = before.nullable := by
  rw [Fields.nullable, Fields.nullable, h.value?, Value.map_rewriteReferences_beq_bool]

theorem Respells.schema (h : after.Respells before) : after.schema.gist = before.schema.gist := by
  rw [Fields.schema, Fields.schema, Schema.gist, Schema.gist, h.text? (by decide), h.form,
    h.nullable]

end Fields

/-! ## Values -/

namespace Json.Value

/-- What is no object says nothing that could change. -/
theorem respells_ofScalar {after before : Value} (hvalue : after = before.rewriteReferences)
    (hschema : Schema.ofScalar after = Schema.ofScalar before) :
    Reading.Respells ⟨after, Schema.ofScalar after, [], []⟩
      ⟨before, Schema.ofScalar before, [], []⟩ :=
  ⟨hvalue, congrArg Schema.gist hschema, rfl, rfl⟩

/-- The entries of an object respell those of the object before, if each value does. -/
theorem respells_readingsOfEntries {entries : List (String × Value)}
    (h : KeysReferences (.object entries))
    (hvalues : ∀ entry ∈ entries, entry.2.rewriteReferences.reading.Respells entry.2.reading) :
    Fields.Respells (readingsOfEntries (Entries.mapValues rewriteReferences entries))
      (readingsOfEntries entries) where
  readings key := by
    rw [find?_readingsOfEntries, find?_readingsOfEntries, Entries.find?_mapValues]
    cases hfind : Entries.find? key entries with
    | none => exact .none
    | some value => exact .some (hvalues (key, value) (Entries.mem_of_find? hfind))
  noPointer key hkey value hvalue := by
    rw [value?_readingsOfEntries] at hvalue
    exact (h.of_mem_entries (Entries.mem_of_find? hvalue)).1 hkey
  noPointers key items hitems item hitem := by
    obtain ⟨value, hvalue, harray⟩ := Option.bind_eq_some_iff.mp hitems
    rw [value?_readingsOfEntries] at hvalue
    cases value with
    | array others =>
      cases harray
      exact ((h.of_mem_entries (Entries.mem_of_find? hvalue)).2.of_mem_items hitem).1
    | _ => cases harray

theorem gists_readingsOfItems {items : List Value}
    (h : ∀ item ∈ items, item.rewriteReferences.reading.Respells item.reading) :
    Schema.gists ((readingsOfItems (items.map rewriteReferences)).map Reading.schema) =
      Schema.gists ((readingsOfItems items).map Reading.schema) := by
  induction items with
  | nil => rfl
  | cons item rest ih =>
    obtain ⟨hfirst, hrest⟩ := List.forall_mem_cons.mp h
    exact congrArg₂ List.cons hfirst.schema (ih hrest)

theorem gists_readingsOfEntries {entries : List (String × Value)}
    (h : ∀ entry ∈ entries, entry.2.rewriteReferences.reading.Respells entry.2.reading) :
    Entries.mapValues Schema.gist (Entries.mapValues Reading.schema
        (readingsOfEntries (Entries.mapValues rewriteReferences entries))) =
      Entries.mapValues Schema.gist (Entries.mapValues Reading.schema
        (readingsOfEntries entries)) := by
  induction entries with
  | nil => rfl
  | cons entry rest ih =>
    obtain ⟨hfirst, hrest⟩ := List.forall_mem_cons.mp h
    exact congrArg₂ List.cons (congrArg (Prod.mk entry.1) hfirst.schema) (ih hrest)

mutual

/-- All that a value says, it says after its references have been pointed at definitions. -/
theorem respells_reading : ∀ value : Value, value.KeysReferences →
    value.rewriteReferences.reading.Respells value.reading
  | .object entries, h => by
    have hentries := respells_ofEntries entries fun entry hentry => (h.of_mem_entries hentry).2
    rw [rewriteReferences_object]
    exact ⟨(rewriteReferences_object entries).symm,
      (respells_readingsOfEntries h hentries).schema, rfl, gists_readingsOfEntries hentries⟩
  | .array items, h => by
    have hitems := respells_ofItems items fun item hitem => (h.of_mem_items hitem).2
    rw [rewriteReferences_array]
    exact ⟨(rewriteReferences_array items).symm, rfl, gists_readingsOfItems hitems, rfl⟩
  | .string _, _ => respells_ofScalar rfl rfl
  | .null, _ => respells_ofScalar rfl rfl
  | .bool _, _ => respells_ofScalar rfl rfl
  | .number _, _ => respells_ofScalar rfl rfl

theorem respells_ofItems : ∀ items : List Value, (∀ item ∈ items, item.KeysReferences) →
    ∀ item ∈ items, item.rewriteReferences.reading.Respells item.reading
  | [], _ => nofun
  | first :: rest, h => by
    obtain ⟨hfirst, hrest⟩ := List.forall_mem_cons.mp h
    exact List.forall_mem_cons.mpr ⟨respells_reading first hfirst, respells_ofItems rest hrest⟩

theorem respells_ofEntries : ∀ entries : List (String × Value),
    (∀ entry ∈ entries, entry.2.KeysReferences) →
    ∀ entry ∈ entries, entry.2.rewriteReferences.reading.Respells entry.2.reading
  | [], _ => nofun
  | (_, value) :: rest, h => by
    obtain ⟨hfirst, hrest⟩ := List.forall_mem_cons.mp h
    exact List.forall_mem_cons.mpr ⟨respells_reading value hfirst, respells_ofEntries rest hrest⟩

end

theorem KeysReferences.respells {entries : List (String × Value)}
    (h : KeysReferences (.object entries)) :
    Fields.Respells (readingsOfEntries (Entries.mapValues rewriteReferences entries))
      (readingsOfEntries entries) :=
  respells_readingsOfEntries h
    (respells_ofEntries entries fun _ hentry => (h.of_mem_entries hentry).2)

/-- A schema says the same about types when its references point at definitions, if nothing but the
key for references points at schemas. -/
theorem gist_schema_rewriteReferences {value : Value} (h : value.KeysReferences) :
    value.rewriteReferences.schema.gist = value.schema.gist :=
  (respells_reading value h).schema

/-! ## Definitions -/

theorem description?_rewriteReferences {value : Value} (h : value.KeysReferences) :
    value.rewriteReferences.description? = value.description? := by
  cases value with
  | object entries =>
    have htext : Fields.text? (readingsOfEntries (Entries.mapValues rewriteReferences entries))
        "description" = Fields.text? (readingsOfEntries entries) "description" :=
      h.respells.text? (by decide)
    rw [Fields.text?, Fields.text?, value?_readingsOfEntries, value?_readingsOfEntries] at htext
    rw [rewriteReferences_object]
    exact htext
  | _ => rfl

/-- Whether a schema can be an interface does not depend on where its references point. -/
theorem isInterface_rewriteReferences {value : Value} (h : value.KeysReferences) :
    value.rewriteReferences.isInterface = value.isInterface := by
  cases value with
  | object entries =>
    rw [rewriteReferences_object]
    simp only [isInterface, isInterfaceOf, Entries.find?_mapValues, Option.isSome_map,
      map_rewriteReferences_beq_bool]
    refine congrArg₂ and (congrArg (and _) ?type) (congrArg not ?further)
    case type =>
      cases hfind : Entries.find? "type" entries with
      | none => rfl
      | some value =>
        have hpointer := (h.of_mem_entries (Entries.mem_of_find? hfind)).1 (by decide)
        cases value with
        | string name => rw [Option.map_some, rewriteReferences_string hpointer rfl]
        | _ => rfl
    case further =>
      cases Entries.find? "additionalProperties" entries with
      | none => rfl
      | some value =>
        cases value with
        | bool value => cases value <;> rfl
        | _ => rfl
  | _ => rfl

theorem gists_mentionedProperties_rewriteReferences {value : Value} (h : value.KeysReferences) :
    Property.gists (TypeScript.mentionedProperties value.rewriteReferences) =
      Property.gists (TypeScript.mentionedProperties value) := by
  cases value with
  | object entries =>
    rw [rewriteReferences_object]
    exact h.respells.properties
  | _ => rfl

end Json.Value

end SchemaBundle
