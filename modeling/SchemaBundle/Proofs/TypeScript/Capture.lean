import SchemaBundle.Proofs.TypeScript.Declarations
import SchemaBundle.Proofs.TypeScript.Nesting

/-!
# What the name of records stands for

The type of further properties is written with `Record`, a type that is there without being
declared. Names are given out without regard to it: a schema or a root whose type has that name
declares another `Record`, and then every use of the name means the declared type.

* `emitted_keepsRecord`: when a module keeps the meaning of `Record`
* `not_keepsRecord`: a module that does not
-/

namespace SchemaBundle

open Json (Value)

/-! ## Further properties in schemas -/

/-- Of what is said of arrays and of objects, what concerns a named type. -/
def Kind.concerns (array object : Bool) : Kind → Bool
  | .array => array
  | .object => object
  | _ => false

/-- Whether any further properties are allowed. -/
def Further.isAllowed : Further → Bool
  | .unmentioned => false
  | .anything | .each _ => true

mutual

/-- Whether an object in a schema is allowed further properties. -/
def Schema.hasFurther : Schema → Bool
  | .mk _ form _ => form.hasFurther

/-- Whether an object in a form is allowed further properties. -/
def Form.hasFurther : Form → Bool
  | .all parts none => furtherInSchemas parts
  | .all parts (some shape) => furtherInSchemas parts || shape.hasFurther
  | .any variants => furtherInSchemas variants
  | .kind kind items shape => kind.concerns items.hasFurther shape.hasFurther
  | .kinds kinds items shape =>
    kinds.any fun kind => kind.concerns items.hasFurther shape.hasFurther
  | .object shape => shape.hasFurther
  | .unknown | .never | .reference _ | .constant _ | .choice _ => false

/-- Whether an object in the items of an array is allowed further properties. -/
def Items.hasFurther : Items → Bool
  | .unspecified => false
  | .each schema => schema.hasFurther
  | .tuple schemas => furtherInSchemas schemas

/-- Whether an object of the shape, or one in its properties, is allowed further properties. -/
def Shape.hasFurther : Shape → Bool
  | .mk properties further => furtherInProperties properties || further.isAllowed

/-- Whether an object in properties is allowed further properties. -/
def furtherInProperties : List Property → Bool
  | [] => false
  | .mk _ _ schema :: rest => schema.hasFurther || furtherInProperties rest

/-- Whether an object in schemas is allowed further properties. -/
def furtherInSchemas : List Schema → Bool
  | [] => false
  | schema :: rest => schema.hasFurther || furtherInSchemas rest

end

namespace TypeScript

/-! ## Records in types -/

/-- A record is among the types in a type. -/
def Ty.UsesRecord (type : Ty) : Prop :=
  ∃ values, .record values ∈ type.types

namespace Ty

theorem not_usesRecord_keyword (keyword : Keyword) : ¬ (Ty.keyword keyword).UsesRecord := by
  simp [UsesRecord]

theorem not_usesRecord_named (name : String) : ¬ (Ty.named name).UsesRecord := by
  simp [UsesRecord]

theorem not_usesRecord_literal (value : Value) : ¬ (literal value).UsesRecord := by
  cases value <;> simp [literal, UsesRecord]

theorem usesRecord_record (values : Ty) : (Ty.record values).UsesRecord :=
  ⟨values, by simp⟩

theorem usesRecord_array {element : Ty} : (Ty.array element).UsesRecord ↔ element.UsesRecord := by
  simp [UsesRecord]

theorem usesRecord_parenthesized {inner : Ty} :
    (Ty.parenthesized inner).UsesRecord ↔ inner.UsesRecord := by
  simp [UsesRecord]

theorem usesRecord_union {members : List Ty} :
    (Ty.union members).UsesRecord ↔ ∃ member ∈ members, member.UsesRecord := by
  simp only [UsesRecord, types, List.mem_cons, reduceCtorEq, false_or, mem_typesOfList]
  grind

theorem usesRecord_intersection {members : List Ty} :
    (Ty.intersection members).UsesRecord ↔ ∃ member ∈ members, member.UsesRecord := by
  simp only [UsesRecord, types, List.mem_cons, reduceCtorEq, false_or, mem_typesOfList]
  grind

theorem usesRecord_object {members : List Member} :
    (Ty.object members).UsesRecord ↔ ∃ member ∈ members, member.type.UsesRecord := by
  simp only [UsesRecord, types, List.mem_cons, reduceCtorEq, false_or, mem_typesOfMembers]
  grind

theorem usesRecord_alternatives {type : Ty} :
    (∃ alternative ∈ type.alternatives, alternative.UsesRecord) ↔ type.UsesRecord := by
  cases type with
  | union members => exact usesRecord_union.symm
  | _ => simp [alternatives]

theorem usesRecord_unionOf {types : List Ty} :
    (unionOf types).UsesRecord ↔ ∃ type ∈ types, type.UsesRecord := by
  have hmembers : (∃ type ∈ addNew [] (types.flatMap alternatives), type.UsesRecord) ↔
      ∃ type ∈ types, type.UsesRecord := by
    constructor
    · rintro ⟨alternative, hin, huses⟩
      obtain ⟨type, ht, hin⟩ := mem_unionMembers.mp hin
      exact ⟨type, ht, usesRecord_alternatives.mp ⟨alternative, hin, huses⟩⟩
    · rintro ⟨type, ht, huses⟩
      obtain ⟨alternative, hin, huses⟩ := usesRecord_alternatives.mpr huses
      exact ⟨alternative, mem_unionMembers.mpr ⟨type, ht, hin⟩, huses⟩
  rw [← hmembers, unionOf]
  split
  · next heq => simp [heq, not_usesRecord_keyword]
  · next heq => simp [heq]
  · exact usesRecord_union

theorem usesRecord_intersectionOf {types : List Ty} :
    (intersectionOf types).UsesRecord ↔ ∃ type ∈ types, type.UsesRecord := by
  unfold intersectionOf
  split
  · simp [not_usesRecord_keyword]
  · simp
  · exact usesRecord_intersection

theorem usesRecord_arrayOf {element : Ty} : (arrayOf element).UsesRecord ↔ element.UsesRecord := by
  unfold arrayOf
  split
  · rw [usesRecord_array, usesRecord_parenthesized]
  · rw [usesRecord_array, usesRecord_parenthesized]
  · exact usesRecord_array

theorem usesRecord_orNull {type : Ty} : type.orNull.UsesRecord ↔ type.UsesRecord := by
  simp [orNull, usesRecord_unionOf, not_usesRecord_keyword]

end Ty

/-- Whatever the values of a record are, an object with further properties is one. -/
theorem usesRecord_objectType {members : List Member} {values : Option Ty} :
    (objectType members values).UsesRecord ↔
      (∃ member ∈ members, member.type.UsesRecord) ∨ values.isSome = true := by
  cases values with
  | none => simp [objectType, Ty.usesRecord_object]
  | some values =>
    have hrecord := Ty.usesRecord_record values
    unfold objectType
    simp only
    split
    · simp [hrecord]
    · simp [Ty.usesRecord_intersectionOf, hrecord]

/-! ## Records in what is emitted -/

namespace Scope

variable (scope : Scope)

theorem referenceType_usesRecord (target : Target) :
    Yields (fun type => ¬ type.UsesRecord) (referenceType scope target) := by
  cases target with
  | unsupported text => exact .throw _
  | schema name =>
    simp only [referenceType]
    split
    · exact .pure (Ty.not_usesRecord_named _)
    · split
      · exact .throw _
      · exact .pure (Ty.not_usesRecord_keyword _)

theorem kindType_usesRecord {array object : Emit Ty} {inArray inObject : Bool}
    (harray : Yields (fun type => type.UsesRecord ↔ inArray = true) array)
    (hobject : Yields (fun type => type.UsesRecord ↔ inObject = true) object) (kind : Kind) :
    Yields (fun type => type.UsesRecord ↔ kind.concerns inArray inObject = true)
      (kindType array object kind) := by
  cases kind with
  | array => exact harray
  | object => exact hobject
  | _ => exact .pure (by simp [Ty.not_usesRecord_keyword, Kind.concerns])

theorem usesRecord_of_forall₂ {concerns : Kind → Bool} {kinds : List Kind} {types : List Ty}
    (h : List.Forall₂ (fun kind type => Ty.UsesRecord type ↔ concerns kind = true) kinds types) :
    (∃ type ∈ types, type.UsesRecord) ↔ kinds.any concerns = true := by
  induction h with
  | nil => simp
  | cons hfirst _ ih => simp [hfirst, ← ih]

/-- Further properties have a type just if there may be any. -/
theorem furtherType_isSome (further : Further) :
    Yields (fun values => values.isSome = further.isAllowed) (furtherType scope further) := by
  cases further with
  | unmentioned =>
    rw [furtherType]
    exact .pure rfl
  | anything =>
    rw [furtherType]
    exact .pure rfl
  | each schema =>
    rw [furtherType]
    exact (Yields.trivial _).bind fun _ _ => .pure rfl

mutual

/-- The type of a schema has a record in it just if an object is allowed further properties. -/
theorem schemaType_usesRecord : ∀ schema : Schema,
    Yields (fun type => type.UsesRecord ↔ schema.hasFurther = true) (schemaType scope schema)
  | .mk _ form nullable => by
    rw [schemaType]
    refine (formType_usesRecord form).bind fun type ht => .pure ?_
    cases nullable with
    | false => exact ht
    | true => exact Ty.usesRecord_orNull.trans ht

theorem formType_usesRecord : ∀ form : Form,
    Yields (fun type => type.UsesRecord ↔ form.hasFurther = true) (formType scope form)
  | .unknown => by
    rw [formType]
    exact .pure (by simp [Ty.not_usesRecord_keyword, Form.hasFurther])
  | .never => by
    rw [formType]
    exact .pure (by simp [Ty.not_usesRecord_keyword, Form.hasFurther])
  | .reference target => by
    rw [formType]
    intro comments result hresult
    have hnone := scope.referenceType_usesRecord target comments result hresult
    simp [hnone, Form.hasFurther]
  | .constant value => by
    rw [formType]
    exact .pure (by simp [Ty.not_usesRecord_literal, Form.hasFurther])
  | .choice values => by
    rw [formType]
    exact .pure (by simp [Ty.usesRecord_unionOf, Ty.not_usesRecord_literal, Form.hasFurther])
  | .all parts none => by
    rw [formType]
    refine (schemaTypes_usesRecord parts).bind fun types ht => .pure ?_
    rw [Ty.usesRecord_intersectionOf, ht, Form.hasFurther]
  | .all parts (some shape) => by
    rw [formType]
    refine (schemaTypes_usesRecord parts).bind fun types ht => ?_
    refine (shapeType_usesRecord shape).bind fun own hown => .pure ?_
    rw [Ty.usesRecord_intersectionOf, Form.hasFurther, Bool.or_eq_true, ← ht, ← hown]
    simp [or_and_right, exists_or]
  | .any variants => by
    rw [formType]
    refine (schemaTypes_usesRecord variants).bind fun types ht => .pure ?_
    rw [Ty.usesRecord_unionOf, ht, Form.hasFurther]
  | .kind kind items shape => by
    rw [formType]
    exact kindType_usesRecord (itemsType_usesRecord items) (shapeType_usesRecord shape) kind
  | .kinds kinds items shape => by
    rw [formType]
    have hkind := kindType_usesRecord (itemsType_usesRecord items) (shapeType_usesRecord shape)
    refine (Yields.mapM hkind kinds).bind fun types ht => .pure ?_
    rw [Ty.usesRecord_unionOf, usesRecord_of_forall₂ ht, Form.hasFurther]
  | .object shape => by
    rw [formType]
    exact shapeType_usesRecord shape

theorem schemaTypes_usesRecord : ∀ schemas : List Schema,
    Yields (fun types => (∃ type ∈ types, type.UsesRecord) ↔ furtherInSchemas schemas = true)
      (schemaTypes scope schemas)
  | [] => by
    rw [schemaTypes]
    exact .pure (by simp [furtherInSchemas])
  | schema :: rest => by
    rw [schemaTypes]
    refine (schemaType_usesRecord schema).bind fun type ht => ?_
    refine (schemaTypes_usesRecord rest).bind fun types hts => .pure ?_
    rw [furtherInSchemas, Bool.or_eq_true, ← ht, ← hts]
    simp

theorem itemsType_usesRecord : ∀ items : Items,
    Yields (fun type => type.UsesRecord ↔ items.hasFurther = true) (itemsType scope items)
  | .unspecified => by
    rw [itemsType]
    exact .pure (by simp [Ty.usesRecord_arrayOf, Ty.not_usesRecord_keyword, Items.hasFurther])
  | .each schema => by
    rw [itemsType]
    refine (schemaType_usesRecord schema).bind fun type ht => .pure ?_
    rw [Ty.usesRecord_arrayOf, ht, Items.hasFurther]
  | .tuple schemas => by
    rw [itemsType]
    refine (schemaTypes_usesRecord schemas).bind fun types ht => .pure ?_
    rw [Ty.usesRecord_arrayOf, Ty.usesRecord_unionOf, ht, Items.hasFurther]

theorem shapeType_usesRecord : ∀ shape : Shape,
    Yields (fun type => type.UsesRecord ↔ shape.hasFurther = true) (shapeType scope shape)
  | .mk properties further => by
    rw [shapeType]
    refine (propertyMembers_usesRecord properties).bind fun members hm => ?_
    refine (scope.furtherType_isSome further).bind fun values hv => .pure ?_
    rw [usesRecord_objectType, hm, hv, Shape.hasFurther, Bool.or_eq_true]

theorem propertyMembers_usesRecord : ∀ properties : List Property,
    Yields (fun members => (∃ member ∈ members, member.type.UsesRecord) ↔
      furtherInProperties properties = true) (propertyMembers scope properties)
  | [] => by
    rw [propertyMembers]
    exact .pure (by simp [furtherInProperties])
  | .mk name required schema :: rest => by
    rw [propertyMembers]
    refine (Yields.trivial _).bind fun position _ => ?_
    refine (schemaType_usesRecord schema).bind fun type ht => ?_
    refine (propertyMembers_usesRecord rest).bind fun members hm => .pure ?_
    rw [furtherInProperties, Bool.or_eq_true, ← ht, ← hm]
    simp [Member.type]

end

/-- What an interface leaves out of a schema allows no further properties. -/
theorem furtherInProperties_of_isInterface {schema : Value} (h : schema.isInterface = true) :
    furtherInProperties (mentionedProperties schema) = schema.schema.hasFurther := by
  have hform : schema.schema.hasFurther = schema.schema.form.hasFurther := by
    cases schema.schema
    rfl
  rw [hform]
  rcases (Value.schema_of_isInterface h).2 with ⟨items, heq⟩ | heq
  · rw [heq]
    simp [Form.hasFurther, Kind.concerns, Shape.hasFurther, Further.isAllowed]
  · rw [heq]
    simp [Form.hasFurther, Shape.hasFurther, Further.isAllowed]

theorem definitionBody_usesRecord (schema : Value) :
    Yields (fun body => (∃ values, Ty.record values ∈ body.types) ↔
      schema.schema.hasFurther = true) (definitionBody scope schema) := by
  unfold definitionBody
  split
  · next hinterface =>
    refine (scope.propertyMembers_usesRecord _).bind fun members hm => .pure ?_
    rw [← furtherInProperties_of_isInterface hinterface, ← hm]
    simp only [Body.types, mem_typesOfMembers, Ty.UsesRecord]
    grind
  · exact (scope.schemaType_usesRecord _).bind fun type ht => .pure ht

theorem definitionDeclarations_usesRecord (definitions : Entries Value) :
    Yields (fun declarations =>
        (∃ declaration ∈ declarations, ∃ values, Ty.record values ∈ declaration.body.types) ↔
          ∃ entry ∈ definitions, entry.2.schema.hasFurther = true)
      (definitionDeclarations scope definitions) := by
  induction definitions with
  | nil =>
    rw [definitionDeclarations]
    exact .pure (by simp)
  | cons entry rest ih =>
    obtain ⟨name, schema⟩ := entry
    rw [definitionDeclarations]
    refine (Yields.trivial _).bind fun _ _ => ?_
    refine (scope.definitionBody_usesRecord schema).bind fun body hb => ?_
    refine ih.bind fun declarations hd => .pure ?_
    rw [List.exists_mem_cons_iff, List.exists_mem_cons_iff, hb, hd]

theorem map_name_definitionDeclarations (definitions : Entries Value) :
    Yields (fun declarations => declarations.map Declaration.name =
        (Entries.keys definitions).map fun key => (scope.names.find? key).getD "")
      (definitionDeclarations scope definitions) := by
  induction definitions with
  | nil =>
    rw [definitionDeclarations]
    exact .pure rfl
  | cons entry rest ih =>
    obtain ⟨name, schema⟩ := entry
    rw [definitionDeclarations]
    refine (Yields.trivial _).bind fun _ _ => (Yields.trivial _).bind fun _ _ => ?_
    refine ih.bind fun declarations hd => .pure ?_
    rw [List.map_cons, hd, Entries.keys_cons, List.map_cons]

end Scope

/-! ## Records in modules -/

section Modules

variable {definitions : Dict Value} {root : String} {strict : Bool} {module : Module}

/-- A module has the declaration of the root and those of the definitions. -/
theorem exists_declarations_of_emitModule (h : emitModule definitions root strict = .ok module) :
    ∃ declarations comments,
      definitionDeclarations ⟨(assignNames root definitions).2, strict⟩ definitions.toList ⟨1, []⟩ =
        .ok (declarations, comments) ∧
      module = ⟨⟨typeName root, .interface [], none⟩ :: declarations, comments⟩ := by
  unfold emitModule at h
  simp only at h
  split at h
  · cases h
  · next declarations comments hdeclarations =>
    cases h
    exact ⟨declarations, comments, hdeclarations, rfl⟩

/-- A module writes records just if an object in a definition is allowed further properties. -/
theorem usesRecord_emitModule (h : emitModule definitions root strict = .ok module) :
    (∃ values, Ty.record values ∈ module.types) ↔
      ∃ key schema, definitions.find? key = some schema ∧ schema.schema.hasFurther = true := by
  obtain ⟨declarations, comments, hdeclarations, rfl⟩ := exists_declarations_of_emitModule h
  have huses : (∃ declaration ∈ declarations, ∃ values,
        Ty.record values ∈ declaration.body.types) ↔
      ∃ entry ∈ definitions.toList, entry.2.schema.hasFurther = true :=
    Scope.definitionDeclarations_usesRecord _ _ _ _ hdeclarations
  constructor
  · rintro ⟨values, hrecord⟩
    obtain ⟨declaration, hin, hrecord⟩ := List.mem_flatMap.mp hrecord
    -- the root has no members
    rcases List.mem_cons.mp hin with rfl | hin
    · cases hrecord
    · obtain ⟨⟨key, schema⟩, hin, hfurther⟩ := huses.mp ⟨declaration, hin, values, hrecord⟩
      exact ⟨key, schema, Entries.find?_of_mem definitions.nodup hin, hfurther⟩
  · rintro ⟨key, schema, hfind, hfurther⟩
    obtain ⟨declaration, hin, values, hrecord⟩ :=
      huses.mpr ⟨(key, schema), Entries.mem_of_find? hfind, hfurther⟩
    exact ⟨values, List.mem_flatMap.mpr ⟨declaration, List.mem_cons_of_mem _ hin, hrecord⟩⟩

/-- The declarations of a module have the names given out for the root and the definitions. -/
theorem map_name_emitModule (h : emitModule definitions root strict = .ok module) :
    module.declarations.map Declaration.name =
      (NamePool.empty.giveAll ((root :: definitions.keys).map typeName)).1 := by
  obtain ⟨declarations, comments, hdeclarations, rfl⟩ := exists_declarations_of_emitModule h
  have hnames : declarations.map Declaration.name =
      definitions.keys.map (declaredName root definitions) :=
    Scope.map_name_definitionDeclarations _ _ _ _ hdeclarations
  rw [List.map_cons, hnames, map_declaredName]
  rfl

/-! ## Declarations that are called `Record` -/

/-- Of the types of the root and of the definitions that are called `Record` but for case, the first
is called so. -/
def AsksForRecord (root : String) (definitions : Dict Value) : Prop :=
  ((root :: definitions.keys).map typeName).find? (fun name =>
    NamePool.foldName name == NamePool.foldName "Record") = some "Record"

theorem foldName_numbered_ne_record (name : String) (number : Nat) :
    NamePool.foldName (NamePool.numbered name number) ≠ NamePool.foldName "Record" := by
  intro h
  obtain ⟨c, hlast, hdigit⟩ := NamePool.isDigit_getLast_numbered name number
  have hrecord : (NamePool.foldName "Record").toList.getLast? = some 'd' := by decide +kernel
  rw [h, hrecord] at hlast
  cases hlast
  cases hdigit

/-- A module declares a `Record` just if that is asked for. -/
theorem declaresRecord_emitModule (h : emitModule definitions root strict = .ok module) :
    (∃ declaration ∈ module.declarations, declaration.name = "Record") ↔
      AsksForRecord root definitions := by
  rw [← List.mem_map, map_name_emitModule h,
    NamePool.mem_giveAll_iff foldName_numbered_ne_record, AsksForRecord]
  exact and_iff_right rfl

end Modules

/-! ## The meaning of `Record` -/

/-- If a module writes records, it declares no type that they would stand for. -/
def Module.KeepsRecord (module : Module) : Prop :=
  (∃ values, Ty.record values ∈ module.types) →
    ∀ declaration ∈ module.declarations, declaration.name ≠ "Record"

/--
If definitions have a module, it writes records just if an object in a definition is allowed further
properties, and it declares a type `Record` just if the first of the types of the root and of the
definitions that would be called so, but for case, is spelled so. It keeps the meaning of `Record`
if and only if not both are the case.
-/
theorem emitted_keepsRecord {definitions : Dict Value} {root text : String} {strict : Bool}
    (h : emit definitions root strict = .ok text) :
    ∃ module, emitModule definitions root strict = .ok module ∧ text = module.text ∧
      ((∃ values, Ty.record values ∈ module.types) ↔
        ∃ key schema, definitions.find? key = some schema ∧ schema.schema.hasFurther = true) ∧
      ((∃ declaration ∈ module.declarations, declaration.name = "Record") ↔
        AsksForRecord root definitions) ∧
      (module.KeepsRecord ↔ ¬ ((∃ key schema, definitions.find? key = some schema ∧
        schema.schema.hasFurther = true) ∧ AsksForRecord root definitions)) := by
  unfold emit at h
  cases hmodule : emitModule definitions root strict with
  | error error =>
    rw [hmodule] at h
    cases h
  | ok module =>
    rw [hmodule] at h
    cases h
    have huses := usesRecord_emitModule hmodule
    have hdeclares := declaresRecord_emitModule hmodule
    refine ⟨module, rfl, rfl, huses, hdeclares, ?_⟩
    rw [← huses, ← hdeclares, not_and]
    exact forall_congr' fun _ => by simp

/-- A score for each rider, and two schemas whose types would be called `Record` but for case. -/
def scores : Dict Value :=
  .ofPairs [
    ("Scores", .object [("type", .string "array"), ("items", .object [
      ("type", .string "object"),
      ("additionalProperties", .object [("type", .string "number")])])]),
    ("re_cord", .object [("type", .string "string")]),
    ("record", .object [("type", .string "number")])]

theorem emitted_keepsRecord_scores : ∃ module, emitModule scores "show" true = .ok module ∧
    Ty.record (.keyword .number) ∈ module.types ∧
    module.declarations.map Declaration.name = ["Show", "Scores", "ReCord", "Record2"] ∧
    module.KeepsRecord := by
  have hsome : (emit scores "show" true).toOption.isSome = true := by decide +kernel
  have hmodule : (emitModule scores "show" true).toOption.any (fun module =>
      decide (Ty.record (.keyword .number) ∈ module.types ∧
        module.declarations.map Declaration.name = ["Show", "Scores", "ReCord", "Record2"])) =
      true := by
    decide +kernel
  have hasks : ¬ AsksForRecord "show" scores := by
    unfold AsksForRecord
    decide +kernel
  cases htext : emit scores "show" true with
  | error error => simp [htext, Except.toOption] at hsome
  | ok text =>
    obtain ⟨module, hemit, _, _, _, hkeeps⟩ := emitted_keepsRecord htext
    simp only [hemit, Except.toOption, Option.any_some, decide_eq_true_eq] at hmodule
    exact ⟨module, hemit, hmodule.1, hmodule.2, hkeeps.mpr fun hboth => hasks hboth.2⟩

/-- A number for each thing in a bag, and a record that is a text. -/
def bags : Dict Value :=
  .ofPairs [
    ("Bag", .object [("type", .string "object"),
      ("additionalProperties", .object [("type", .string "number")])]),
    ("record", .object [("type", .string "string")])]

/-- A schema that is called `record` takes the place of the type that a bag is written with. -/
theorem not_keepsRecord :
    (∃ module, emitModule bags "api" false = .ok module ∧
      Ty.record (.keyword .number) ∈ module.types ∧
      (∃ declaration ∈ module.declarations, declaration.name = "Record") ∧
      ¬ module.KeepsRecord) ∧
    emit bags "api" false = .ok (header ++ "export interface Api \x7b\n\x7d\n" ++
      "export type Bag = Record<string, number>;\nexport type Record = string;\n") := by
  have hmodule : (emitModule bags "api" false).toOption.any (fun module =>
      decide (Ty.record (.keyword .number) ∈ module.types ∧
        ∃ declaration ∈ module.declarations, declaration.name = "Record")) = true := by
    decide +kernel
  refine ⟨?_, by decide +kernel⟩
  cases hemit : emitModule bags "api" false with
  | error error => simp [hemit, Except.toOption] at hmodule
  | ok module =>
    simp only [hemit, Except.toOption, Option.any_some, decide_eq_true_eq] at hmodule
    obtain ⟨hrecord, declaration, hin, hname⟩ := hmodule
    refine ⟨module, rfl, hrecord, ⟨declaration, hin, hname⟩, fun hkeeps => ?_⟩
    exact hkeeps ⟨_, hrecord⟩ declaration hin hname

end TypeScript

end SchemaBundle
