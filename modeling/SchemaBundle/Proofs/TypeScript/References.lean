import SchemaBundle.Proofs.Schema.Interface
import SchemaBundle.Proofs.Schema.Targets
import SchemaBundle.Proofs.TypeScript.Nesting

/-!
# Where types are named

A schema and the type that it is turned into speak of the same values. A path leads from a value
into it, through properties, elements and further entries; at the end of a path the schema refers to
schemas by name, and the type names declared types. The two line up: at every path the type names
exactly what the schemas referred to are declared as.

* `Scope.schemaType_namesDeclared`: the names in the type of a schema, path by path
* `Scope.definitionBody_namesDeclared`: the names in the declaration of a definition
-/

namespace SchemaBundle

/-- A step from a value into it. -/
inductive Descent where
  | property (name : String)
  | element
  | further
deriving DecidableEq, Repr

/-! ## References in schemas -/

/-- What a named type looks at: the items of an array, or the shape of an object. -/
def Kind.select {α : Type} (items shape : List α) : Kind → List α
  | .array => items
  | .object => shape
  | _ => []

mutual

/-- The names of the schemas that a schema refers to at the end of a path. -/
def Schema.referencesAt (path : List Descent) : Schema → List String
  | .mk _ form _ => form.referencesAt path

/-- The names of the schemas that a form refers to at the end of a path. -/
def Form.referencesAt (path : List Descent) : Form → List String
  | .reference (.schema name) => if path = [] then [name] else []
  | .all parts none => referencesAtOfSchemas path parts
  | .all parts (some shape) => referencesAtOfSchemas path parts ++ shape.referencesAt path
  | .any variants => referencesAtOfSchemas path variants
  | .kind kind items shape => kind.select (items.referencesAt path) (shape.referencesAt path)
  | .kinds kinds items shape =>
    kinds.flatMap fun kind => kind.select (items.referencesAt path) (shape.referencesAt path)
  | .object shape => shape.referencesAt path
  | .reference (.unsupported _) | .unknown | .never | .constant _ | .choice _ => []

/-- The names of the schemas that the items of an array refer to at the end of a path. -/
def Items.referencesAt (path : List Descent) : Items → List String
  | .unspecified => []
  | .each schema =>
    match path with
    | .element :: rest => schema.referencesAt rest
    | _ => []
  | .tuple schemas =>
    match path with
    | .element :: rest => referencesAtOfSchemas rest schemas
    | _ => []

/-- The names of the schemas that an object refers to at the end of a path. -/
def Shape.referencesAt (path : List Descent) : Shape → List String
  | .mk properties further =>
    match path with
    | .property name :: rest => referencesAtOfProperties name rest properties
    | .further :: rest => further.referencesAt rest
    | _ => []

/-- The names of the schemas that further properties refer to at the end of a path. -/
def Further.referencesAt (path : List Descent) : Further → List String
  | .unmentioned | .anything => []
  | .each schema => schema.referencesAt path

/-- The names of the schemas that a property refers to at the end of a path. -/
def referencesAtOfProperties (property : String) (path : List Descent) :
    List Property → List String
  | [] => []
  | .mk name _ schema :: rest =>
    (if name = property then schema.referencesAt path else []) ++
      referencesAtOfProperties property path rest

/-- The names of the schemas that schemas refer to at the end of a path. -/
def referencesAtOfSchemas (path : List Descent) : List Schema → List String
  | [] => []
  | schema :: rest => schema.referencesAt path ++ referencesAtOfSchemas path rest

end

/-- A schema with a pointer, in either spelling, refers to the schema of its name. -/
theorem Json.Value.referencesAt_of_pointer {entries : Entries Json.Value} {ref : SchemaRef}
    (h : Entries.find? "$ref" entries = some (.string ref.pointer) ∨
      Entries.find? "$ref" entries = some (.string ref.definitionPointer)) :
    (Json.Value.object entries).schema.referencesAt [] = [ref.name] := by
  have hform {text : String} (hfind : Entries.find? "$ref" entries = some (.string text)) :
      Fields.form (readingsOfEntries entries) = .reference (Fields.target (.string text)) := by
    unfold Fields.form
    rw [value?_readingsOfEntries, hfind]
  show (Fields.form (readingsOfEntries entries)).referencesAt [] = _
  rcases h with h | h
  · rw [hform h, Fields.target_pointer]
    rfl
  · rw [hform h, Fields.target_definitionPointer]
    rfl

namespace TypeScript

/-! ## Names in types -/

mutual

/-- The declared types that a type names at the end of a path. -/
def Ty.namesAt (path : List Descent) : Ty → List String
  | .named name => if path = [] then [name] else []
  | .union members => namesAtOfList path members
  | .intersection members => namesAtOfList path members
  | .parenthesized inner => inner.namesAt path
  | .array element =>
    match path with
    | .element :: rest => element.namesAt rest
    | _ => []
  | .record values =>
    match path with
    | .further :: rest => values.namesAt rest
    | _ => []
  | .object members =>
    match path with
    | .property name :: rest => namesAtOfMembers name rest members
    | _ => []
  | .keyword _ | .text _ | .number _ | .bool _ => []

/-- The declared types that a list of types names at the end of a path. -/
def namesAtOfList (path : List Descent) : List Ty → List String
  | [] => []
  | type :: rest => type.namesAt path ++ namesAtOfList path rest

/-- The declared types that a property among members names at the end of a path. -/
def namesAtOfMembers (property : String) (path : List Descent) : List Member → List String
  | [] => []
  | .mk name _ type _ :: rest =>
    (if name = property then type.namesAt path else []) ++ namesAtOfMembers property path rest

end

/-- The declared types that the body of a declaration names at the end of a path. -/
def Body.namesAt (path : List Descent) : Body → List String
  | .interface members => (Ty.object members).namesAt path
  | .alias type => type.namesAt path

/-! ## Names in what is built from types -/

namespace Ty

variable {path : List Descent} {name : String}

theorem mem_namesAtOfList {types : List Ty} :
    name ∈ namesAtOfList path types ↔ ∃ type ∈ types, name ∈ type.namesAt path := by
  induction types with
  | nil => simp [namesAtOfList]
  | cons first rest ih => simp [namesAtOfList, ih]

/-- The alternatives of a type name what the type names. -/
theorem mem_namesAt_alternatives {type : Ty} :
    name ∈ type.namesAt path ↔ ∃ other ∈ type.alternatives, name ∈ other.namesAt path := by
  cases type with
  | union members => rw [namesAt, mem_namesAtOfList, alternatives]
  | _ => simp [alternatives]

theorem mem_namesAt_unionOf {types : List Ty} :
    name ∈ (unionOf types).namesAt path ↔ name ∈ namesAtOfList path types := by
  have hmembers : (∃ type ∈ addNew [] (types.flatMap alternatives), name ∈ type.namesAt path) ↔
      ∃ type ∈ types, name ∈ type.namesAt path := by
    constructor
    · rintro ⟨type, ht, hn⟩
      obtain ⟨other, ho, ht⟩ := mem_unionMembers.mp ht
      exact ⟨other, ho, mem_namesAt_alternatives.mpr ⟨type, ht, hn⟩⟩
    · rintro ⟨other, ho, hn⟩
      obtain ⟨type, ht, hn⟩ := mem_namesAt_alternatives.mp hn
      exact ⟨type, mem_unionMembers.mpr ⟨other, ho, ht⟩, hn⟩
  rw [mem_namesAtOfList, ← hmembers]
  unfold unionOf
  split
  · next heq => simp [heq, namesAt]
  · next heq => simp [heq]
  · rw [namesAt, mem_namesAtOfList]

theorem namesAt_intersectionOf (types : List Ty) :
    (intersectionOf types).namesAt path = namesAtOfList path types := by
  unfold intersectionOf
  split
  · rfl
  · simp [namesAtOfList]
  · rfl

/-- Parentheses around the element of an array hide no name. -/
theorem namesAt_arrayOf (type : Ty) : (arrayOf type).namesAt path = (array type).namesAt path := by
  cases type with
  | union members => simp only [arrayOf, namesAt]
  | intersection members => simp only [arrayOf, namesAt]
  | _ => rfl

theorem mem_namesAt_orNull {type : Ty} :
    name ∈ type.orNull.namesAt path ↔ name ∈ type.namesAt path := by
  unfold orNull
  rw [mem_namesAt_unionOf]
  simp [namesAtOfList, namesAt]

/-- An object names types in its members and in its further properties. -/
theorem namesAt_objectType (members : List Member) (values : Option Ty) :
    (objectType members values).namesAt path =
      (object members).namesAt path ++ namesAtOfList path (values.map record).toList := by
  cases values with
  | none => simp [objectType, namesAtOfList]
  | some type =>
    simp only [objectType]
    split
    · next hempty =>
      have hnone : (object members).namesAt path = [] := by
        rw [List.isEmpty_iff.mp hempty]
        rcases path with _ | ⟨_ | _ | _, _⟩ <;> rfl
      simp [hnone, namesAtOfList]
    · rw [namesAt_intersectionOf]
      rfl

end Ty

/-! ## Names in what is emitted -/

namespace Scope

variable {scope : Scope}

/-- The names given are those of the types that the schemas referred to are declared as. -/
def NamesDeclared (scope : Scope) (references names : List String) : Prop :=
  ∀ type, type ∈ names ↔ ∃ name ∈ references, scope.names.find? name = some type

theorem NamesDeclared.nil : scope.NamesDeclared [] [] := by
  intro type
  simp

theorem NamesDeclared.append {references names more others : List String}
    (h : scope.NamesDeclared references names) (ho : scope.NamesDeclared more others) :
    scope.NamesDeclared (references ++ more) (names ++ others) := by
  intro type
  rw [List.mem_append, h type, ho type]
  simp only [List.mem_append, or_and_right, exists_or]

theorem NamesDeclared.congr {references names others : List String}
    (h : scope.NamesDeclared references names) (hsame : ∀ type, type ∈ others ↔ type ∈ names) :
    scope.NamesDeclared references others :=
  fun type => (hsame type).trans (h type)

/-- Of types put together, each names what its schema refers to. -/
theorem namesDeclared_of_forall₂ {schemas : List Schema} {types : List Ty}
    (h : List.Forall₂ (fun schema type =>
      ∀ path, scope.NamesDeclared (Schema.referencesAt path schema) (Ty.namesAt path type))
      schemas types) (path : List Descent) :
    scope.NamesDeclared (referencesAtOfSchemas path schemas) (namesAtOfList path types) := by
  induction h with
  | nil => exact .nil
  | cons hfirst _ ih => exact (hfirst path).append ih

theorem namesAt_literal (value : Json.Value) (path : List Descent) :
    (literal value).namesAt path = [] := by
  cases value <;> rfl

theorem referenceType_namesDeclared (scope : Scope) (target : Target) :
    Yields (fun type => ∀ path, scope.NamesDeclared
      (Form.referencesAt path (.reference target)) (type.namesAt path))
      (referenceType scope target) := by
  cases target with
  | unsupported text => exact .throw _
  | schema name =>
    simp only [referenceType]
    split
    · next typeName hname =>
      refine .pure fun path type => ?_
      rw [Form.referencesAt, Ty.namesAt]
      split <;> simp [hname, eq_comm]
    · next hnone =>
      split
      · exact .throw _
      · refine .pure fun path type => ?_
        rw [Form.referencesAt, Ty.namesAt]
        split <;> simp [hnone]

theorem kindType_namesDeclared {items shape : List Descent → List String} {array object : Emit Ty}
    (harray : Yields (fun type => ∀ path, scope.NamesDeclared (items path) (type.namesAt path))
      array)
    (hobject : Yields (fun type => ∀ path, scope.NamesDeclared (shape path) (type.namesAt path))
      object) (kind : Kind) :
    Yields (fun type => ∀ path, scope.NamesDeclared (kind.select (items path) (shape path))
      (type.namesAt path)) (kindType array object kind) := by
  cases kind with
  | array => exact harray
  | object => exact hobject
  | _ => exact .pure fun _ => .nil

variable (scope)

mutual

/-- At every path the type of a schema names what the schemas referred to are declared as. -/
theorem schemaType_namesDeclared : ∀ schema : Schema,
    Yields (fun type => ∀ path, scope.NamesDeclared (schema.referencesAt path)
      (type.namesAt path)) (schemaType scope schema)
  | .mk _ form nullable => by
    rw [schemaType]
    refine (formType_namesDeclared form).bind fun type ht => .pure fun path => ?_
    cases nullable with
    | false => exact ht path
    | true => exact (ht path).congr fun _ => Ty.mem_namesAt_orNull

theorem formType_namesDeclared : ∀ form : Form,
    Yields (fun type => ∀ path, scope.NamesDeclared (form.referencesAt path)
      (type.namesAt path)) (formType scope form)
  | .unknown => by rw [formType]; exact .pure fun _ => .nil
  | .never => by rw [formType]; exact .pure fun _ => .nil
  | .reference target => by
    rw [formType]
    exact scope.referenceType_namesDeclared target
  | .constant value => by
    rw [formType]
    refine .pure fun path => ?_
    rw [namesAt_literal]
    exact .nil
  | .choice values => by
    rw [formType]
    refine .pure fun path => NamesDeclared.nil.congr fun name => ?_
    rw [Ty.mem_namesAt_unionOf, Ty.mem_namesAtOfList]
    simp [namesAt_literal]
  | .all parts none => by
    rw [formType]
    refine (schemaTypes_namesDeclared parts).bind fun types ht => .pure fun path => ?_
    rw [Ty.namesAt_intersectionOf]
    exact namesDeclared_of_forall₂ ht path
  | .all parts (some shape) => by
    rw [formType]
    refine (schemaTypes_namesDeclared parts).bind fun types ht => ?_
    refine (shapeType_namesDeclared shape).bind fun own hown => .pure fun path => ?_
    rw [Ty.namesAt_intersectionOf]
    refine ((namesDeclared_of_forall₂ ht path).append (hown path)).congr fun name => ?_
    simp only [Ty.mem_namesAtOfList, List.mem_append, List.mem_singleton, or_and_right, exists_or,
      exists_eq_left]
  | .any variants => by
    rw [formType]
    refine (schemaTypes_namesDeclared variants).bind fun types ht => .pure fun path => ?_
    exact (namesDeclared_of_forall₂ ht path).congr fun _ => Ty.mem_namesAt_unionOf
  | .kind kind items shape => by
    rw [formType]
    exact kindType_namesDeclared (itemsType_namesDeclared items) (shapeType_namesDeclared shape)
      kind
  | .kinds kinds items shape => by
    rw [formType]
    have hkind := kindType_namesDeclared (itemsType_namesDeclared items)
      (shapeType_namesDeclared shape)
    refine (Yields.mapM hkind kinds).bind fun types ht => .pure fun path => ?_
    refine NamesDeclared.congr ?_ fun _ => Ty.mem_namesAt_unionOf
    -- the types were made kind by kind, as the references are selected
    show scope.NamesDeclared (kinds.flatMap _) _
    induction ht with
    | nil => exact .nil
    | cons hfirst _ ih => exact (hfirst path).append ih
  | .object shape => by
    rw [formType]
    exact shapeType_namesDeclared shape

theorem schemaTypes_namesDeclared : ∀ schemas : List Schema,
    Yields (List.Forall₂ (fun schema type =>
        ∀ path, scope.NamesDeclared (Schema.referencesAt path schema) (Ty.namesAt path type))
        schemas)
      (schemaTypes scope schemas)
  | [] => by rw [schemaTypes]; exact .pure .nil
  | schema :: rest => by
    rw [schemaTypes]
    refine (schemaType_namesDeclared schema).bind fun type ht => ?_
    exact (schemaTypes_namesDeclared rest).bind fun types hts => .pure (.cons ht hts)

theorem itemsType_namesDeclared : ∀ items : Items,
    Yields (fun type => ∀ path, scope.NamesDeclared (items.referencesAt path)
      (type.namesAt path)) (itemsType scope items)
  | .unspecified => by
    rw [itemsType]
    refine .pure fun path => ?_
    rcases path with _ | ⟨_ | _ | _, _⟩ <;> exact .nil
  | .each schema => by
    rw [itemsType]
    refine (schemaType_namesDeclared schema).bind fun type ht => .pure fun path => ?_
    rw [Ty.namesAt_arrayOf]
    rcases path with _ | ⟨_ | _ | _, rest⟩
    case cons.element => exact ht rest
    all_goals exact .nil
  | .tuple schemas => by
    rw [itemsType]
    refine (schemaTypes_namesDeclared schemas).bind fun types ht => .pure fun path => ?_
    rw [Ty.namesAt_arrayOf]
    rcases path with _ | ⟨_ | _ | _, rest⟩
    case cons.element =>
      exact (namesDeclared_of_forall₂ ht rest).congr fun _ => Ty.mem_namesAt_unionOf
    all_goals exact .nil

theorem shapeType_namesDeclared : ∀ shape : Shape,
    Yields (fun type => ∀ path, scope.NamesDeclared (shape.referencesAt path)
      (type.namesAt path)) (shapeType scope shape)
  | .mk properties further => by
    rw [shapeType]
    refine (propertyMembers_namesDeclared properties).bind fun members hm => ?_
    refine (furtherType_namesDeclared further).bind fun values hv => .pure fun path => ?_
    rw [Ty.namesAt_objectType]
    rcases path with _ | ⟨name | _ | _, rest⟩
    · cases values <;> exact .nil
    · refine (hm name rest).congr fun type => ?_
      cases values <;> simp [Ty.namesAt, namesAtOfList]
    · cases values <;> exact .nil
    · refine (hv rest).congr fun type => ?_
      cases values <;> simp [Ty.namesAt, namesAtOfList]

theorem propertyMembers_namesDeclared : ∀ properties : List Property,
    Yields (fun members => ∀ name path, scope.NamesDeclared
        (referencesAtOfProperties name path properties) (namesAtOfMembers name path members))
      (propertyMembers scope properties)
  | [] => by rw [propertyMembers]; exact .pure fun _ _ => .nil
  | .mk property _ schema :: rest => by
    rw [propertyMembers]
    refine (Yields.trivial _).bind fun _ _ => ?_
    refine (schemaType_namesDeclared schema).bind fun type ht => ?_
    refine (propertyMembers_namesDeclared rest).bind fun members hm => .pure fun name path => ?_
    refine NamesDeclared.append ?_ (hm name path)
    split
    · exact ht path
    · exact .nil

theorem furtherType_namesDeclared : ∀ further : Further,
    Yields (fun values => ∀ path, scope.NamesDeclared (further.referencesAt path)
        (namesAtOfList path values.toList))
      (furtherType scope further)
  | .unmentioned => by rw [furtherType]; exact .pure fun _ => .nil
  | .anything => by rw [furtherType]; exact .pure fun _ => .nil
  | .each schema => by
    rw [furtherType]
    refine (schemaType_namesDeclared schema).bind fun type ht => .pure fun path => ?_
    refine (ht path).congr fun name => ?_
    simp [namesAtOfList]

end

/-- A definition that is declared as an interface refers to schemas in its properties alone. -/
theorem referencesAt_of_isInterface {schema : Json.Value} (h : schema.isInterface = true)
    (path : List Descent) : schema.schema.referencesAt path =
      (Shape.mk (mentionedProperties schema) .unmentioned).referencesAt path := by
  have hform : schema.schema.referencesAt path = schema.schema.form.referencesAt path := by
    cases schema.schema
    rfl
  rw [hform]
  rcases (Json.Value.schema_of_isInterface h).2 with ⟨items, heq⟩ | heq
  · rw [heq]
    rfl
  · rw [heq]
    rfl

/-- At every path a declaration names what the schemas that its definition refers to are declared
as. -/
theorem definitionBody_namesDeclared (schema : Json.Value) :
    Yields (fun body => ∀ path, scope.NamesDeclared (schema.schema.referencesAt path)
      (body.namesAt path)) (definitionBody scope schema) := by
  unfold definitionBody
  split
  · next hinterface =>
    refine (scope.propertyMembers_namesDeclared _).bind fun members hm => .pure fun path => ?_
    rw [referencesAt_of_isInterface hinterface]
    rcases path with _ | ⟨name | _ | _, rest⟩
    case cons.property => exact hm name rest
    all_goals exact .nil
  · exact (scope.schemaType_namesDeclared _).bind fun type ht => .pure ht

end Scope

end TypeScript

end SchemaBundle
