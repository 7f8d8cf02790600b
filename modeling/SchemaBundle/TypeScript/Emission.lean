import SchemaBundle.Naming.Distinct
import SchemaBundle.Naming.TypeName
import SchemaBundle.Schema.Reading
import SchemaBundle.Text.Blank
import SchemaBundle.TypeScript.Basic

/-!
# From schemas to types

Each definition becomes a declaration: a plain object an interface, anything else an alias. A
reference becomes the name that was given to the definition. Where no definition has the name,
the type is unknown, or, in strict emission, there is no module at all.

Marks are given out in the order in which declarations and members are met, from 1 on.
-/

namespace SchemaBundle.TypeScript

open Json (Value)

/-- Why definitions have no module. -/
inductive EmitError where
  | unknownRef (name : String)
  | unsupportedRef (text : String)
deriving DecidableEq, Repr

/-- The text of an error. -/
def EmitError.message : EmitError → String
  | .unknownRef name => "reference to undefined schema `" ++ name ++ "`"
  | .unsupportedRef text => "unsupported reference `" ++ text ++ "`"

/-- What emission goes by: the names of the types of the definitions, and whether it is strict. -/
structure Scope where
  names : Dict String
  strict : Bool

/-- Emission keeps the comments, and may fail. -/
abbrev Emit := StateT Comments (Except EmitError)

/-! ## Comments -/

/-- A text in which no comment ends: a slash after an asterisk is kept apart from it. -/
def guardEnds : List Char → List Char
  | '*' :: '/' :: rest => '*' :: '\\' :: '/' :: guardEnds rest
  | c :: rest => c :: guardEnds rest
  | [] => []

/-- What stands in the comment of a description, between the marks of a comment. -/
def commentText (description : String) : String :=
  String.ofList ('*' :: ' ' :: (guardEnds (Text.trim description.toList) ++ [' ']))

/-- Gives out a mark, and keeps a comment for it if there is a description. -/
def mark (description : Option String) : Emit Nat := fun comments =>
  let texts :=
    match description with
    | some description => comments.texts ++ [(comments.next, commentText description)]
    | none => comments.texts
  .ok (comments.next, ⟨comments.next + 1, texts⟩)

/-! ## Types -/

/-- The type of one value. Only texts, numbers, booleans and null have one. -/
def literal : Value → Ty
  | .string text => .text text
  | .number value => .number value
  | .bool value => .bool value
  | .null => .keyword .null
  | .array _ | .object _ => .keyword .unknown

/-- The type that a reference stands for. -/
def referenceType (scope : Scope) : Target → Emit Ty
  | .unsupported text => throw (.unsupportedRef text)
  | .schema name =>
    match scope.names.find? name with
    | some typeName => pure (.named typeName)
    | none =>
      if scope.strict then throw (.unknownRef name) else pure (.keyword .unknown)

/-- The type of an object with the given members and further properties. -/
def objectType (members : List Member) : Option Ty → Ty
  | none => .object members
  | some values =>
    if members.isEmpty then .record values
    else .intersectionOf [.object members, .record values]

/-- The type of a named type, given those of arrays and of objects. -/
def kindType (array object : Emit Ty) : Kind → Emit Ty
  | .string => pure (.keyword .string)
  | .number => pure (.keyword .number)
  | .boolean => pure (.keyword .boolean)
  | .null => pure (.keyword .null)
  | .array => array
  | .object => object
  | .other => pure (.keyword .unknown)

mutual

/-- The type of a schema. -/
def schemaType (scope : Scope) : Schema → Emit Ty
  | .mk _ form nullable => do
    let type ← formType scope form
    pure (if nullable then type.orNull else type)

/-- The type of the values that a form describes. -/
def formType (scope : Scope) : Form → Emit Ty
  | .unknown => pure (.keyword .unknown)
  | .never => pure (.keyword .never)
  | .reference target => referenceType scope target
  | .constant value => pure (literal value)
  | .choice values => pure (.unionOf (values.map literal))
  | .all parts shape => do
    let types ← schemaTypes scope parts
    match shape with
    | none => pure (.intersectionOf types)
    | some shape => do
      let own ← shapeType scope shape
      pure (.intersectionOf (types ++ [own]))
  | .any variants => do
    let types ← schemaTypes scope variants
    pure (.unionOf types)
  | .kind kind items shape => kindType (itemsType scope items) (shapeType scope shape) kind
  | .kinds kinds items shape => do
    let types ← kinds.mapM (kindType (itemsType scope items) (shapeType scope shape))
    pure (.unionOf types)
  | .object shape => shapeType scope shape

/-- The types of a list of schemas. -/
def schemaTypes (scope : Scope) : List Schema → Emit (List Ty)
  | [] => pure []
  | schema :: rest => do
    let type ← schemaType scope schema
    let types ← schemaTypes scope rest
    pure (type :: types)

/-- The type of an array with the given items. -/
def itemsType (scope : Scope) : Items → Emit Ty
  | .unspecified => pure (.arrayOf (.keyword .unknown))
  | .each schema => do
    let type ← schemaType scope schema
    pure (.arrayOf type)
  | .tuple schemas => do
    let types ← schemaTypes scope schemas
    pure (.arrayOf (.unionOf types))

/-- The type of an object of the given shape. -/
def shapeType (scope : Scope) : Shape → Emit Ty
  | .mk properties further => do
    let members ← propertyMembers scope properties
    let values ← furtherType scope further
    pure (objectType members values)

/-- The members for a list of properties. -/
def propertyMembers (scope : Scope) : List Property → Emit (List Member)
  | [] => pure []
  | .mk name required schema :: rest => do
    let position ← mark schema.description
    let type ← schemaType scope schema
    let members ← propertyMembers scope rest
    pure (.mk name (!required) type position :: members)

/-- The type of the further properties of an object, if it may have any. -/
def furtherType (scope : Scope) : Further → Emit (Option Ty)
  | .unmentioned => pure none
  | .anything => pure (some (.keyword .unknown))
  | .each schema => do
    let type ← schemaType scope schema
    pure (some type)

end

/-! ## Declarations -/

/-- The properties that a schema mentions. -/
def mentionedProperties : Value → List Property
  | .object entries => Fields.properties (Value.readingsOfEntries entries)
  | _ => []

/-- What a definition declares. -/
def definitionBody (scope : Scope) (schema : Value) : Emit Body :=
  if schema.isInterface then do
    let members ← propertyMembers scope (mentionedProperties schema)
    pure (.interface members)
  else do
    let type ← schemaType scope schema.schema
    pure (.alias type)

/-- The declarations of definitions, in order. -/
def definitionDeclarations (scope : Scope) : Entries Value → Emit (List Declaration)
  | [] => pure []
  | (name, schema) :: rest => do
    let position ← mark schema.description?
    let body ← definitionBody scope schema
    let declarations ← definitionDeclarations scope rest
    pure (⟨(scope.names.find? name).getD "", body, some position⟩ :: declarations)

/-- The names of the types: that of the root, and those of the definitions. -/
def assignNames (root : String) (definitions : Dict Value) : String × Dict String :=
  let (rootName, pool) := NamePool.empty.give (typeName root)
  let (names, _) := pool.giveAll (definitions.keys.map typeName)
  (rootName, Dict.ofPairs (definitions.keys.zip names))

/-- The module of definitions: an empty interface named after the root, and their declarations. -/
def emitModule (definitions : Dict Value) (root : String) (strict : Bool) :
    Except EmitError Module :=
  let (rootName, names) := assignNames root definitions
  match definitionDeclarations ⟨names, strict⟩ definitions.toList ⟨1, []⟩ with
  | .error error => .error error
  | .ok (declarations, comments) =>
    .ok ⟨⟨rootName, .interface [], none⟩ :: declarations, comments⟩

end SchemaBundle.TypeScript
