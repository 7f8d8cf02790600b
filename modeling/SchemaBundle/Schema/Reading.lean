import SchemaBundle.Json.Printer
import SchemaBundle.Reference.Basic
import SchemaBundle.Schema.Basic

/-!
# Reading schemas

What a value says where a schema is expected. Of the keys that an object has, the first that
counts decides: a reference, a constant, a choice, a combination of schemas, a named type, and
last the properties. A value that says nothing about types allows everything.
-/

namespace SchemaBundle

open Json (Value)

/-- What a value says in each of the places where it may stand inside a schema. -/
structure Reading where
  value : Value
  schema : Schema
  /-- The schemas that the items of an array are. -/
  items : List Schema
  /-- The schemas that the entries of an object are. -/
  fields : Entries Schema

/-- The entries of an object, each read. -/
abbrev Fields := Entries Reading

namespace Schema

/-- The schema of a value that is no object: false allows nothing, anything else everything. -/
def ofScalar : Value → Schema
  | .bool false => .mk none .never false
  | _ => .mk none .unknown false

end Schema

namespace Fields

/-- The value of a key. -/
def value? (fields : Fields) (key : String) : Option Value :=
  (Entries.find? key fields).map Reading.value

/-- Whether there is a key. -/
def has (fields : Fields) (key : String) : Bool :=
  (Entries.find? key fields).isSome

/-- The text of a key. -/
def text? (fields : Fields) (key : String) : Option String :=
  (fields.value? key).bind Value.asString?

/-- The schemas in the array of a key. -/
def schemas? (fields : Fields) (key : String) : Option (List Schema) :=
  (Entries.find? key fields).bind fun reading =>
    match reading.value with
    | .array _ => some reading.items
    | _ => none

/-- The values in the array of a key. -/
def values? (fields : Fields) (key : String) : Option (List Value) :=
  (fields.value? key).bind fun value =>
    match value with
    | .array items => some items
    | _ => none

/-- What a reference points at. -/
def target (value : Value) : Target :=
  match value with
  | .string text =>
    match SchemaRef.parseDefinition text with
    | .ok ref => .schema ref.name
    | .error _ =>
      match SchemaRef.parse text with
      | .ok ref => .schema ref.name
      | .error _ => .unsupported text
  | value => .unsupported value.compact

/-- The names of the properties that must be there. -/
def required (fields : Fields) : List String :=
  ((fields.values? "required").getD []).filterMap Value.asString?

/-- The properties of an object. -/
def properties (fields : Fields) : List Property :=
  match Entries.find? "properties" fields with
  | some reading =>
    reading.fields.map fun (name, schema) => .mk name (name ∈ fields.required) schema
  | none => []

/-- What further properties of an object are. -/
def further (fields : Fields) : Further :=
  match Entries.find? "additionalProperties" fields with
  | some reading =>
    match reading.value with
    | .bool true => .anything
    | .object _ => .each reading.schema
    | _ => .unmentioned
  | none => .unmentioned

/-- The shape of an object. -/
def shape (fields : Fields) : Shape :=
  .mk fields.properties fields.further

/-- Whether anything is said about properties. -/
def hasShape (fields : Fields) : Bool :=
  fields.has "properties" || fields.has "additionalProperties"

/-- What the items of an array are. -/
def items (fields : Fields) : Items :=
  match Entries.find? "items" fields with
  | none => .unspecified
  | some reading =>
    match reading.value with
    | .array _ => .tuple reading.items
    | _ => .each reading.schema

/-- The schemas of which one applies. The first of the two keys that is there counts. -/
def variants? (fields : Fields) : Option (List Schema) :=
  if fields.has "oneOf" then fields.schemas? "oneOf" else fields.schemas? "anyOf"

/-- What the key for the type says. -/
def typeForm (fields : Fields) : Form :=
  match fields.value? "type" with
  | some (.string name) => .kind (.ofName name) fields.items fields.shape
  | some (.array names) =>
    .kinds ((names.filterMap Value.asString?).map .ofName) fields.items fields.shape
  | _ => if fields.hasShape then .object fields.shape else .unknown

/-- How an object with these entries describes its values. -/
def form (fields : Fields) : Form :=
  match fields.value? "$ref" with
  | some value => .reference (target value)
  | none =>
    match fields.value? "const" with
    | some value => .constant value
    | none =>
      match fields.values? "enum" with
      | some values => .choice values
      | none =>
        match fields.schemas? "allOf" with
        | some parts => .all parts (if fields.hasShape then some fields.shape else none)
        | none =>
          match fields.variants? with
          | some variants => .any variants
          | none => fields.typeForm

/-- Whether null is allowed as well. -/
def nullable (fields : Fields) : Bool :=
  fields.value? "nullable" == some (.bool true)

/-- The schema that an object with these entries is. -/
def schema (fields : Fields) : Schema :=
  .mk (fields.text? "description") fields.form fields.nullable

end Fields

namespace Json.Value

mutual

/-- What a value says as a schema and inside one. -/
def reading : Value → Reading
  | .object entries =>
    let fields := readingsOfEntries entries
    ⟨.object entries, Fields.schema fields, [], Entries.mapValues Reading.schema fields⟩
  | .array items =>
    ⟨.array items, Schema.ofScalar (.array items), (readingsOfItems items).map Reading.schema, []⟩
  | .null => ⟨.null, Schema.ofScalar .null, [], []⟩
  | .bool value => ⟨.bool value, Schema.ofScalar (.bool value), [], []⟩
  | .number value => ⟨.number value, Schema.ofScalar (.number value), [], []⟩
  | .string text => ⟨.string text, Schema.ofScalar (.string text), [], []⟩

/-- What the items of an array say. -/
def readingsOfItems : List Value → List Reading
  | [] => []
  | item :: rest => reading item :: readingsOfItems rest

/-- What the values of an object say. -/
def readingsOfEntries : List (String × Value) → Fields
  | [] => []
  | (key, value) :: rest => (key, reading value) :: readingsOfEntries rest

end

/-- The schema that a value is. -/
def schema (value : Value) : Schema :=
  value.reading.schema

/-- The keys that make a schema more than a plain object, whatever their values. -/
def compositeKeys : List String :=
  ["$ref", "const", "enum", "allOf", "oneOf", "anyOf"]

/-- Whether an object with these entries can be declared as an interface: it is a plain object
that allows neither null nor further properties. -/
def isInterfaceOf (entries : Entries Value) : Bool :=
  let has (key : String) : Bool := (Entries.find? key entries).isSome
  let isObject : Bool :=
    match Entries.find? "type" entries with
    | some (.string name) => name == "object"
    | some _ => false
    | none => has "properties" || has "additionalProperties"
  let further : Bool :=
    match Entries.find? "additionalProperties" entries with
    | some (.bool true) | some (.object _) => true
    | _ => false
  !compositeKeys.any has && !(Entries.find? "nullable" entries == some (.bool true)) &&
    isObject && !further

/-- Whether a schema can be declared as an interface. -/
def isInterface : Value → Bool
  | .object entries => isInterfaceOf entries
  | _ => false

/-- What a schema says about its meaning. -/
def description? (value : Value) : Option String :=
  (value.get? "description").bind asString?

end Json.Value

end SchemaBundle
