import SchemaBundle.Json.Basic

/-!
# Schemas

What a schema says about the type of the values it allows. A schema is a tree: the schemas that
it combines, and those of its items, properties and further properties, are part of it, while a
reference only names another schema.
-/

namespace SchemaBundle

open Json (Value)

/-- The types that a schema can name. -/
inductive Kind where
  | string
  | number
  | boolean
  | null
  | array
  | object
  | other
deriving DecidableEq, Repr

/-- The type of a name; whole numbers are numbers. -/
def Kind.ofName (name : String) : Kind :=
  if name = "string" then .string
  else if name = "integer" ∨ name = "number" then .number
  else if name = "boolean" then .boolean
  else if name = "null" then .null
  else if name = "array" then .array
  else if name = "object" then .object
  else .other

/-- What a reference points at: a schema's name, or a text that is no supported pointer. -/
inductive Target where
  | schema (name : String)
  | unsupported (text : String)
deriving DecidableEq, Repr

mutual

/-- A schema. -/
inductive Schema where
  | mk (description : Option String) (form : Form) (nullable : Bool)

/-- How a schema describes its values. -/
inductive Form where
  /-- Any value. -/
  | unknown
  /-- No value. -/
  | never
  | reference (target : Target)
  /-- One value alone. -/
  | constant (value : Value)
  /-- One of the values. -/
  | choice (values : List Value)
  /-- Every one of the schemas, and the shape if there is one. -/
  | all (parts : List Schema) (shape : Option Shape)
  /-- One of the schemas. -/
  | any (variants : List Schema)
  /-- A named type. -/
  | kind (kind : Kind) (items : Items) (shape : Shape)
  /-- One of the named types. -/
  | kinds (kinds : List Kind) (items : Items) (shape : Shape)
  /-- An object that is not named as one. -/
  | object (shape : Shape)

/-- What the items of an array are. -/
inductive Items where
  | unspecified
  | each (schema : Schema)
  | tuple (schemas : List Schema)

/-- The properties of an object, and what further properties are. -/
inductive Shape where
  | mk (properties : List Property) (further : Further)

/-- A property of an object. -/
inductive Property where
  | mk (name : String) (required : Bool) (schema : Schema)

/-- What further properties of an object are. -/
inductive Further where
  | unmentioned
  | anything
  | each (schema : Schema)

end

/-- What a schema says about its meaning. -/
def Schema.description : Schema → Option String
  | .mk description _ _ => description

/-- How a schema describes its values. -/
def Schema.form : Schema → Form
  | .mk _ form _ => form

/-- Whether null is allowed as well. -/
def Schema.nullable : Schema → Bool
  | .mk _ _ nullable => nullable

end SchemaBundle
