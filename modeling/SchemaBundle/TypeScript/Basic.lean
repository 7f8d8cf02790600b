import SchemaBundle.Json.Basic

/-!
# Types

The types of TypeScript that schemas are turned into, and the declarations of a module. A
member of an object type carries a mark, which no other member or declaration of its module
has; the comment that belongs to it is kept by this mark. Two types are the same only if the
marks in them are.
-/

namespace SchemaBundle.TypeScript

open Json (Number)

/-- The types that have a keyword. -/
inductive Keyword where
  | string
  | number
  | boolean
  | null
  | unknown
  | never
deriving DecidableEq, Repr

mutual

/-- A type. -/
inductive Ty where
  | keyword (keyword : Keyword)
  /-- The type of one text. -/
  | text (value : String)
  /-- The type of one number. -/
  | number (value : Number)
  /-- The type of one boolean. -/
  | bool (value : Bool)
  /-- A declared type. -/
  | named (name : String)
  /-- An object with any keys. -/
  | record (values : Ty)
  | array (element : Ty)
  | parenthesized (inner : Ty)
  | union (members : List Ty)
  | intersection (members : List Ty)
  | object (members : List Member)

/-- A property of an object type. -/
inductive Member where
  | mk (name : String) (optional : Bool) (type : Ty) (mark : Nat)

end

instance : Inhabited Ty := ⟨.keyword .unknown⟩

/-! ## Equality -/

mutual

/-- Whether two types are the same. -/
def Ty.same : Ty → Ty → Bool
  | .keyword a, .keyword b => a == b
  | .text a, .text b => a == b
  | .number a, .number b => a == b
  | .bool a, .bool b => a == b
  | .named a, .named b => a == b
  | .record a, .record b => a.same b
  | .array a, .array b => a.same b
  | .parenthesized a, .parenthesized b => a.same b
  | .union a, .union b => sameTypes a b
  | .intersection a, .intersection b => sameTypes a b
  | .object a, .object b => sameMembers a b
  | _, _ => false

/-- Whether two lists of types are the same. -/
def sameTypes : List Ty → List Ty → Bool
  | [], [] => true
  | a :: as, b :: bs => a.same b && sameTypes as bs
  | _, _ => false

/-- Whether two lists of members are the same. -/
def sameMembers : List Member → List Member → Bool
  | [], [] => true
  | .mk name optional type mark :: as, .mk name' optional' type' mark' :: bs =>
    name == name' && optional == optional' && type.same type' && mark == mark' &&
      sameMembers as bs
  | _, _ => false

end

mutual

theorem Ty.same_iff : ∀ a b : Ty, a.same b = true ↔ a = b
  | .keyword a, b => by cases b <;> simp [Ty.same]
  | .text a, b => by cases b <;> simp [Ty.same]
  | .number a, b => by cases b <;> simp [Ty.same]
  | .bool a, b => by cases b <;> simp [Ty.same]
  | .named a, b => by cases b <;> simp [Ty.same]
  | .record a, b => by cases b <;> simp [Ty.same, Ty.same_iff a]
  | .array a, b => by cases b <;> simp [Ty.same, Ty.same_iff a]
  | .parenthesized a, b => by cases b <;> simp [Ty.same, Ty.same_iff a]
  | .union a, b => by cases b <;> simp [Ty.same, sameTypes_iff a]
  | .intersection a, b => by cases b <;> simp [Ty.same, sameTypes_iff a]
  | .object a, b => by cases b <;> simp [Ty.same, sameMembers_iff a]

theorem sameTypes_iff : ∀ a b : List Ty, sameTypes a b = true ↔ a = b
  | [], b => by cases b <;> simp [sameTypes]
  | a :: as, b => by cases b <;> simp [sameTypes, Ty.same_iff a, sameTypes_iff as]

theorem sameMembers_iff : ∀ a b : List Member, sameMembers a b = true ↔ a = b
  | [], b => by cases b <;> simp [sameMembers]
  | .mk name optional type mark :: as, [] => by simp [sameMembers]
  | .mk name optional type mark :: as, .mk name' optional' type' mark' :: bs => by
    simp [sameMembers, Ty.same_iff type, sameMembers_iff as, and_assoc]

end

instance : DecidableEq Ty := fun a b => decidable_of_iff _ (Ty.same_iff a b)

/-! ## Types in normal form -/

namespace Ty

/-- The members of a union; any other type is the one member of itself. -/
def alternatives : Ty → List Ty
  | .union members => members
  | type => [type]

/-- Adds the types that are not in a list yet, in order. -/
def addNew (members types : List Ty) : List Ty :=
  types.foldl (fun members type => if type ∈ members then members else members ++ [type]) members

/--
The type of the values of any of the types. Unions among them are opened, of equal members the
first stays, one member stands for itself, and without members there is no value.
-/
def unionOf (types : List Ty) : Ty :=
  match addNew [] (types.flatMap alternatives) with
  | [] => .keyword .never
  | [type] => type
  | members => .union members

/-- The type of the values of all the types; without any, of all values. -/
def intersectionOf : List Ty → Ty
  | [] => .keyword .unknown
  | [type] => type
  | types => .intersection types

/-- A union or an intersection as an element stands in parentheses. -/
def arrayOf : Ty → Ty
  | .union members => .array (.parenthesized (.union members))
  | .intersection members => .array (.parenthesized (.intersection members))
  | type => .array type

/-- A type with null. -/
def orNull (type : Ty) : Ty :=
  unionOf [type, .keyword .null]

end Ty

/-! ## Modules -/

/-- What a declaration gives a name to. -/
inductive Body where
  | interface (members : List Member)
  | alias (type : Ty)

/-- An exported declaration. One without a mark has no comment. -/
structure Declaration where
  name : String
  body : Body
  mark : Option Nat

/-- The comments of a module, by the mark of what they belong to. Marks have no bound here; a
counter of 32 bits would come round to marks that are taken, after some four billion of them. -/
structure Comments where
  /-- The mark of the item that comes next. -/
  next : Nat
  /-- The comments with their marks. -/
  texts : List (Nat × String)

/-- Declarations with their comments. -/
structure Module where
  declarations : List Declaration
  comments : Comments

end SchemaBundle.TypeScript
