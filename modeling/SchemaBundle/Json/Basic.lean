import SchemaBundle.Dict
import SchemaBundle.Decimal.Binary64

/-!
# JSON values

The tree that a document is loaded into, whatever it was written in. Objects keep their
entries in order; a number is a whole number or a finite double, and the two are different
even where they are equal in value.
-/

namespace SchemaBundle.Json

open Decimal (Binary64)

/-- A number: whole, or a finite double. -/
inductive Number where
  | integer (value : Int)
  | float (value : Binary64)
deriving DecidableEq, Repr

/-- A JSON value. -/
inductive Value where
  | null
  | bool (value : Bool)
  | number (value : Number)
  | string (value : String)
  | array (items : List Value)
  | object (entries : List (String × Value))
deriving Repr

namespace Value

instance : Inhabited Value := ⟨.null⟩

/-! ## Equality -/

mutual

/-- Decides whether two values are the same tree. -/
def decEq : (a b : Value) → Decidable (a = b)
  | .null, .null => isTrue rfl
  | .bool a, .bool b => decidable_of_iff (a = b) (by simp)
  | .number a, .number b => decidable_of_iff (a = b) (by simp)
  | .string a, .string b => decidable_of_iff (a = b) (by simp)
  | .array a, .array b =>
    have := decEqItems a b
    decidable_of_iff (a = b) (by simp)
  | .object a, .object b =>
    have := decEqEntries a b
    decidable_of_iff (a = b) (by simp)
  | .null, .bool _ | .null, .number _ | .null, .string _ | .null, .array _ | .null, .object _
  | .bool _, .null | .bool _, .number _ | .bool _, .string _ | .bool _, .array _
  | .bool _, .object _ | .number _, .null | .number _, .bool _ | .number _, .string _
  | .number _, .array _ | .number _, .object _ | .string _, .null | .string _, .bool _
  | .string _, .number _ | .string _, .array _ | .string _, .object _ | .array _, .null
  | .array _, .bool _ | .array _, .number _ | .array _, .string _ | .array _, .object _
  | .object _, .null | .object _, .bool _ | .object _, .number _ | .object _, .string _
  | .object _, .array _ => isFalse nofun

/-- Decides whether two lists of items are the same. -/
def decEqItems : (a b : List Value) → Decidable (a = b)
  | [], [] => isTrue rfl
  | [], _ :: _ | _ :: _, [] => isFalse nofun
  | x :: xs, y :: ys =>
    have := decEq x y
    have := decEqItems xs ys
    decidable_of_iff (x = y ∧ xs = ys) (by simp)

/-- Decides whether two lists of entries are the same. -/
def decEqEntries : (a b : List (String × Value)) → Decidable (a = b)
  | [], [] => isTrue rfl
  | [], _ :: _ | _ :: _, [] => isFalse nofun
  | (k, x) :: xs, (l, y) :: ys =>
    have := decEq x y
    have := decEqEntries xs ys
    decidable_of_iff (k = l ∧ x = y ∧ xs = ys) (by simp [and_assoc])

end

instance : DecidableEq Value := decEq

/-! ## Size -/

mutual

/-- The number of nodes of a value. -/
def size : Value → Nat
  | .array items => sizeItems items + 1
  | .object entries => sizeEntries entries + 1
  | .null | .bool _ | .number _ | .string _ => 1

/-- The number of nodes of a list of items. -/
def sizeItems : List Value → Nat
  | [] => 0
  | item :: rest => size item + sizeItems rest

/-- The number of nodes of the values of a list of entries. -/
def sizeEntries : List (String × Value) → Nat
  | [] => 0
  | (_, value) :: rest => size value + sizeEntries rest

end

/-- An item is smaller than the array that holds it. -/
theorem size_le_sizeItems {item : Value} {items : List Value} (h : item ∈ items) :
    item.size ≤ sizeItems items := by
  induction items with
  | nil => simp at h
  | cons first rest ih =>
    rcases List.mem_cons.1 h with rfl | h
    · simp [sizeItems]
    · have := ih h
      simp only [sizeItems]
      omega

/-! ## Access -/

/-- The text of a string. -/
def asString? : Value → Option String
  | .string text => some text
  | _ => none

/-- The entries of an object. -/
def asObject? : Value → Option (List (String × Value))
  | .object entries => some entries
  | _ => none

/-- The value of a key; only an object has any. -/
def get? (key : String) : Value → Option Value
  | .object entries => Entries.find? key entries
  | _ => none

/-- The value at the end of a chain of keys. -/
def getPath? (path : List String) (value : Value) : Option Value :=
  path.foldlM (fun value key => get? key value) value

/-- The parts of a text between its separators: one more than there are separators. -/
def splitAt (separator : Char) : List Char → List (List Char)
  | [] => [[]]
  | c :: rest =>
    if c = separator then [] :: splitAt separator rest
    else
      match splitAt separator rest with
      | [] => [[c]]
      | part :: parts => (c :: part) :: parts

/-- The value at a path of keys joined by dots, such as `components.schemas`. -/
def getDotted? (path : String) (value : Value) : Option Value :=
  getPath? ((splitAt '.' path.toList).map String.ofList) value

end Value

end SchemaBundle.Json
