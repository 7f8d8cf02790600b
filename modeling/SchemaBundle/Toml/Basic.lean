import SchemaBundle.Decimal.Binary64
import SchemaBundle.Dict

/-!
# Values of TOML

What a configuration file holds: tables with their entries in order, arrays, texts, booleans and
numbers. Dates and times are told from the rest, but not what they say.
-/

namespace SchemaBundle.Toml

open Decimal (Binary64)

/-- A number with a point or an exponent, or one of the values that are no finite numbers. -/
inductive Real where
  | finite (value : Binary64)
  | infinite (negative : Bool)
  | notANumber
  | tooLarge
deriving DecidableEq, Repr

/-- A value. -/
inductive Value where
  | string (text : String)
  | integer (value : Int)
  | float (value : Real)
  | boolean (value : Bool)
  | datetime
  | array (items : List Value)
  | table (entries : List (String × Value))
deriving Repr

instance : Inhabited Value := ⟨.table []⟩

end SchemaBundle.Toml
