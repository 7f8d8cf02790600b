import SchemaBundle.Decimal.Literal
import SchemaBundle.Yaml.Character

/-!
# What plain scalars mean

A scalar without quotes and without a tag is null, a boolean, a number or a text, told by how it
is written. Whole numbers may be written in decimal, or after `0x`, `0o` or `0b` in another
base; digits that start with a superfluous zero are a text.
-/

namespace SchemaBundle.Yaml

open Decimal (Binary64)

/-- What a plain scalar stands for. -/
inductive Meaning where
  | null
  | bool (value : Bool)
  | integer (value : Int)
  | float (value : Binary64)
  | notFinite
  | text
deriving DecidableEq, Repr

namespace Scalar

/-- The spellings of null. -/
def isNull (text : List Char) : Bool :=
  text ∈ ["null", "Null", "NULL", "~"].map String.toList

/-- The spellings of the booleans. -/
def bool? (text : List Char) : Option Bool :=
  if text ∈ ["true", "True", "TRUE"].map String.toList then some true
  else if text ∈ ["false", "False", "FALSE"].map String.toList then some false
  else none

/-- The spellings of the values that are no finite numbers. -/
def isNotFinite (text : List Char) : Bool :=
  text ∈ [".inf", ".Inf", ".INF", "+.inf", "+.Inf", "+.INF", "-.inf", "-.Inf", "-.INF", ".nan",
    ".NaN", ".NAN"].map String.toList

/-- The text without one plus sign before it. -/
def dropPlus : List Char → List Char
  | '+' :: rest => rest
  | text => text

/-- Whether a text starts with a sign. -/
def startsWithSign : List Char → Bool
  | c :: _ => c == '+' || c == '-'
  | [] => false

/-- Digits that start with a superfluous zero, such as `007` and `-00`. -/
def isZeroPadded (text : List Char) : Bool :=
  match if startsWithSign text then text.tail else text with
  | '0' :: c :: rest => (c :: rest).all Char.isDigit
  | _ => false

/-- A whole number written with digits of the given base; there is at least one. -/
def inBase? (base : Nat) (text : List Char) : Option Nat :=
  if text.isEmpty then none
  else
    text.foldlM (fun value c =>
      (hexValue? c).bind fun digit =>
        if digit < base then some (value * base + digit) else none) 0

/-- A whole number without a sign. -/
def magnitude? : List Char → Option Nat
  | '0' :: 'x' :: digits => inBase? 16 digits
  | '0' :: 'o' :: digits => inBase? 8 digits
  | '0' :: 'b' :: digits => inBase? 2 digits
  | digits => inBase? 10 digits

/-- A whole number, if it fits into 128 bits. -/
def integer? (text : List Char) : Option Int :=
  if isZeroPadded text then none
  else
    match text with
    | '-' :: rest =>
      (magnitude? rest).bind fun n => if n ≤ Decimal.twoPow 127 then some (-n) else none
    | _ =>
      (magnitude? (dropPlus text)).bind fun n => if n < Decimal.twoPow 128 then some n else none

/-- A finite number in decimal. -/
def float? (text : List Char) : Option Binary64 :=
  let unsigned := dropPlus text
  if text.head? = some '+' ∧ startsWithSign unsigned then none
  else Decimal.literal? unsigned

/-- What a plain scalar stands for. -/
def meaning (text : List Char) : Meaning :=
  if text.isEmpty ∨ isNull text then .null
  else
    match bool? text with
    | some value => .bool value
    | none =>
      match integer? text with
      | some value => .integer value
      | none =>
        if isNotFinite text then .notFinite
        else if isZeroPadded text then .text
        else
          match float? text with
          | some value => .float value
          | none => .text

end Scalar

end SchemaBundle.Yaml
