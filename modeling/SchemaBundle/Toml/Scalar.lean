import SchemaBundle.Decimal.Literal
import SchemaBundle.Toml.Basic

/-!
# Booleans, numbers and dates of TOML

A value without quotes is told by its spelling. Digits of a number may be set apart by single
underscores.
-/

namespace SchemaBundle.Toml

open Decimal (Binary64)

/-! ## Numbers -/

/-- Digits with single underscores between them, without the underscores; there is at least one. -/
def digits? (isDigit : Char → Bool) : List Char → Option (List Char)
  | [] => none
  | [c] => if isDigit c then some [c] else none
  | c :: '_' :: rest => if isDigit c then (digits? isDigit rest).map (c :: ·) else none
  | c :: rest => if isDigit c then (digits? isDigit rest).map (c :: ·) else none

/-- Whether a character is a digit in a base. -/
def isDigitOf (base : Nat) (c : Char) : Bool :=
  match base with
  | 2 => c == '0' || c == '1'
  | 8 => '0' ≤ c && c ≤ '7'
  | 16 => c.isDigit || ('a' ≤ c && c ≤ 'f') || ('A' ≤ c && c ≤ 'F')
  | _ => c.isDigit

/-- The value of a digit, also beyond nine. -/
def digitOf (c : Char) : Nat :=
  if c.isDigit then c.toNat - '0'.toNat
  else if 'a' ≤ c then c.toNat - 'a'.toNat + 10
  else c.toNat - 'A'.toNat + 10

/-- A whole number in a base. -/
def natural? (base : Nat) (text : List Char) : Option Nat :=
  (digits? (isDigitOf base) text).map fun digits =>
    digits.foldl (fun n c => n * base + digitOf c) 0

/-- Digits in decimal, without a superfluous zero before them. -/
def decimalDigits? (text : List Char) : Option (List Char) :=
  match digits? Char.isDigit text with
  | some ('0' :: _ :: _) => none
  | digits => digits

/-- A whole number. -/
def integer? (text : List Char) : Option Int :=
  match text with
  | '0' :: 'x' :: rest => (natural? 16 rest).map Int.ofNat
  | '0' :: 'o' :: rest => (natural? 8 rest).map Int.ofNat
  | '0' :: 'b' :: rest => (natural? 2 rest).map Int.ofNat
  | _ =>
    let (negative, digits) := Decimal.splitSign text
    (decimalDigits? digits).map fun digits =>
      let n := Decimal.digitsValue digits
      if negative then -n else n

/-- The part of a number before its exponent: whole digits, and perhaps a point and more. -/
def mantissa? (text : List Char) : Option (List Char × List Char) :=
  let whole := text.takeWhile (· ≠ '.')
  match text.dropWhile (· ≠ '.') with
  | [] => (decimalDigits? whole).map fun digits => (digits, [])
  | _ :: fraction =>
    (decimalDigits? whole).bind fun digits =>
      (digits? Char.isDigit fraction).map fun fraction => (digits, fraction)

/-- The exponent of a number after its letter. -/
def exponent? (text : List Char) : Option Int :=
  let (negative, digits) := Decimal.splitSign text
  (digits? Char.isDigit digits).map fun digits =>
    let n := Decimal.digitsValue digits
    if negative then -n else n

/-- Whether a character introduces an exponent. -/
def isExponentMark (c : Char) : Bool :=
  c == 'e' || c == 'E'

/-- A number with a point or an exponent, or a word for one that is not finite. -/
def real? (text : List Char) : Option Real :=
  let (negative, rest) := Decimal.splitSign text
  if rest = "inf".toList then some (.infinite negative)
  else if rest = "nan".toList then some .notANumber
  else
    let before := rest.takeWhile (!isExponentMark ·)
    let exponent :=
      match rest.dropWhile (!isExponentMark ·) with
      | [] => some 0
      | _ :: rest => exponent? rest
    match mantissa? before, exponent with
    | some (whole, fraction), some exponent =>
      match Binary64.ofDecimal negative (Decimal.digitsValue (whole ++ fraction))
          (exponent - fraction.length) with
      | some value => some (.finite value)
      | none => some .tooLarge
    | _, _ => none

/-! ## Dates and times -/

/-- A number of exactly `count` digits, and what follows. -/
def fixed? (count : Nat) (text : List Char) : Option (Nat × List Char) :=
  let digits := text.take count
  if digits.length = count ∧ digits.all Char.isDigit then
    some (Decimal.digitsValue digits, text.drop count)
  else none

/-- Takes a character off a text. -/
def after? (c : Char) : List Char → Option (List Char)
  | d :: rest => if d = c then some rest else none
  | [] => none

/-- The number of days of a month. -/
def daysOfMonth (year month : Nat) : Nat :=
  if month = 2 then
    if year % 4 = 0 ∧ (year % 100 ≠ 0 ∨ year % 400 = 0) then 29 else 28
  else if month ∈ [4, 6, 9, 11] then 30
  else 31

/-- Reads a date. -/
def date? (text : List Char) : Option (List Char) := do
  let (year, text) ← fixed? 4 text
  let (month, text) ← fixed? 2 (← after? '-' text)
  let (day, text) ← fixed? 2 (← after? '-' text)
  if 1 ≤ month ∧ month ≤ 12 ∧ 1 ≤ day ∧ day ≤ daysOfMonth year month then some text else none

/-- Reads the fraction of a second, if there is one. -/
def fraction? (text : List Char) : Option (List Char) :=
  match text with
  | '.' :: rest =>
    if (rest.takeWhile Char.isDigit).isEmpty then none else some (rest.dropWhile Char.isDigit)
  | _ => some text

/-- Reads a time; the seconds may be left out. -/
def time? (text : List Char) : Option (List Char) := do
  let (hour, text) ← fixed? 2 text
  let (minute, text) ← fixed? 2 (← after? ':' text)
  if 23 < hour ∨ 59 < minute then none
  else
    match after? ':' text with
    | none => some text
    | some text => do
      let (second, text) ← fixed? 2 text
      if 60 < second then none else fraction? text

/-- Reads the distance from universal time. -/
def offset? (text : List Char) : Option (List Char) :=
  match text with
  | 'Z' :: rest | 'z' :: rest => some rest
  | '+' :: rest | '-' :: rest => do
    let (hour, rest) ← fixed? 2 rest
    let (minute, rest) ← fixed? 2 (← after? ':' rest)
    if 23 < hour ∨ 59 < minute then none else some rest
  | _ => some text

/-- Whether a text is a date, a time, or both. -/
def isDatetime (text : List Char) : Bool :=
  match date? text with
  | some [] => true
  | some (c :: rest) =>
    (c == 'T' || c == 't' || c == ' ') && ((time? rest).bind offset?) == some []
  | none => time? text == some []

/-! ## Any of them -/

/-- The value of a text without quotes. -/
def scalar? (text : List Char) : Option Value :=
  if text = "true".toList then some (.boolean true)
  else if text = "false".toList then some (.boolean false)
  else
    match integer? text with
    | some n => some (.integer n)
    | none =>
      match real? text with
      | some x => some (.float x)
      | none => if isDatetime text then some .datetime else none

end SchemaBundle.Toml
