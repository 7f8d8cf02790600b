import SchemaBundle.Json.Location
import SchemaBundle.Json.Printer
import SchemaBundle.Text.Quoted

/-!
# Reading JSON

A value is read from the start of a text; what follows it is left alone. When reading stops,
the failure says why, at which place of the document, and at which line and column of the
text. Columns count bytes.

A double is computed the way its digits are met: as many leading digits as fit into 64 bits
form a whole number, which is rounded, and then multiplied or divided by a power of ten, which
rounds again. The result can differ from the nearest double in the last digit.

The readers take the number of characters as the bound of their recursion: every round takes
at least one character off the text.
-/

namespace SchemaBundle.Json

open Decimal (Binary64 fitsSigned tenPow twoPow)

/-! ## Failures -/

/-- What was found where something else was expected. -/
inductive Unexpected where
  | null
  | bool (value : Bool)
  | integer (value : Int)
  | float (value : Binary64)
  | string (text : String)
  | array
  | object

/-- The text of what was found. -/
def Unexpected.text : Unexpected → String
  | .null => "null"
  | .bool value => "boolean `" ++ toString value ++ "`"
  | .integer value => "integer `" ++ toString value ++ "`"
  | .float value => "floating point `" ++ floatStyle.text value ++ "`"
  | .string text => "string " ++ Text.quoted text
  | .array => "sequence"
  | .object => "map"

/-- Why reading stopped. -/
inductive Cause where
  | endInValue
  | endInArray
  | endInObject
  | endInString
  | expectedArrayEnd
  | expectedObjectEnd
  | expectedColon
  | expectedWord
  | expectedValue
  | expectedKey
  | trailingComma
  | trailingCharacters
  | badEscape
  | badSurrogate
  | brokenSurrogatePair
  | controlCharacter
  | badNumber
  | numberTooLarge
  | tooDeep
  | badType (found : Unexpected) (expected : String)
  | badValue (found : Unexpected) (expected : String)

/-- The text of a cause. -/
def Cause.text : Cause → String
  | .endInValue => "EOF while parsing a value"
  | .endInArray => "EOF while parsing a list"
  | .endInObject => "EOF while parsing an object"
  | .endInString => "EOF while parsing a string"
  | .expectedArrayEnd => "expected `,` or `]`"
  | .expectedObjectEnd => "expected `,` or `\x7d`"
  | .expectedColon => "expected `:`"
  | .expectedWord => "expected ident"
  | .expectedValue => "expected value"
  | .expectedKey => "key must be a string"
  | .trailingComma => "trailing comma"
  | .trailingCharacters => "trailing characters"
  | .badEscape => "invalid escape"
  | .badSurrogate => "lone leading surrogate in hex escape"
  | .brokenSurrogatePair => "unexpected end of hex escape"
  | .controlCharacter => "control character (\\u0000-\\u001F) found while parsing a string"
  | .badNumber => "invalid number"
  | .numberTooLarge => "number out of range"
  | .tooDeep => "recursion limit exceeded"
  | .badType found expected => "invalid type: " ++ found.text ++ ", expected " ++ expected
  | .badValue found expected => "invalid value: " ++ found.text ++ ", expected " ++ expected

/-- A failure while reading: the text that was left, and how many of its bytes count as read. -/
structure Failure where
  cause : Cause
  location : Location
  rest : List Char
  bytes : Nat

/-- A failure that stands right before the text that is left. -/
def Failure.before (cause : Cause) (rest : List Char) : Failure :=
  ⟨cause, [], rest, 0⟩

/-- A failure that stands after the next byte of the text that is left. -/
def Failure.after (cause : Cause) (rest : List Char) : Failure :=
  ⟨cause, [], rest, 1⟩

/-- The same failure, seen from the value around. -/
def Failure.within (step : Step) (failure : Failure) : Failure :=
  { failure with location := step :: failure.location }

/-- What reads a value from the start of a text gives the value and the text that is left. -/
abbrev Reader (α : Type) := List Char → Except Failure (α × List Char)

/-! ## Positions -/

/-- A line and a column, both as they are reported. -/
structure Position where
  line : Nat
  column : Nat
deriving DecidableEq, Repr

/-- Moves a position over one character. -/
def Position.advance (position : Position) (c : Char) : Position :=
  if c = '\n' then ⟨position.line + 1, 0⟩
  else { position with column := position.column + c.utf8Size }

/-- Moves a position over a number of bytes, of which the last may split a character. -/
def Position.advanceBytes (position : Position) : Nat → List Char → Position
  | 0, _ | _, [] => position
  | count + 1, c :: rest =>
    if c.utf8Size ≤ count + 1 then
      advanceBytes (position.advance c) (count + 1 - c.utf8Size) rest
    else { position with column := position.column + (count + 1) }
termination_by _ rest => rest

/-- The position of a failure in the whole text. -/
def Failure.position (failure : Failure) (text : List Char) : Position :=
  let read := text.take (text.length - failure.rest.length)
  (read.foldl Position.advance ⟨1, 0⟩).advanceBytes failure.bytes failure.rest

/-! ## Words -/

/-- The blanks between the parts of a value. -/
def isSpace (c : Char) : Bool :=
  c == ' ' || c == '\n' || c == '\t' || c == '\r'

/-- Skips blanks. -/
def skipSpace (cs : List Char) : List Char :=
  cs.dropWhile isSpace

/-- Reads the rest of a word such as `null`. -/
def word (value : α) : List Char → Reader α
  | [], cs => .ok (value, cs)
  | _ :: _, [] => .error (.before .endInValue [])
  | expected :: more, c :: cs =>
    if c = expected then word value more cs else .error (.before .expectedWord cs)

/-! ## Numbers -/

/-- The value of a decimal digit. -/
def digitValue (c : Char) : Nat :=
  c.toNat - '0'.toNat

/-- The powers of ten that are scaled by in one step. -/
def largestPower : Nat := 308

/-- The double nearest to a power of ten. -/
def powerOfTen (exponent : Nat) : Binary64 :=
  (Binary64.ofNat (tenPow exponent)).getD (.zero false)

/--
Divides by ever smaller powers of ten until the exponent is used up. Each round takes off the
largest power; a value that has become zero stays zero.
-/
def scaleDown (x : Binary64) (exponent : Nat) : Binary64 :=
  if exponent ≤ largestPower then (x.div (powerOfTen exponent)).getD x
  else if x.isZero then x
  else scaleDown ((x.div (powerOfTen largestPower)).getD x) (exponent - largestPower)
termination_by exponent
decreasing_by simp only [largestPower] at *; omega

/-- `significand * 10 ^ exponent`, rounded twice; nothing if it is too large. -/
def scaled? (significand : Nat) (exponent : Int) : Option Binary64 :=
  let x := (Binary64.ofNat significand).getD (.zero false)
  if 0 ≤ exponent then
    if exponent ≤ largestPower then x.mul (powerOfTen exponent.toNat)
    else if x.isZero then some x else none
  else some (scaleDown x (-exponent).toNat)

/-- The number `± significand * 10 ^ exponent`. -/
def float (negative : Bool) (significand : Nat) (exponent : Int) : Reader Number :=
  fun cs =>
    match scaled? significand exponent with
    | some x => .ok (.float (x.withSign negative), cs)
    | none => .error (.before .numberTooLarge cs)

/-- The largest value of an exponent that is still counted. -/
def largestExponent : Nat := twoPow 31 - 1

/-- An exponent kept within the range in which exponents are counted. -/
def clampExponent (exponent : Int) : Int :=
  max (-twoPow 31) (min largestExponent exponent)

/-- Reads the digits of an exponent, with the value of those already read. -/
def exponentDigits (negative : Bool) (significand : Nat) (start : Int) (down : Bool)
    (value : Nat) : Reader Number
  | [] =>
    float negative significand (clampExponent (if down then start - value else start + value)) []
  | c :: cs =>
    if c.isDigit then
      if largestExponent < value * 10 + digitValue c then
        if significand ≠ 0 ∧ ¬ down then .error (.before .numberTooLarge cs)
        else .ok (.float (.zero negative), cs.dropWhile Char.isDigit)
      else exponentDigits negative significand start down (value * 10 + digitValue c) cs
    else
      float negative significand (clampExponent (if down then start - value else start + value))
        (c :: cs)

/-- Reads an exponent after its letter. -/
def exponentPart (negative : Bool) (significand : Nat) (start : Int) : Reader Number := fun cs =>
  let (down, digits) :=
    match cs with
    | '+' :: rest => (false, rest)
    | '-' :: rest => (true, rest)
    | _ => (false, cs)
  match digits with
  | [] => .error (.before .endInValue [])
  | c :: rest =>
    if c.isDigit then exponentDigits negative significand start down (digitValue c) rest
    else .error (.before .badNumber rest)

/-- Ends a number whose digits are known: an exponent may follow. -/
def afterDigits (negative : Bool) (significand : Nat) (exponent : Int) : Reader Number
  | 'e' :: cs | 'E' :: cs => exponentPart negative significand exponent cs
  | cs => float negative significand exponent cs

/-- The whole numbers that 64 bits hold. -/
def largestSignificand : Nat := twoPow 64 - 1

/-- Reads the digits after the point; those that 64 bits cannot hold are dropped. -/
def fractionDigits (negative : Bool) (significand : Nat) (exponent : Int) (any : Bool) :
    Reader Number
  | [] =>
    if any then afterDigits negative significand exponent []
    else .error (.after .endInValue [])
  | c :: cs =>
    if c.isDigit then
      if largestSignificand < significand * 10 + digitValue c then
        afterDigits negative significand exponent (cs.dropWhile Char.isDigit)
      else fractionDigits negative (significand * 10 + digitValue c) (exponent - 1) true cs
    else if any then afterDigits negative significand exponent (c :: cs)
    else .error (.after .badNumber (c :: cs))

/-- Ends a whole number that 64 bits cannot hold. -/
def afterLongDigits (negative : Bool) (significand : Nat) (exponent : Int) : Reader Number
  | '.' :: cs => fractionDigits negative significand exponent false cs
  | cs => afterDigits negative significand exponent cs

/-- Ends a whole number: a fraction or an exponent makes it a double, and so does `-0`. -/
def afterInteger (negative : Bool) (significand : Nat) : Reader Number
  | '.' :: cs => fractionDigits negative significand 0 false cs
  | 'e' :: cs | 'E' :: cs => exponentPart negative significand 0 cs
  | cs =>
    if ¬ negative then .ok (.integer significand, cs)
    else if significand = 0 ∨ twoPow 63 < significand then
      .ok (.float (((Binary64.ofNat significand).getD (.zero false)).withSign true), cs)
    else .ok (.integer (-significand), cs)

/-- Reads the digits of a whole number after the first. -/
def integerDigits (negative : Bool) (significand : Nat) : Reader Number
  | [] => afterInteger negative significand []
  | c :: cs =>
    if c.isDigit then
      if largestSignificand < significand * 10 + digitValue c then
        let dropped := (c :: cs).takeWhile Char.isDigit
        afterLongDigits negative significand dropped.length ((c :: cs).dropWhile Char.isDigit)
      else integerDigits negative (significand * 10 + digitValue c) cs
    else afterInteger negative significand (c :: cs)

/-- Reads a number after its sign. -/
def unsigned (negative : Bool) : Reader Number
  | [] => .error (.before .endInValue [])
  | c :: cs =>
    if c = '0' then
      match cs with
      | next :: _ =>
        if next.isDigit then .error (.after .badNumber cs) else afterInteger negative 0 cs
      | [] => afterInteger negative 0 []
    else if c.isDigit then integerDigits negative (digitValue c) cs
    else .error (.before .badNumber cs)

/-! ## Strings -/

/-- The value of a hexadecimal digit. -/
def hexValue? (c : Char) : Option Nat :=
  if c.isDigit then some (digitValue c)
  else if 'a' ≤ c ∧ c ≤ 'f' then some (c.toNat - 'a'.toNat + 10)
  else if 'A' ≤ c ∧ c ≤ 'F' then some (c.toNat - 'A'.toNat + 10)
  else none

/-- The four digits of an escape take four bytes, whatever characters these belong to. -/
def hexEscape : Reader Nat := fun cs =>
  match cs with
  | a :: b :: c :: d :: rest =>
    match hexValue? a, hexValue? b, hexValue? c, hexValue? d with
    | some w, some x, some y, some z => .ok (((w * 16 + x) * 16 + y) * 16 + z, rest)
    | _, _, _, _ => .error ⟨.badEscape, [], cs, 4⟩
  | _ =>
    if cs.foldl (fun size c => size + c.utf8Size) 0 < 4 then .error (.before .endInString [])
    else .error ⟨.badEscape, [], cs, 4⟩

/-- Reads the second half of a pair of surrogates. -/
def surrogatePair (high : Nat) : Reader Char
  | [] => .error (.before .endInString [])
  | '\\' :: [] => .error (.before .endInString [])
  | '\\' :: 'u' :: cs =>
    match hexEscape cs with
    | .error failure => .error failure
    | .ok (low, rest) =>
      if low < 0xDC00 ∨ 0xDFFF < low then .error (.before .badSurrogate rest)
      else .ok (Char.ofNat (0x10000 + (high - 0xD800) * 0x400 + (low - 0xDC00)), rest)
  | '\\' :: cs => .error (.after .brokenSurrogatePair cs)
  | cs => .error (.after .brokenSurrogatePair cs)

/-- Reads an escape after its backslash. -/
def escape : Reader Char
  | [] => .error (.before .endInString [])
  | '"' :: cs => .ok ('"', cs)
  | '\\' :: cs => .ok ('\\', cs)
  | '/' :: cs => .ok ('/', cs)
  | 'b' :: cs => .ok ('\x08', cs)
  | 'f' :: cs => .ok ('\x0c', cs)
  | 'n' :: cs => .ok ('\n', cs)
  | 'r' :: cs => .ok ('\r', cs)
  | 't' :: cs => .ok ('\t', cs)
  | 'u' :: cs =>
    match hexEscape cs with
    | .error failure => .error failure
    | .ok (code, rest) =>
      if 0xDC00 ≤ code ∧ code ≤ 0xDFFF then .error (.before .badSurrogate rest)
      else if 0xD800 ≤ code ∧ code ≤ 0xDBFF then surrogatePair code rest
      else .ok (Char.ofNat code, rest)
  | cs => .error (.after .badEscape cs)

/-- Reads a string after its first quotation mark; `read` holds its characters, last first. -/
def stringChars : Nat → List Char → Reader String
  | 0, _, cs => .error (.before .endInString cs)
  | _ + 1, _, [] => .error (.before .endInString [])
  | bound + 1, read, c :: cs =>
    if c = '"' then .ok (String.ofList read.reverse, cs)
    else if c = '\\' then
      match escape cs with
      | .error failure => .error failure
      | .ok (decoded, rest) => stringChars bound (decoded :: read) rest
    else if c.toNat < 0x20 then .error (.before .controlCharacter cs)
    else stringChars bound (c :: read) cs

/-! ## Arrays and objects -/

/-- How deep values may nest. -/
def nestingLimit : Nat := 127

/--
Reads the items of an array after its bracket; `read` holds those before, last first.
-/
def items (item : Reader α) : Nat → List α → Reader (List α)
  | 0, _, cs => .error (.before .endInArray cs)
  | bound + 1, read, cs =>
    let next (rest : List Char) : Except Failure (List α × List Char) :=
      match item rest with
      | .error failure => .error (failure.within (.index read.length))
      | .ok (value, rest) => items item bound (value :: read) rest
    match skipSpace cs with
    | [] => .error (.after .endInArray [])
    | ']' :: rest => .ok (read.reverse, rest)
    | c :: rest =>
      if read.isEmpty then next (c :: rest)
      else if c = ',' then
        match skipSpace rest with
        | [] => .error (.after .endInValue [])
        | ']' :: rest => .error (.after .trailingComma (']' :: rest))
        | rest => next rest
      else .error (.after .expectedArrayEnd (c :: rest))

/-- Reads the colon and the value of an entry. -/
def entryValue (value : Reader α) : Reader α := fun cs =>
  match skipSpace cs with
  | ':' :: rest => value rest
  | [] => .error (.after .endInObject [])
  | rest => .error (.after .expectedColon rest)

/--
Reads the entries of an object after its brace; `read` holds those before, and `first` says
that there are none. A key that comes again replaces its value.
-/
def entries (value : Reader α) : Nat → Bool → Entries α → Reader (Entries α)
  | 0, _, _, cs => .error (.before .endInObject cs)
  | bound + 1, first, read, cs =>
    let lost (cause : Cause) (rest : List Char) : Except Failure (Entries α × List Char) :=
      .error ((Failure.after cause rest).within .unknown)
    let next (rest : List Char) : Except Failure (Entries α × List Char) :=
      match stringChars bound [] rest with
      | .error failure => .error (failure.within .unknown)
      | .ok (key, rest) =>
        match entryValue value rest with
        | .error failure => .error (failure.within (.key key))
        | .ok (entry, rest) =>
          entries value bound false (Entries.insert key entry read) rest
    match skipSpace cs with
    | [] => lost .endInObject []
    | '\x7d' :: rest => .ok (read, rest)
    | c :: rest =>
      if first then
        if c = '"' then next rest else lost .expectedKey (c :: rest)
      else if c = ',' then
        match skipSpace rest with
        | [] => lost .endInValue []
        | '"' :: rest => next rest
        | '\x7d' :: rest => lost .trailingComma ('\x7d' :: rest)
        | rest => lost .expectedKey rest
      else lost .expectedObjectEnd (c :: rest)

/-! ## Values -/

/-- Reads a value that may nest `depth` deep. -/
def value : Nat → Nat → Reader Value
  | 0, _, cs => .error (.before .endInValue cs)
  | bound + 1, depth, cs =>
    match skipSpace cs with
    | [] => .error (.after .endInValue [])
    | 'n' :: rest => word .null "ull".toList rest
    | 't' :: rest => word (.bool true) "rue".toList rest
    | 'f' :: rest => word (.bool false) "alse".toList rest
    | '-' :: rest => (unsigned true rest).map fun (n, rest) => (.number n, rest)
    | '"' :: rest => (stringChars bound [] rest).map fun (text, rest) => (.string text, rest)
    | '[' :: rest =>
      match depth with
      | 0 => .error (.after .tooDeep ('[' :: rest))
      | depth + 1 =>
        (items (value bound depth) bound [] rest).map fun (xs, rest) => (.array xs, rest)
    | '\x7b' :: rest =>
      match depth with
      | 0 => .error (.after .tooDeep ('\x7b' :: rest))
      | depth + 1 =>
        (entries (value bound depth) bound true [] rest).map fun (es, rest) => (.object es, rest)
    | c :: rest =>
      if c.isDigit then (unsigned false (c :: rest)).map fun (n, rest) => (.number n, rest)
      else .error (.after .expectedValue (c :: rest))

/-! ## Counts -/

/-- What stands at the start of a text where something else was expected. -/
def mismatch (expected : String) (bound : Nat) (cs : List Char) : Failure :=
  let found (unexpected : Unexpected) (rest : List Char) : Failure :=
    .before (.badType unexpected expected) rest
  let number : Except Failure (Number × List Char) → Failure
    | .error failure => failure
    | .ok (.integer n, rest) => found (.integer n) rest
    | .ok (.float x, rest) => found (.float x) rest
  let keyword (unexpected : Unexpected) (more : String) (rest : List Char) : Failure :=
    match word () more.toList rest with
    | .error failure => failure
    | .ok (_, rest) => found unexpected rest
  match cs with
  | 'n' :: rest => keyword .null "ull" rest
  | 't' :: rest => keyword (.bool true) "rue" rest
  | 'f' :: rest => keyword (.bool false) "alse" rest
  | '-' :: rest => number (unsigned true rest)
  | '"' :: rest =>
    match stringChars bound [] rest with
    | .error failure => failure
    | .ok (text, rest) => found (.string text) rest
  | '[' :: rest => found .array ('[' :: rest)
  | '\x7b' :: rest => found .object ('\x7b' :: rest)
  | c :: rest =>
    if c.isDigit then number (unsigned false (c :: rest)) else .after .expectedValue (c :: rest)
  | [] => .after .expectedValue []

/-- Reads a whole number of 64 bits. -/
def count (bound : Nat) : Reader Int := fun cs =>
  let accept : Except Failure (Number × List Char) → Except Failure (Int × List Char)
    | .error failure => .error failure
    | .ok (.integer n, rest) =>
      if fitsSigned 64 n then .ok (n, rest)
      else .error (.before (.badValue (.integer n) "i64") rest)
    | .ok (.float x, rest) => .error (.before (.badType (.float x) "i64") rest)
  match skipSpace cs with
  | [] => .error (.after .endInValue [])
  | '-' :: rest => accept (unsigned true rest)
  | c :: rest =>
    if c.isDigit then accept (unsigned false (c :: rest))
    else .error (mismatch "i64" bound (c :: rest))

/-- Reads an array of counts. -/
def countArray (bound : Nat) : Reader (List Int) := fun cs =>
  match skipSpace cs with
  | [] => .error (.after .endInValue [])
  | '[' :: rest => items (count bound) bound [] rest
  | rest => .error (mismatch "a sequence" bound rest)

/-- Reads an object of arrays of counts. -/
def countObject (bound : Nat) : Reader (Entries (List Int)) := fun cs =>
  match skipSpace cs with
  | [] => .error (.after .endInValue [])
  | '\x7b' :: rest => entries (countArray bound) bound true [] rest
  | rest => .error (mismatch "a map" bound rest)

/-! ## Texts -/

/-- A failure to read a text: the place it concerns and what is wrong there. -/
structure ReadError where
  location : Location
  message : String
deriving DecidableEq, Repr

/-- A failure with its position in the text. The place is named if any step of it is known. -/
def Failure.report (failure : Failure) (text : List Char) : ReadError :=
  let position := failure.position text
  let place := if failure.location.isUnnamed then "" else failure.location.text ++ ": "
  { location := failure.location
    message := place ++ failure.cause.text ++ " at line " ++ toString position.line ++
      " column " ++ toString position.column }

/-- Reads what stands at the start of a text. -/
def read (reader : Nat → Reader α) (text : String) : Except ReadError α :=
  let cs := text.toList
  match reader (cs.length + 1) cs with
  | .ok (result, _) => .ok result
  | .error failure => .error (failure.report cs)

/-- The value at the start of a text. -/
def parse (text : String) : Except ReadError Value :=
  read (fun bound => value bound nestingLimit) text

/-- The object of arrays of counts at the start of a text. -/
def parseCounts (text : String) : Except ReadError (Entries (List Int)) :=
  read countObject text

end SchemaBundle.Json
