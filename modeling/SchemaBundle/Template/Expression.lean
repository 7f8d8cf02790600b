import SchemaBundle.Template.Basic

/-!
# Reading expressions

Only the operands and the logic that `Expression` has are read: no fractions, no arithmetic, no
joining of texts, no membership, no tests and no functions.

The readers take a bound on the depth of their recursion. No more than eight rounds pass between
one character and the next, so eight times the number of characters is enough.
-/

namespace SchemaBundle.Template

/-! ## Words -/

/-- White space between the words of a tag. -/
def isSpace (c : Char) : Bool :=
  c == ' ' || c == '\t' || c == '\r' || c == '\n'

/-- Skips white space. -/
def skipSpace (text : List Char) : List Char :=
  text.dropWhile isSpace

/-- Takes a word off a text. -/
def after? (word : String) (text : List Char) : Option (List Char) :=
  if word.toList.isPrefixOf text then some (text.drop word.length) else none

/-- Takes a word off a text after white space. -/
def afterSpace? (word : String) (text : List Char) : Option (List Char) :=
  after? word (skipSpace text)

/-- Whether a character can start a name. -/
def startsName (c : Char) : Bool :=
  c.isAlpha || c == '_'

/-- Whether a character can go on a name. -/
def continuesName (c : Char) : Bool :=
  c.isAlphanum || c == '_'

/-- Reads a name. -/
def name? (text : List Char) : Option (String × List Char) :=
  match text with
  | [] => none
  | c :: _ =>
    if startsName c then
      some (String.ofList (text.takeWhile continuesName), text.dropWhile continuesName)
    else none

/-- Reads a name after white space. -/
def nameAfterSpace? (text : List Char) : Option (String × List Char) :=
  name? (skipSpace text)

/-- Reads a text between marks; nothing in it is special. -/
def quoted? (text : List Char) : Option (String × List Char) :=
  match text with
  | [] => none
  | mark :: rest =>
    if mark = '"' ∨ mark = '\'' ∨ mark.toNat = 0x60 then
      match rest.dropWhile (· ≠ mark) with
      | [] => none
      | _ :: after => some (String.ofList (rest.takeWhile (· ≠ mark)), after)
    else none

/-- Reads digits without a superfluous zero before them. -/
def digits? (text : List Char) : Option (List Char × List Char) :=
  match text with
  | '0' :: rest => some (['0'], rest)
  | c :: _ =>
    if c.isDigit then some (text.takeWhile Char.isDigit, text.dropWhile Char.isDigit) else none
  | [] => none

/-- Reads a whole number as it is written. -/
def integerText? (text : List Char) : Option (List Char × List Char) :=
  match text with
  | '-' :: rest => (digits? rest).map fun (digits, after) => ('-' :: digits, after)
  | _ => digits? text

/-- The value of digits, perhaps with a minus sign before them. -/
def integerValue (text : List Char) : Int :=
  let natural (digits : List Char) : Nat :=
    digits.foldl (fun n c => n * 10 + (c.toNat - '0'.toNat)) 0
  match text with
  | '-' :: digits => -natural digits
  | digits => natural digits

/-! ## References -/

mutual

/-- Reads a reference. -/
def reference? : Nat → List Char → Option (Reference × List Char)
  | 0, _ => none
  | bound + 1, text =>
    (name? text).map fun (name, after) =>
      let (steps, after) := steps bound after
      (.key name :: steps, after)

/-- Reads the steps of a reference as far as there are any. -/
def steps : Nat → List Char → Reference × List Char
  | 0, text => ([], text)
  | bound + 1, text =>
    match step? bound text with
    | none => ([], text)
    | some (step, after) =>
      let (rest, after) := steps bound after
      (step :: rest, after)

/-- Reads a step: a dot and a name, or an index between brackets. -/
def step? : Nat → List Char → Option (Segment × List Char)
  | 0, _ => none
  | bound + 1, text =>
    match text with
    | '.' :: rest =>
      match rest.takeWhile continuesName with
      | [] => none
      | name => some (.key (String.ofList name), rest.dropWhile continuesName)
    | '[' :: rest =>
      let index : Option (Segment × List Char) :=
        match integerText? rest, quoted? rest with
        | some (digits, after), _ => some (.key (String.ofList digits), after)
        | none, some (text, after) => some (.key text, after)
        | none, none =>
          (reference? bound rest).map fun (reference, after) => (.valueOf reference, after)
      index.bind fun (step, after) => (after? "]" after).map fun after => (step, after)
    | _ => none

end

/-! ## Expressions -/

/-- The opposite of an expression. -/
def Expression.negate : Expression → Expression
  | .mk negated operand filters => .mk (!negated) operand filters

/-- An expression that is an operand alone. -/
def Expression.ofOperand (operand : Operand) : Expression :=
  .mk false operand []

/-- The signs of comparisons; a sign stands before those that it starts with. -/
def comparisons : List (String × Comparison) :=
  [("<=", .lessOrEqual), (">=", .greaterOrEqual), ("<", .less), (">", .greater), ("==", .equal),
   ("!=", .notEqual)]

/-- Reads the sign of a comparison. -/
def comparison? (text : List Char) : Option (Comparison × List Char) :=
  comparisons.findSome? fun (sign, comparison) =>
    (afterSpace? sign text).map fun after => (comparison, after)

/-- Reads a word of logic, which white space has to follow. -/
def logicWord? (word : String) (text : List Char) : Option (List Char) :=
  (afterSpace? word text).bind fun after =>
    if after.head?.any isSpace then some after else none

/-- The truth values. -/
def flagWords : List (String × Bool) :=
  [("true", true), ("false", false), ("True", true), ("False", false)]

/-- Reads an operand that is no text. -/
def operand? (bound : Nat) (text : List Char) : Option (Operand × List Char) :=
  match flagWords.findSome? fun (word, flag) =>
      (after? word text).map fun after => (flag, after) with
  | some (flag, after) => some (.flag flag, after)
  | none =>
    match reference? bound text with
    | some (reference, after) => some (.variable reference, after)
    | none =>
      (integerText? text).map fun (digits, after) => (.integer (integerValue digits), after)

/-- Reads an operand, perhaps between parentheses. -/
def enclosedOperand? : Nat → List Char → Option (Operand × List Char)
  | 0, _ => none
  | bound + 1, text =>
    match skipSpace text with
    | '(' :: rest =>
      (enclosedOperand? bound rest).bind fun (operand, after) =>
        (afterSpace? ")" after).map fun after => (operand, after)
    | text => operand? bound text

mutual

/-- Reads an operand and its filters. -/
def filtered? : Nat → List Char → Option (Expression × List Char)
  | 0, _ => none
  | bound + 1, text =>
    let first : Option (Operand × List Char) :=
      match quoted? (skipSpace text) with
      | some (text, after) => some (.text text, after)
      | none => enclosedOperand? bound text
    first.map fun (operand, after) =>
      let (filters, after) := filters bound after
      (.mk false operand filters, after)

/-- Reads filters as far as there are any. -/
def filters : Nat → List Char → List Filter × List Char
  | 0, text => ([], text)
  | bound + 1, text =>
    match (afterSpace? "|" text).bind (filter? bound) with
    | none => ([], text)
    | some (filter, after) =>
      let (rest, after) := filters bound after
      (filter :: rest, after)

/-- Reads a filter, perhaps with arguments. -/
def filter? : Nat → List Char → Option (Filter × List Char)
  | 0, _ => none
  | bound + 1, text =>
    (nameAfterSpace? text).map fun (name, after) =>
      match (afterSpace? "(" after).bind (arguments? bound) with
      | some (arguments, after) => (.mk name arguments, after)
      | none => (.mk name [], after)

/-- Reads arguments and the parenthesis after them. -/
def arguments? : Nat → List Char → Option (List (String × Expression) × List Char)
  | 0, _ => none
  | bound + 1, text =>
    match afterSpace? ")" text with
    | some after => some ([], after)
    | none =>
      (nameAfterSpace? text).bind fun (name, after) =>
        (afterSpace? "=" after).bind fun after =>
          (logic? bound after).bind fun (value, after) =>
            match afterSpace? "," after with
            | some after =>
              (arguments? bound after).map fun (rest, after) => ((name, value) :: rest, after)
            | none => (afterSpace? ")" after).map fun after => ([(name, value)], after)

/-- Reads a comparison, or one side of it alone. -/
def compared? : Nat → List Char → Option (Expression × List Char)
  | 0, _ => none
  | bound + 1, text =>
    (filtered? bound text).map fun (left, after) =>
      let right :=
        (comparison? after).bind fun (comparison, after) =>
          (filtered? bound after).map fun (right, after) => (comparison, right, after)
      match right with
      | some (comparison, right, after) => (.ofOperand (.compared left comparison right), after)
      | none => (left, after)

/-- Reads a part of an expression without conjunctions. -/
def single? : Nat → List Char → Option (Expression × List Char)
  | 0, _ => none
  | bound + 1, text =>
    let plain :=
      match logicWord? "not" text with
      | some after => (compared? bound after).map fun (value, after) => (value.negate, after)
      | none => compared? bound text
    match plain with
    | some result => some result
    | none =>
      (afterSpace? "(" text).bind fun after =>
        (logic? bound after).bind fun (value, after) =>
          (afterSpace? ")" after).map fun after => (value, after)

/-- Reads parts of which all have to hold. -/
def conjunction? : Nat → List Char → Option (Expression × List Char)
  | 0, _ => none
  | bound + 1, text =>
    (single? bound text).map fun (left, after) =>
      match (logicWord? "and" after).bind (conjunction? bound) with
      | some (right, after) => (.ofOperand (.both left right), after)
      | none => (left, after)

/-- Reads parts of which one has to hold. -/
def logic? : Nat → List Char → Option (Expression × List Char)
  | 0, _ => none
  | bound + 1, text =>
    (conjunction? bound text).map fun (left, after) =>
      match (logicWord? "or" after).bind (logic? bound) with
      | some (right, after) => (.ofOperand (.either left right), after)
      | none => (left, after)

end

end SchemaBundle.Template
