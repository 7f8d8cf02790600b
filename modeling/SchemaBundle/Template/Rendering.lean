import SchemaBundle.Dict
import SchemaBundle.Template.Reader
import SchemaBundle.Text.LetterCase

/-!
# Rendering templates

Variables live in frames, one for the template and one for each loop around a part. An
assignment writes to the innermost frame, which a loop clears before each item. A text that is
printed has the characters escaped that mean something in HTML.

The filters are `length`, `join`, `first`, `upper` and `safe`. The language has many more, and loops
over keys and values, which are not rendered here: such a template gives nothing, as one that is not
well formed does.
-/

namespace SchemaBundle.Template

/-! ## Text of values -/

/-- A character as it stands in HTML. -/
def escapeChar (c : Char) : List Char :=
  match c with
  | '&' => "&amp;".toList
  | '<' => "&lt;".toList
  | '>' => "&gt;".toList
  | '"' => "&quot;".toList
  | '\'' => "&#x27;".toList
  | '/' => "&#x2F;".toList
  | c => [c]

/-- A text as it stands in HTML. -/
def escape (text : String) : String :=
  String.ofList (text.toList.flatMap escapeChar)

namespace Value

mutual

/-- The text of a value. -/
def render : Value → String
  | .string text => text
  | .integer value => toString value
  | .flag value => if value then "true" else "false"
  | .list items => "[" ++ ", ".intercalate (renderItems items) ++ "]"

/-- The texts of values. -/
def renderItems : List Value → List String
  | [] => []
  | item :: rest => render item :: renderItems rest

end

/-- Whether a value counts as true: nothing that is empty or zero does. -/
def isTruthy : Value → Bool
  | .string text => !text.isEmpty
  | .integer value => value != 0
  | .flag value => value
  | .list items => !items.isEmpty

mutual

/-- Whether two values are the same. -/
def same : Value → Value → Bool
  | .string a, .string b => a == b
  | .integer a, .integer b => a == b
  | .flag a, .flag b => a == b
  | .list as, .list bs => sameItems as bs
  | _, _ => false

/-- Whether the values of two lists are the same. -/
def sameItems : List Value → List Value → Bool
  | [], [] => true
  | a :: as, b :: bs => same a b && sameItems as bs
  | _, _ => false

end

/-- An index as it is written, without a superfluous zero before it. -/
def index? (text : String) : Option Nat :=
  match text.toList with
  | [] => none
  | '0' :: _ :: _ => none
  | digits =>
    if digits.all Char.isDigit then
      some (digits.foldl (fun n c => n * 10 + (c.toNat - '0'.toNat)) 0)
    else none

/-- The value that indexes lead to. -/
def at? : Value → List String → Option Value
  | value, [] => some value
  | .list items, index :: rest =>
    ((index? index).bind fun position => items[position]?).bind fun item => item.at? rest
  | _, _ :: _ => none

end Value

/-! ## Variables -/

/-- Where a loop stands: the name of its variable, the item, its position, and their number. -/
structure Turn where
  name : String
  item : Value
  position : Nat
  count : Nat

/-- The variables of a part of a template, and the turn of the loop that it is. -/
structure Frame where
  values : Entries Value
  turn : Option Turn

/-- The frames around a part of a template, the innermost first. -/
abbrev Scope := List Frame

/-- What a loop says of itself. -/
def Turn.aspect? (turn : Turn) : List String → Option Value
  | ["index"] => some (.integer (turn.position + 1))
  | ["index0"] => some (.integer turn.position)
  | ["first"] => some (.flag (turn.position == 0))
  | ["last"] => some (.flag (turn.position + 1 == turn.count))
  | _ => none

/-- A value that a loop defines. -/
def Turn.find? (turn : Turn) (name : String) (steps : List String) : Option Value :=
  let aspect := if name = "loop" then turn.aspect? steps else none
  aspect.or (if name = turn.name then turn.item.at? steps else none)

/-- A value that a frame defines; what was assigned comes before the loop's own. -/
def Frame.find? (frame : Frame) (name : String) (steps : List String) : Option Value :=
  ((Entries.find? name frame.values).bind (·.at? steps)).or
    (frame.turn.bind (·.find? name steps))

namespace Scope

/-- The value of a variable, or inside of it. -/
def find? (scope : Scope) (name : String) (steps : List String) : Option Value :=
  scope.findSome? (·.find? name steps)

/-- Writes a variable. -/
def assign (scope : Scope) (name : String) (value : Value) : Scope :=
  match scope with
  | [] => []
  | frame :: rest =>
    { frame with values := Entries.insert name value frame.values } :: rest

/-- The scope of a turn of a loop. -/
def enter (scope : Scope) (turn : Turn) : Scope :=
  ⟨[], some turn⟩ :: scope

mutual

/-- The steps of a reference with the values of those inside put in. -/
def steps? (scope : Scope) : List Segment → Option (List String)
  | [] => some []
  | segment :: rest =>
    (scope.step? segment).bind fun step => (scope.steps? rest).map fun steps => step :: steps

/-- A step as it is written, or as the text or number that a reference has. -/
def step? (scope : Scope) : Segment → Option String
  | .key text => some text
  | .valueOf reference =>
    match scope.steps? reference with
    | some (name :: steps) =>
      match scope.find? name steps with
      | some (.string text) => some text
      | some (.integer value) => some (toString value)
      | _ => none
    | _ => none

end

/-- The value of a reference. -/
def value? (scope : Scope) (reference : Reference) : Option Value :=
  match scope.steps? reference with
  | some (name :: steps) => scope.find? name steps
  | _ => none

end Scope

/-! ## Filters -/

/-- The filter that lets a text be printed without escapes. -/
def safeFilter : String := "safe"

/-- Replaces two characters by another wherever they stand in a row. -/
def replacePair (first second replacement : Char) : List Char → List Char
  | a :: b :: rest =>
    if a = first ∧ b = second then replacement :: replacePair first second replacement rest
    else a :: replacePair first second replacement (b :: rest)
  | text => text

/-- A separator, in which line ends and tabs may be written with a backslash. -/
def separator (text : String) : String :=
  String.ofList (replacePair '\\' 't' '\t' (replacePair '\\' 'n' '\n' text.toList))

/-- The texts of values with a separator between them. -/
def joined (items : List Value) : Option Value → Option Value
  | none => some (.string (String.join (Value.renderItems items)))
  | some (.string text) => some (.string ((separator text).intercalate (Value.renderItems items)))
  | some _ => none

/-- Applies a filter; nothing if there is none of that name here for the value. -/
def applyFilter (name : String) (arguments : Entries Value) (value : Value) : Option Value :=
  match name, value with
  | "length", .string text => some (.integer text.length)
  | "length", .list items => some (.integer items.length)
  | "join", .list items => joined items (Entries.find? "sep" arguments)
  | "first", .list items => some (items.headD (.string ""))
  | "upper", .string text => some (.string (String.ofList (text.toList.flatMap Text.toUppercase)))
  | _, _ => none

/-! ## Expressions -/

/-- Whether a text is printed as it is: the last filter decides. -/
def isMarkedSafe : List Filter → Bool
  | [] => false
  | [.mk name _] => name == safeFilter
  | _ :: rest => isMarkedSafe rest

/-- A value with the characters of a text escaped. -/
def Value.escaped : Value → Value
  | .string text => .string (escape text)
  | value => value

/-- Compares two whole numbers. -/
def Comparison.holds (comparison : Comparison) (a b : Int) : Bool :=
  match comparison with
  | .less => a < b
  | .lessOrEqual => a ≤ b
  | .greater => b < a
  | .greaterOrEqual => b ≤ a
  | .equal => a == b
  | .notEqual => a != b

/--
Compares two values. Only whole numbers have an order, and a number is neither equal nor unequal
to anything else.
-/
def Comparison.compare (comparison : Comparison) (a b : Value) : Option Bool :=
  match a, b with
  | .integer a, .integer b => some (comparison.holds a b)
  | .integer _, b | b, .integer _ =>
    match comparison, b with
    | .equal, _ | .notEqual, _ => some false
    | _, _ => none
  | a, b =>
    match comparison with
    | .equal => some (Value.same a b)
    | .notEqual => some (!Value.same a b)
    | _ => none

mutual

/-- The value of an expression, with its characters escaped where that is asked for. -/
def Expression.value? (escapes : Bool) (scope : Scope) : Expression → Option Value
  | .mk negated operand filters =>
    match operand.value? escapes scope with
    | none => if negated ∧ operand.isVariable then some (.flag true) else none
    | some value =>
      (filteredValue? scope filters value).map fun value =>
        if negated then .flag (!value.isTruthy)
        else if escapes ∧ !isMarkedSafe filters then value.escaped
        else value

/-- The value of an operand. -/
def Operand.value? (escapes : Bool) (scope : Scope) : Operand → Option Value
  | .text text => some (.string text)
  | .integer value => some (.integer value)
  | .flag value => some (.flag value)
  | .variable reference => scope.value? reference
  | .compared left comparison right =>
    (left.value? escapes scope).bind fun left =>
      (right.value? escapes scope).bind fun right => (comparison.compare left right).map .flag
  | .both left right =>
    (left.holds? escapes scope).bind fun holds =>
      if holds then (right.holds? escapes scope).map .flag else some (.flag false)
  | .either left right =>
    (left.holds? escapes scope).bind fun holds =>
      if holds then some (.flag true) else (right.holds? escapes scope).map .flag

/-- Whether an operand is a variable. -/
def Operand.isVariable : Operand → Bool
  | .variable _ => true
  | _ => false

/-- A value after filters. -/
def filteredValue? (scope : Scope) : List Filter → Value → Option Value
  | [], value => some value
  | filter :: rest, value =>
    (filter.result? scope value).bind fun value => filteredValue? scope rest value

/-- A value after a filter. -/
def Filter.result? (scope : Scope) : Filter → Value → Option Value
  | .mk name arguments, value =>
    if name = safeFilter then some value
    else (argumentValues? scope arguments).bind fun arguments => applyFilter name arguments value

/-- The values of arguments. -/
def argumentValues? (scope : Scope) : List (String × Expression) → Option (Entries Value)
  | [] => some []
  | (name, expression) :: rest =>
    (expression.value? false scope).bind fun value =>
      (argumentValues? scope rest).map fun values => (name, value) :: values

/-- Whether a condition holds. A variable without a value does not. -/
def Expression.holds? (escapes : Bool) (scope : Scope) : Expression → Option Bool
  | .mk negated operand filters =>
    match operand.value? escapes scope with
    | none => if operand.isVariable then some negated else none
    | some value =>
      if operand.isVariable then
        match filteredValue? scope filters value with
        | some value => some (value.isTruthy != negated)
        | none => some false
      else some (value.isTruthy != negated)

end

/-! ## Parts -/

/-- The values that a loop goes through. -/
def Value.items? : Value → Option (List Value)
  | .list items => some items
  | .string text => some (text.toList.map fun c => .string (String.singleton c))
  | _ => none

/-- The values that an expression gives a loop, which has to be a variable. -/
def Expression.items? (scope : Scope) : Expression → Option (List Value)
  | .mk negated operand filters =>
    if operand.isVariable then
      ((Expression.mk negated operand filters).value? false scope).bind Value.items?
    else none

/-- Runs a body for each item. -/
def renderTurns (body : Scope → Option (List Char × Scope)) (scope : Scope) (name : String)
    (count : Nat) : Nat → List Value → Option (List Char)
  | _, [] => some []
  | position, item :: rest =>
    (body (scope.enter ⟨name, item, position, count⟩)).bind fun (text, _) =>
      (renderTurns body scope name count (position + 1) rest).map fun after => text ++ after

mutual

/-- The text of parts, and the scope after them. -/
def renderNodes : List Node → Scope → Option (List Char × Scope)
  | [], scope => some ([], scope)
  | node :: rest, scope =>
    (renderNode node scope).bind fun (text, scope) =>
      (renderNodes rest scope).map fun (after, scope) => (text ++ after, scope)

/-- The text of a part, and the scope after it. -/
def renderNode : Node → Scope → Option (List Char × Scope)
  | .text text, scope => some (text, scope)
  | .comment _, scope => some ([], scope)
  | .verbatim _ text _, scope => some (text, scope)
  | .print _ expression, scope =>
    (expression.value? true scope).map fun value => (value.render.toList, scope)
  | .assign _ name expression, scope =>
    (expression.value? false scope).map fun value => ([], scope.assign name value)
  | .choice branches _, scope => renderBranches branches scope
  | .loop _ key name expression body otherwise _, scope =>
    (expression.items? scope).bind fun items =>
      if key.isSome then none
      else if items.isEmpty then renderNodes otherwise scope
      else
        (renderTurns (renderNodes body) scope name items.length 0 items).map fun text =>
          (text, scope)

/-- The text of the first branch that holds, and the scope after it. -/
def renderBranches : List Branch → Scope → Option (List Char × Scope)
  | [], scope => some ([], scope)
  | .mk _ none body :: _, scope => renderNodes body scope
  | .mk _ (some condition) body :: rest, scope =>
    (condition.holds? true scope).bind fun holds =>
      if holds then renderNodes body scope else renderBranches rest scope

end

/-! ## Templates -/

/-- The text of a template in which variables have values; nothing if it is not well formed, cannot
be rendered, or has something in it that is left out here. -/
def render (template : String) (context : Entries Value) : Option String :=
  (parse? template).bind fun nodes =>
    (renderNodes nodes [⟨context, none⟩]).map fun (text, _) => String.ofList text

end SchemaBundle.Template
