/-!
# Templates

A template is text with tags in it: some are replaced by a value, others choose, repeat or name
what they enclose. A dash at either end of a tag takes away the white space on that side of it.

This is a part of the template language Tera, and not all of it: expressions are literals,
variables, filters, comparisons and logic, and the parts of a template are text, printed values,
comments, raw text, assignments, choices and loops. Left out are fractions and lists as literals,
arithmetic, the joining of texts with a tilde, membership, tests and functions in expressions, and
among the parts blocks, inheritance, inclusion, macros, sections with a filter, assignments to the
outermost frame, and leaving a loop or a turn of it early.
-/

namespace SchemaBundle.Template

/-- A value that a template works with. -/
inductive Value where
  | string (text : String)
  | integer (value : Int)
  | flag (value : Bool)
  | list (items : List Value)
deriving Repr

instance : Inhabited Value := ⟨.string ""⟩

/-- A step of a reference: a name or an index as it is written, or the value of a reference. -/
inductive Segment where
  | key (text : String)
  | valueOf (reference : List Segment)
deriving Repr

/-- A variable, and the way from its value to one inside. -/
abbrev Reference := List Segment

/-- How two values are compared. -/
inductive Comparison where
  | less
  | lessOrEqual
  | greater
  | greaterOrEqual
  | equal
  | notEqual
deriving DecidableEq, Repr

mutual

/-- What stands at the start of an expression. -/
inductive Operand where
  | text (text : String)
  | integer (value : Int)
  | flag (value : Bool)
  | variable (reference : Reference)
  | compared (left : Expression) (comparison : Comparison) (right : Expression)
  | both (left right : Expression)
  | either (left right : Expression)

/-- An operand, the filters that its value goes through, and whether the opposite is meant. -/
inductive Expression where
  | mk (negated : Bool) (operand : Operand) (filters : List Filter)

/-- A filter with its arguments. -/
inductive Filter where
  | mk (name : String) (arguments : List (String × Expression))

end

/-- Whether the white space before and after a tag is taken away. -/
structure Trim where
  before : Bool
  after : Bool
deriving DecidableEq, Repr

mutual

/-- A part of a template. -/
inductive Node where
  | text (text : List Char)
  | comment (trim : Trim)
  /-- A text whose tags mean nothing, between two tags. -/
  | verbatim (first : Trim) (text : List Char) (last : Trim)
  | print (trim : Trim) (value : Expression)
  | assign (trim : Trim) (name : String) (value : Expression)
  /-- The body of the first branch that holds. -/
  | choice (branches : List Branch) (last : Trim)
  /-- A body for each item, or another body if there are no items. -/
  | loop (first : Trim) (key : Option String) (name : String) (items : Expression)
    (body otherwise : List Node) (last : Trim)

/-- A branch of a choice. One without a condition always holds. -/
inductive Branch where
  | mk (trim : Trim) (condition : Option Expression) (body : List Node)

end

end SchemaBundle.Template
