import SchemaBundle.Json.Location
import SchemaBundle.Json.Basic
import SchemaBundle.Yaml.Document
import SchemaBundle.Yaml.Scalar

/-!
# Reading YAML

The value of the one document of a text. The document is loaded from the root on, and loading
stops at the first node that has no value: for a tag that is not known, a number that does not
fit, a key that is no scalar, or because the text breaks off there. The failure is the place of
that node. A text that is broken after its root value, or that has a second document, fails at
the root.
-/

namespace SchemaBundle.Yaml

open Json (Value Number Location Step)

/-! ## Scalars -/

/-- The tags of the types that every document may use. -/
def coreTag (name : String) : String :=
  "tag:yaml.org,2002:" ++ name

/-- Whether a tag is one of the document's own. -/
def isLocalTag (tag : String) : Bool :=
  tag.toList.head? == some '!'

/-- A whole number, if it fits into 64 bits, with or without a sign. -/
def wholeNumber? (n : Int) : Option Value :=
  if Decimal.fitsSigned 64 n ∨ Decimal.fitsUnsigned 64 n then some (.number (.integer n)) else none

/-- The value of a plain scalar. -/
def plainValue? (text : String) : Option Value :=
  match Scalar.meaning text.toList with
  | .null | .notFinite => some .null
  | .bool value => some (.bool value)
  | .integer value => wholeNumber? value
  | .float value => some (.number (.float value))
  | .text => some (.string text)

/-- The value of a scalar with a tag: the tags of numbers, booleans and null decide, whatever the
quotes, and with any other the scalar is a text. -/
def taggedValue? (tag text : String) : Option Value :=
  if isLocalTag tag then none
  else if tag = coreTag "bool" then (Scalar.bool? text.toList).map .bool
  else if tag = coreTag "int" then (Scalar.integer? text.toList).bind wholeNumber?
  else if tag = coreTag "float" then
    if Scalar.isNotFinite text.toList then some .null
    else (Scalar.float? text.toList).map fun x => .number (.float x)
  else if tag = coreTag "null" then
    if Scalar.isNull text.toList then some .null else none
  else some (.string text)

/-- The value of a scalar. -/
def scalarValue? (tag : Option String) (text : String) (writing : Writing) : Option Value :=
  match tag with
  | some tag => taggedValue? tag text
  | none => if writing = .plain then plainValue? text else some (.string text)

/-- A count: a whole number of 64 bits with a sign. -/
def count? (tag : Option String) (text : String) (writing : Writing) : Option Int :=
  if writing = .plain ∨ (writing = .literal ∧ tag = some (coreTag "int")) then
    (Scalar.integer? text.toList).bind fun n =>
      if Decimal.fitsSigned 64 n then some n else none
  else none

/-! ## Loading -/

/-- Where loading stands: the next event, and how many aliases were followed. -/
structure Progress where
  position : Nat
  followed : Nat

/-- The place after the next event. -/
def Progress.advance (progress : Progress) : Progress :=
  { progress with position := progress.position + 1 }

/-- What loads a part of a document gives its value, or the place where loading stopped. -/
abbrev Loader (α : Type) := Progress → Except Location (α × Progress)

/-- The same failure, seen from the value around. -/
def within (step : Step) (result : Except Location α) : Except Location α :=
  result.mapError (step :: ·)

namespace Document

/-- How deep collections may nest. -/
def nestingLimit : Nat := 128

/-- The event where loading stands. -/
def event? (document : Document) (progress : Progress) : Option Event :=
  document.events[progress.position]?

/-- Follows an alias to the node it stands for. Only so many aliases are followed. -/
def follow? (document : Document) (progress : Progress) : Option Progress :=
  if document.events.size * 100 < progress.followed + 1 then none
  else
    (document.targets.lookup progress.position).map fun target => ⟨target, progress.followed + 1⟩

/-- Loads a node from where it stands, or from where its alias leads. -/
def throughAlias (document : Document) (load : Event → Loader α) : Loader α := fun progress =>
  match document.event? progress with
  | none => .error []
  | some (.alias _) =>
    match document.follow? progress with
    | none => .error []
    | some target =>
      match document.event? target with
      | none => .error []
      | some event =>
        (load event target).map fun (a, after) =>
          (a, ⟨progress.position + 1, after.followed⟩)
  | some event => load event progress

/-- Loads the items of a sequence; `read` holds those before, last first. -/
def items (document : Document) (item : Loader α) : Nat → List α → Loader (List α)
  | 0, _, _ => .error []
  | bound + 1, read, progress =>
    match document.event? progress with
    | none => .error []
    | some .sequenceEnd => .ok (read.reverse, progress.advance)
    | some _ =>
      match within (.index read.length) (item progress) with
      | .error location => .error location
      | .ok (value, after) => items document item bound (value :: read) after

/-- Loads a key: the text of a scalar. -/
def key (document : Document) : Loader String :=
  document.throughAlias fun event progress =>
    match event with
    | .scalar _ text _ => .ok (text, progress.advance)
    | _ => .error []

/-- Loads the entries of a mapping. A key that comes again replaces its value. -/
def entries (document : Document) (value : Loader α) : Nat → Entries α → Loader (Entries α)
  | 0, _, _ => .error []
  | bound + 1, read, progress =>
    match document.event? progress with
    | some .mappingEnd => .ok (read, progress.advance)
    | _ =>
      match within .unknown (document.key progress) with
      | .error location => .error location
      | .ok (name, after) =>
        match within (.key name) (value after) with
        | .error location => .error location
        | .ok (entry, after) => entries document value bound (Entries.insert name entry read) after

/-- Whether properties name a tag of the document's own. -/
def hasLocalTag (properties : Properties) : Bool :=
  properties.tag.any isLocalTag

/-- Loads a node. Without a loader for the nodes inside it, it cannot be a collection. -/
def node (document : Document) (inner : Option (Loader Value)) (event : Event) : Loader Value :=
  fun progress =>
    let bound := document.events.size
    match event, inner with
    | .scalar properties text writing, _ =>
      match scalarValue? properties.tag text writing with
      | some value => .ok (value, progress.advance)
      | none => .error []
    | .sequenceStart properties, some inner =>
      if hasLocalTag properties then .error []
      else
        (document.items inner bound [] progress.advance).map fun (xs, after) => (.array xs, after)
    | .mappingStart properties, some inner =>
      if hasLocalTag properties then .error []
      else
        (document.entries inner bound [] progress.advance).map fun (es, after) =>
          (.object es, after)
    | _, _ => .error []

/-- Loads a value that may nest `depth` deep. -/
def value (document : Document) : Nat → Loader Value
  | 0 => document.throughAlias (document.node none)
  | depth + 1 => document.throughAlias (document.node (some (value document depth)))

/-! ## Counts -/

/-- Whether a node is left out. -/
def isOmitted : Event → Bool
  | .scalar _ text writing => text.isEmpty && writing == .plain
  | _ => false

/-- Loads a count. -/
def count (document : Document) : Loader Int :=
  document.throughAlias fun event progress =>
    match event with
    | .scalar properties text writing =>
      match count? properties.tag text writing with
      | some n => .ok (n, progress.advance)
      | none => .error []
    | _ => .error []

/-- Loads a sequence of counts. -/
def countArray (document : Document) : Loader (List Int) :=
  document.throughAlias fun event progress =>
    match event with
    | .sequenceStart _ => document.items document.count document.events.size [] progress.advance
    | event => if isOmitted event then .ok ([], progress.advance) else .error []

/-- Loads a mapping of sequences of counts. -/
def countObject (document : Document) : Loader (Entries (List Int)) :=
  document.throughAlias fun event progress =>
    match event with
    | .mappingStart _ =>
      document.entries document.countArray document.events.size [] progress.advance
    | event => if isOmitted event then .ok ([], progress.advance) else .error []

/-! ## Texts -/

/-- The one document of a text. The text must not be broken, nor go on after the document. -/
def load (document : Document) (empty : α) (root : Loader α) : Except Location α :=
  if document.any then
    match root ⟨0, 0⟩ with
    | .error location => .error location
    | .ok (value, _) => if document.complete ∧ ¬ document.followed then .ok value else .error []
  else .ok empty

end Document

/-- The value of a text. An empty text is null. -/
def parse (text : String) : Except Location Value :=
  let document := Document.ofText text
  document.load .null (document.value Document.nestingLimit)

/-- The mapping of sequences of counts that a text holds. An empty text is an empty mapping. -/
def parseCounts (text : String) : Except Location (Entries (List Int)) :=
  let document := Document.ofText text
  document.load [] document.countObject

end SchemaBundle.Yaml
