/-!
# References to schemas

A reference is the name of a schema. It is written as a pointer, `#/components/schemas/` and the
name, and inside a schema document as `#/definitions/` and the name. Main statement: reading a
pointer accepts exactly what writing one produces.
-/

namespace SchemaBundle

/-! ## Names -/

/-- The characters of a schema's name: letters and digits of ASCII, and the underscore. -/
def isNameChar (c : Char) : Bool :=
  c.isAlphanum || c == '_'

/-- Whether a text is the name of a schema: it is not empty, and of name characters only. -/
def isSchemaName (name : String) : Bool :=
  !name.toList.isEmpty && name.toList.all isNameChar

/-- What a text starts with, taken off it. -/
def afterStart? : (start text : List Char) → Option (List Char)
  | [], text => some text
  | _ :: _, [] => none
  | a :: start, b :: text => if a = b then afterStart? start text else none

theorem afterStart?_eq_some {start text rest : List Char} :
    afterStart? start text = some rest ↔ text = start ++ rest := by
  induction start generalizing text with
  | nil => simp [afterStart?]
  | cons a start ih =>
    cases text with
    | nil => simp [afterStart?]
    | cons b text =>
      by_cases h : a = b
      · simp [afterStart?, h, ih]
      · simp [afterStart?, h, Ne.symm h]

/-! ## References -/

/-- The start of a pointer to a named schema. -/
def schemasPointer : String := "#/components/schemas/"

/-- The start of a pointer to a definition of a schema document. -/
def definitionsPointer : String := "#/definitions/"

/-- A reference to a named schema. -/
structure SchemaRef where
  name : String
  valid : isSchemaName name = true
deriving DecidableEq

/-- Why a text is no reference. -/
inductive RefError where
  | notSchemaRef
  | badName (name : String)
deriving DecidableEq, Repr

/-- The text of an error. -/
def RefError.message : RefError → String
  | .notSchemaRef => "only `#/components/schemas/<Name>` references are supported"
  | .badName name => "invalid schema name `" ++ name ++ "`"

namespace SchemaRef

/-- Reads a pointer with the given start. -/
def parseAfter (start text : String) : Except RefError SchemaRef :=
  match afterStart? start.toList text.toList with
  | none => .error .notSchemaRef
  | some rest =>
    if h : isSchemaName (String.ofList rest) = true then .ok ⟨String.ofList rest, h⟩
    else .error (.badName (String.ofList rest))

/-- Reads a pointer to a named schema. -/
def parse (text : String) : Except RefError SchemaRef :=
  parseAfter schemasPointer text

/-- Reads a pointer to a definition. -/
def parseDefinition (text : String) : Except RefError SchemaRef :=
  parseAfter definitionsPointer text

/-- The pointer to the schema of this name. -/
def pointer (ref : SchemaRef) : String :=
  schemasPointer ++ ref.name

/-- The pointer to the definition of this name. -/
def definitionPointer (ref : SchemaRef) : String :=
  definitionsPointer ++ ref.name

/-- Two references to one name are the same. -/
theorem ext {a b : SchemaRef} (h : a.name = b.name) : a = b := by
  cases a; cases b; cases h; rfl

/-- A text reads as a reference exactly if it is written as the start and the name. -/
theorem parseAfter_eq_ok {start text : String} {ref : SchemaRef} :
    parseAfter start text = .ok ref ↔ text = start ++ ref.name := by
  unfold parseAfter
  constructor
  · intro h
    split at h
    · cases h
    · rename_i rest hrest
      split at h
      · cases h
        rw [afterStart?_eq_some] at hrest
        apply String.toList_injective
        simp [hrest]
      · cases h
  · rintro rfl
    have : afterStart? start.toList (start ++ ref.name).toList = some ref.name.toList := by
      rw [afterStart?_eq_some]; simp
    rw [this]
    simp only [String.ofList_toList]
    rw [dif_pos ref.valid]

theorem parse_eq_ok {text : String} {ref : SchemaRef} :
    parse text = .ok ref ↔ text = ref.pointer :=
  parseAfter_eq_ok

theorem parseDefinition_eq_ok {text : String} {ref : SchemaRef} :
    parseDefinition text = .ok ref ↔ text = ref.definitionPointer :=
  parseAfter_eq_ok

/-- A pointer reads back as its reference. -/
theorem parse_pointer (ref : SchemaRef) : parse ref.pointer = .ok ref :=
  parse_eq_ok.2 rfl

end SchemaRef

end SchemaBundle
