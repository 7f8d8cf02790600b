import SchemaBundle.Config.Basic
import SchemaBundle.Decimal.Shortest
import SchemaBundle.Text.Quoted
import SchemaBundle.Toml.Reader

/-!
# Reading configurations

A configuration is a table of TOML. Its entries are read in the order of the document, and the
first that is unknown or of a wrong type ends the reading; only then a missing entry counts. A
table inside may also be an array of its values, in the order of its fields.
-/

namespace SchemaBundle.Config

open Text (ticked)
open Toml (Value)

/-! ## Errors -/

/-- Why a text holds no configuration. -/
inductive ReadError where
  | malformed
  | missingField (name : String)
  | unknownField (name : String) (known : List String)
  | badType (found expected : String)
  | badLength (length : Nat) (expected : String)
  | integerTooLarge
  | floatTooLarge
deriving DecidableEq, Repr

/-- The text of an error; a text that is not well formed has none. -/
def ReadError.message? : ReadError → Option String
  | .malformed => none
  | .missingField name => some ("missing field " ++ ticked name)
  | .unknownField name known =>
    some ("unknown field " ++ ticked name ++ ", expected one of " ++
      ", ".intercalate (known.map ticked))
  | .badType found expected => some ("invalid type: " ++ found ++ ", expected " ++ expected)
  | .badLength length expected =>
    some ("invalid length " ++ toString length ++ ", expected " ++ expected)
  | .integerTooLarge => some "integer number overflowed"
  | .floatTooLarge => some "floating-point number overflowed"

/-! ## Values -/

/-- All digits of a number are written out. -/
def floatStyle : Decimal.FloatStyle :=
  ⟨-400, 400, "", ""⟩

/-- The text of a number with a point. -/
def realText : Toml.Real → Except ReadError String
  | .finite value => .ok (floatStyle.text value)
  | .infinite negative => .ok (if negative then "-inf" else "inf")
  | .notANumber => .ok "NaN"
  | .tooLarge => .error .floatTooLarge

/-- What a message says of a whole number: those of more than 64 bits are told apart. -/
def integerText (value : Int) : Except ReadError String :=
  if Decimal.fitsSigned 64 value ∨ Decimal.fitsUnsigned 64 value then
    .ok ("integer " ++ ticked (toString value))
  else if Decimal.fitsSigned 128 value then
    .ok ("integer " ++ ticked (toString value) ++ " as i128")
  else if Decimal.fitsUnsigned 128 value then
    .ok ("integer " ++ ticked (toString value) ++ " as u128")
  else .error .integerTooLarge

/-- What a message says of a value. -/
def foundText : Value → Except ReadError String
  | .string text => .ok ("string " ++ Text.quoted text)
  | .integer value => integerText value
  | .float value => (realText value).map fun text => "floating point " ++ ticked text
  | .boolean value => .ok ("boolean " ++ ticked (toString value))
  | .array _ => .ok "sequence"
  | .table _ | .datetime => .ok "map"

/-- The failure of a value that is of another type. -/
def mismatch (α : Type) (expected : String) (value : Value) : Except ReadError α :=
  (foundText value).bind fun found => .error (.badType found expected)

/-- Reads a text. -/
def readText : Value → Except ReadError String
  | .string text => .ok text
  | value => mismatch String "a string" value

/-- Reads a path. -/
def readPath : Value → Except ReadError Path
  | .string text => .ok ⟨text⟩
  | value => mismatch Path "path string" value

/-- Reads a truth value. -/
def readFlag : Value → Except ReadError Bool
  | .boolean value => .ok value
  | value => mismatch Bool "a boolean" value

/-- Reads items in order. -/
def readItems (read : Value → Except ReadError α) : Value → Except ReadError (List α)
  | .array items => items.mapM read
  | value => mismatch (List α) "a sequence" value

/-! ## Records -/

/-- How a record is read: its draft is filled field by field, and then completed. -/
structure Record (draft α : Type) where
  /-- What a message calls the record. -/
  name : String
  fields : List String
  blank : draft
  /-- Reads the value of a field; nothing for an unknown field. -/
  set : draft → String → Option (Value → Except ReadError draft)
  /-- Completes a draft, with the failure of a field that is missing. -/
  complete : (String → ReadError) → draft → Except ReadError α

namespace Record

variable {draft α : Type}

/-- Reads an entry. -/
def entry (record : Record draft α) (filled : draft) (field : String × Value) :
    Except ReadError draft :=
  match record.set filled field.1 with
  | some read => read field.2
  | none => .error (.unknownField field.1 record.fields)

/-- Reads the entries of a table. -/
def ofEntries (record : Record draft α) (entries : List (String × Value)) :
    Except ReadError α :=
  (entries.foldlM record.entry record.blank).bind (record.complete .missingField)

/-- The failure of a field that an array is too short for. -/
def tooShort (record : Record draft α) (field : String) : ReadError :=
  .badLength (record.fields.idxOf field)
    (record.name ++ " with " ++ toString record.fields.length ++ " elements")

/-- The field that stands for a date where a table is read. -/
def dateField : String := "$__toml_private_datetime"

/-- Reads a record. -/
def read (record : Record draft α) : Value → Except ReadError α
  | .table entries => record.ofEntries entries
  | .array items =>
    ((record.fields.zip items).foldlM record.entry record.blank).bind
      (record.complete record.tooShort)
  | .datetime => .error (.unknownField dateField record.fields)
  | value => mismatch α record.name value

end Record

/-- The value of a field that has to be there. -/
def required (missing : String → ReadError) (field : String) : Option α → Except ReadError α
  | some value => .ok value
  | none => .error (missing field)

/-! ## APIs -/

/-- The fields of an API read so far. -/
structure ApiDraft where
  name : Option String := none
  path : Option Path := none
  securitySchemes : Bool := true

/-- The table of an API. -/
def apiRecord : Record ApiDraft Api where
  name := "struct ApiConfig"
  fields := ["name", "path", "security-schemes"]
  blank := {}
  set := fun draft field =>
    match field with
    | "name" => some fun value => (readText value).map fun name => { draft with name }
    | "path" => some fun value => (readPath value).map fun path => { draft with path }
    | "security-schemes" =>
      some fun value => (readFlag value).map fun flag => { draft with securitySchemes := flag }
    | _ => none
  complete := fun missing draft => do
    let name ← required missing "name" draft.name
    let path ← required missing "path" draft.path
    return { name, path, securitySchemes := draft.securitySchemes }

/-! ## Sites -/

/-- The fields of a site read so far. -/
structure SiteDraft where
  output : Option Path := none
  staticFiles : Option Path := none
  template : Option Path := none
  projectFiles : Option Path := none

/-- The table of a site. -/
def siteRecord : Record SiteDraft Site where
  name := "struct SiteConfig"
  fields := ["output", "static-dir", "template", "project-static-dir"]
  blank := {}
  set := fun draft field =>
    match field with
    | "output" => some fun value => (readPath value).map fun path => { draft with output := path }
    | "static-dir" =>
      some fun value => (readPath value).map fun path => { draft with staticFiles := path }
    | "template" =>
      some fun value => (readPath value).map fun path => { draft with template := path }
    | "project-static-dir" =>
      some fun value => (readPath value).map fun path => { draft with projectFiles := path }
    | _ => none
  complete := fun missing draft => do
    let output ← required missing "output" draft.output
    let template ← required missing "template" draft.template
    return { output, staticFiles := draft.staticFiles, template,
             projectFiles := draft.projectFiles }

/-! ## Configurations -/

/-- The fields of a configuration read so far. -/
structure Draft where
  definitions : Option Path := none
  output : Path := ⟨"dist"⟩
  strict : Bool := false
  apis : List Api := []
  site : Option Site := none

/-- The table of a configuration. -/
def record : Record Draft Config where
  name := "struct BuildConfig"
  fields := ["shared-definitions", "output", "strict", "api", "site"]
  blank := {}
  set := fun draft field =>
    match field with
    | "shared-definitions" =>
      some fun value => (readPath value).map fun path => { draft with definitions := path }
    | "output" => some fun value => (readPath value).map fun path => { draft with output := path }
    | "strict" => some fun value => (readFlag value).map fun strict => { draft with strict }
    | "api" =>
      some fun value => (readItems apiRecord.read value).map fun apis => { draft with apis }
    | "site" => some fun value => (siteRecord.read value).map fun site => { draft with site }
    | _ => none
  complete := fun missing draft => do
    let definitions ← required missing "shared-definitions" draft.definitions
    return { definitions, output := draft.output, strict := draft.strict, apis := draft.apis,
             site := draft.site }

/-- The configuration that a text in TOML holds. -/
def parse (text : String) : Except ReadError Config :=
  match Toml.parse? text with
  | none => .error .malformed
  | some entries => record.ofEntries entries

end SchemaBundle.Config
