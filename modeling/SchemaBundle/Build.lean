import SchemaBundle.Document.JsonSchema
import SchemaBundle.Index
import SchemaBundle.Naming.Normalized
import SchemaBundle.Site
import SchemaBundle.TypeScript.Printer
import SchemaBundle.Yaml.Reader

/-!
# Builds

A build reads the shared definitions once and then works on every API by itself: each worker
resolves the schemas that its document needs and writes three files named after the API. What
one worker does is no concern of the others. When all of them have succeeded, the index modules
are written and the site is staged, with whatever renders its page.
-/

namespace SchemaBundle

open Files (Script)
open Json (Value)

namespace Build

/-- What a build says of an API. -/
structure ApiReport where
  name : String
  /-- The number of schemas in the bundle. -/
  schemas : Nat
  /-- The names that the registry does not define. -/
  unresolved : List String
deriving DecidableEq, Repr

/-- What a successful build says: its APIs and its files, in order. -/
structure Report where
  apis : List ApiReport
  files : List Path
deriving DecidableEq, Repr

/-- An API that has been built. -/
structure BuiltApi where
  report : ApiReport
  yaml : String
  files : List Path
deriving DecidableEq, Repr

/-! ## One API -/

/-- The texts of the files of an API. -/
structure Artifacts where
  report : ApiReport
  yaml : String
  json : String
  types : String
deriving DecidableEq, Repr

/-- The schemas that a document needs; in strict builds all of them have to be defined. -/
def bundleOf (strict : Bool) (path : Path) (resolution : Resolution) : Except Failure Bundle :=
  if strict then resolution.strict.mapError (Failure.unresolvedDocument path)
  else .ok resolution.bundle

/-- What becomes of the text of an API document. -/
def artifacts (config : Config) (registry : Registry) (api : Config.Api) (name source : String) :
    Except Failure Artifacts := do
  let resolution := registry.resolve source
  let bundle ← bundleOf config.strict api.path resolution
  let document ← (Yaml.parse source).mapError (Failure.badDocument api.path)
  let schemes := if api.securitySchemes then registry.securitySchemes else none
  let bundled ←
    (Document.bundled document bundle schemes).mapError (Failure.unbundledDocument api.path)
  let schema := JsonSchema.ofBundle name bundle
  let types ←
    (TypeScript.emit schema.definitions name config.strict).mapError (Failure.untypedApi api.name)
  return { report := ⟨name, bundle.size, resolution.unresolved⟩
           yaml := Yaml.write bundled, json := schema.text, types }

/-- Builds an API. -/
def buildApi (config : Config) (registry : Registry) (api : Config.Api) (name : String) :
    Task BuiltApi := do
  let source ← Task.readText api.path
  let artifacts ← Task.orFail id (artifacts config registry api name source)
  let yaml ← Task.saveText config.output (name ++ ".yaml") artifacts.yaml
  let json ← Task.saveText config.output (name ++ ".json") artifacts.json
  let types ← Task.saveText config.output (name ++ ".d.ts") artifacts.types
  return ⟨artifacts.report, artifacts.yaml, [yaml, json, types]⟩

/-! ## All APIs -/

/-- The names that the files of the APIs have. -/
def names (config : Config) : List String :=
  config.apis.map fun api => normalizedName api.name

/-- The first name that has come before. -/
def firstRepeated? (seen : List String) : List String → Option String
  | [] => none
  | name :: rest => if name ∈ seen then some name else firstRepeated? (name :: seen) rest

/-- Two APIs must not have one name. -/
def checkNames (config : Config) : Except Failure Unit :=
  match firstRepeated? [] (names config) with
  | none => .ok ()
  | some name =>
    let apis := config.apis.filter fun api => normalizedName api.name = name
    .error (.sharedName (apis.map (·.name)) name)

/-- Reads the shared definitions. -/
def readRegistry (path : Path) : Task Registry := do
  let source ← Task.readText path
  Task.orFail (Failure.badDefinitions path) (Registry.ofYaml source)

/-- The work on each API. -/
def workers (config : Config) (registry : Registry) : List (Script (Except Failure BuiltApi)) :=
  config.apis.map fun api => (buildApi config registry api (normalizedName api.name)).run

/-- The APIs that were built. -/
def built (results : List (Except Failure BuiltApi)) : List BuiltApi :=
  results.filterMap Except.toOption

/-- The APIs, if all of them were built; otherwise only their numbers count. -/
def collect (results : List (Except Failure BuiltApi)) : Except Failure (List BuiltApi) :=
  let failed := results.length - (built results).length
  if failed = 0 then .ok (built results) else .error (.failedApis failed results.length)

/-! ## Builds -/

/-- Writes what covers all APIs, and gives the files in order. -/
def finish (render : Site.Renderer) (config : Config) (apis : List BuiltApi) : Task Report := do
  let types ← Task.saveText config.output Index.typesPath (Index.types (names config))
  let schemas ← Task.saveText config.output Index.schemasPath (Index.schemas (names config))
  let staged ←
    match config.site with
    | none => pure []
    | some site => Site.stage render site (apis.map fun api => ⟨api.report.name, api.yaml⟩)
  return ⟨apis.map (·.report), apis.flatMap (·.files) ++ types :: schemas :: staged⟩

/-- Runs a build whose page is rendered in the given way. -/
def runWith (render : Site.Renderer) (config : Config) : Task Report := do
  Task.orFail id (checkNames config)
  let registry ← readRegistry config.definitions
  let results ← ExceptT.lift (Script.all (workers config registry))
  finish render config (← Task.orFail id (collect results))

end Build

end SchemaBundle
