import SchemaBundle.Build
import SchemaBundle.CommandLine.Reader
import SchemaBundle.Config.Reader
import SchemaBundle.Template.Page

/-!
# Running commands

What each command does with files, and how the program ends. This is where a build gets what renders
its page.
-/

namespace SchemaBundle

/-- Runs a build as the program does. -/
def Build.run (config : Config) : Task Build.Report :=
  Build.runWith Site.page? config

namespace CommandLine

open Files (FileError Script)

/-- Why a configuration could not be used. -/
inductive ConfigError where
  | missing (path : Path)
  | unread (path : Path) (error : FileError)
  | unusable (path : Path) (error : Config.ReadError)

/-- What a configuration that cannot be used is answered with. Where it is read but wrong, its error
stands on a line of its own; the place of the error and the lines around it are left out. -/
def ConfigError.text : ConfigError → String
  | missing path =>
    "error: " ++ Text.ticked path.text ++
      " doesn't exist; please specify a configuration file with `--config`"
  | unread path error =>
    "error: Failed to read " ++ Text.ticked path.text ++ ": " ++ error.message
  | unusable path error =>
    "error: Failed to parse " ++ Text.ticked path.text ++
      (error.message?.map fun message => "\n" ++ message).getD ""

/-- How the program ends. -/
inductive Outcome where
  | finished (output : String)
  /-- There was some output before the failure. -/
  | failed (output : String) (failure : Failure)
  /-- The program was called in a wrong way, and answers with this text. -/
  | misused (text : String)

namespace Outcome

/-- The number that the program ends with. -/
def status : Outcome → Nat
  | finished _ => 0
  | failed _ _ => 1
  | misused _ => 2

/-- What the program writes. -/
def output : Outcome → String
  | finished output => output
  | failed output _ => output
  | misused _ => ""

/-- The outcome of a task whose result has a text. -/
def ofResult (render : α → String) : Except Failure α → Outcome
  | .ok result => finished (render result)
  | .error failure => failed "" failure

/-- An outcome with output before its own. -/
def after (before : String) : Outcome → Outcome
  | finished output => finished (before ++ output)
  | failed output failure => failed (before ++ output) failure
  | misused text => misused text

end Outcome

/-! ## Building -/

/-- Reads a configuration; its paths are seen from the directory that it is in. -/
def readConfig (path : Path) : Script (Except ConfigError Config) :=
  (Files.readText path).bind fun answer =>
    .done <|
      match answer with
      | .error .notFound => .error (.missing path)
      | .error error => .error (.unread path error)
      | .ok text =>
        match Config.parse text with
        | .error error => .error (.unusable path error)
        | .ok config => .ok ((path.parent?.map fun base => config.within base).getD config)

/-- A configuration as the command line changes it. -/
def override (strict : Bool) (output : Option Path) (config : Config) : Config :=
  { config with strict := config.strict || strict, output := output.getD config.output }

/-- The lines that an API is reported with. -/
def apiLines (api : Build.ApiReport) : String :=
  api.name ++ ": " ++ toString api.schemas ++ " schemas\n" ++
    if api.unresolved.isEmpty then ""
    else
      api.name ++ ": skipped references to undefined schemas: " ++
        ", ".intercalate api.unresolved ++ "\n"

/-- The lines that a build is reported with. -/
def reportLines (config : Config) (report : Build.Report) : String :=
  String.join (report.apis.map apiLines) ++ "Wrote " ++ toString report.files.length ++
    " files to " ++ Text.ticked config.output.text ++ "\n"

/-- Builds what a configuration says. -/
def runBuild (config : Config) : Script Outcome :=
  (Build.run config).run.bind fun result =>
    .done <|
      (Outcome.ofResult (reportLines config) result).after
        ("Building " ++ toString config.apis.length ++ " APIs...\n")

/-! ## Resolving -/

/-- The schemas that a document needs. -/
def resolveDocument (shared input : Path) (strict : Bool) : Task Bundle := do
  let registry ← Build.readRegistry shared
  let resolution := registry.resolve (← Task.readText input)
  if strict then Task.orFail Failure.unresolved resolution.strict else return resolution.bundle

/-! ## Extracting -/

/-- The schema document of the schemas in a document, as text. -/
def schemaText (input : Path) (id : String) : Task String := do
  let document ← Task.orFail (Failure.badDocument input) (Yaml.parse (← Task.readText input))
  let schema ← Task.orFail (Failure.noSchemas input) (JsonSchema.ofDocument id document)
  return schema.text ++ "\n"

/-- Writes a text to a file whose directory is there. -/
def writeText (path : Path) (text : String) : Task Unit :=
  ExceptT.mk <| .write path (.text text) fun answer =>
    .done (answer.mapError (Failure.unwrittenFile path))

/-- Extracts schemas; the text is the output unless a file is given for it. -/
def extract (input : Path) (id : String) (output : Option Path) : Task String := do
  let text ← schemaText input id
  match output with
  | none => return text
  | some path =>
    writeText path text
    return ""

/-! ## Programs -/

/-- Runs a command. -/
def Command.run : Command → Script Outcome
  | .build path strict output =>
    (readConfig path).bind fun result =>
      match result with
      | .error error => .done (.misused error.text)
      | .ok config => runBuild (override strict output config)
  | .resolve shared input strict =>
    (resolveDocument shared input strict).run.bind fun result =>
      .done (.ofResult (fun bundle => Yaml.write bundle.toValue) result)
  | .schema input id output =>
    (extract input id output).run.bind fun result => .done (.ofResult (fun text => text) result)

/-- Runs the program. -/
def run (arguments : List String) : Script Outcome :=
  match parse arguments with
  | .ok command => command.run
  | .error (.shown text) => .done (.finished text)
  | .error (.misused misuse) => .done (.misused misuse.text)

end CommandLine

end SchemaBundle
