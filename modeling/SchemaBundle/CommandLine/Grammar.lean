/-!
# Commands and their parameters

What can be given to the program and to each of its commands, and the help that tells so.
-/

namespace SchemaBundle.CommandLine

/-- Something that can be given to a command. -/
structure Parameter where
  name : String
  /-- The letter that stands for the name. -/
  letter : Option Char := none
  /-- What the value is called, if there is one. -/
  value : Option String := none
  /-- Whether the value is told by its position and not by the name. -/
  positional : Bool := false
  /-- Whether the value is a path, which is never empty. -/
  isPath : Bool := false
  required : Bool := false
  help : String
deriving DecidableEq, Repr

/-- A command: its name, what it is for, and what can be given to it. -/
structure Grammar where
  name : String
  about : String
  /-- How the command is called. -/
  usage : String
  parameters : List Parameter
  /-- The commands inside, by name and in order. -/
  commands : List (String × String) := []
deriving DecidableEq, Repr

namespace Parameter

/-- A parameter in a message. -/
def text (parameter : Parameter) : String :=
  if parameter.positional then "<" ++ parameter.name ++ ">"
  else
    match parameter.value with
    | some value => "--" ++ parameter.name ++ " <" ++ value ++ ">"
    | none => "--" ++ parameter.name

/-- A parameter in the help. -/
def synopsis (parameter : Parameter) : String :=
  if parameter.positional then parameter.text
  else
    match parameter.letter with
    | some letter => "-" ++ letter.toString ++ ", " ++ parameter.text
    | none => "    " ++ parameter.text

end Parameter

/-! ## The program -/

/-- The name of the program. -/
def program : String := "refpack"

/-- The version of the program. -/
def version : String := "0.1.0"

/-- What the program is for. -/
def about : String :=
  "Bundles OpenAPI documents against shared schema definitions, and generates JSON Schema and " ++
    "TypeScript artifacts"

/-- Asks for more messages; every command takes it. -/
def verboseParameter : Parameter where
  name := "verbose"
  letter := some 'v'
  help := "Enable verbose logging"

/-- Asks for help; every command takes it. -/
def helpParameter : Parameter where
  name := "help"
  letter := some 'h'
  help := "Print help"

/-- Asks for the version. -/
def versionParameter : Parameter where
  name := "version"
  letter := some 'V'
  help := "Print version"

/-- Makes references to undefined schemas failures. -/
def strictParameter : Parameter where
  name := "strict"
  help := "Fail on references to undefined schemas"

/-! ## Commands -/

/-- The file that a configuration is read from unless another is given. -/
def defaultConfig : String := "refpack.toml"

/-- The command that builds what a configuration says. -/
def build : Grammar where
  name := "build"
  about := "Bundle every API in a configuration file, and generate JSON Schema documents and " ++
    "TypeScript types for them"
  usage := "refpack build [OPTIONS]"
  parameters :=
    [{ name := "config", letter := some 'c', value := some "CONFIG", isPath := true
       help := "The build configuration file [default: refpack.toml]" },
     verboseParameter, strictParameter,
     { name := "output", letter := some 'o', value := some "OUTPUT", isPath := true
       help := "The output directory. Overrides the configuration file" },
     helpParameter]

/-- The command that shows the schemas that a document needs. -/
def resolve : Grammar where
  name := "resolve"
  about := "Print the shared schemas that an API document needs, as YAML"
  usage := "refpack resolve [OPTIONS] <SHARED> <INPUT>"
  parameters :=
    [{ name := "SHARED", positional := true, isPath := true, required := true
       help := "The shared definitions document" },
     { name := "INPUT", positional := true, isPath := true, required := true
       help := "The API document" },
     strictParameter, verboseParameter, helpParameter]

/-- The command that makes a schema document of the schemas in a document. -/
def schema : Grammar where
  name := "schema"
  about := "Extract the schemas of an OpenAPI document into a JSON Schema document"
  usage := "refpack schema [OPTIONS] --id <ID> <INPUT>"
  parameters :=
    [{ name := "INPUT", positional := true, isPath := true, required := true
       help := "The OpenAPI document (`.yaml` or `.json`)" },
     { name := "id", value := some "ID", required := true
       help := "The `$id` of the JSON Schema document" },
     verboseParameter,
     { name := "output", letter := some 'o', value := some "OUTPUT", isPath := true
       help := "The output file. Prints to standard output if not set" },
     helpParameter]

/-- The command that shows help. It takes the names of commands. -/
def help : Grammar where
  name := "help"
  about := "Print this message or the help of the given subcommand(s)"
  usage := "refpack help [COMMAND]..."
  parameters := []

/-- The commands. -/
def commands : List Grammar :=
  [build, resolve, schema, help]

/-- The command of a name. -/
def command? (name : String) : Option Grammar :=
  commands.find? (·.name == name)

/-- The program as a whole. -/
def root : Grammar where
  name := program
  about := about
  usage := "refpack [OPTIONS] <COMMAND>"
  parameters := [verboseParameter, helpParameter, versionParameter]
  commands := commands.map fun command => (command.name, command.about)

/-! ## Help -/

/-- Lines of two columns, the second of which starts two blanks after the longest first. -/
def columns (rows : List (String × String)) : String :=
  let width := (rows.map fun row => row.1.length).foldl max 0
  String.join <| rows.map fun (first, second) =>
    "  " ++ first ++ String.ofList (List.replicate (width - first.length + 2) ' ') ++ second ++ "\n"

/-- A section of the help; nothing if it is empty. -/
def helpSection (title : String) (rows : List (String × String)) : String :=
  if rows.isEmpty then "" else "\n" ++ title ++ ":\n" ++ columns rows

/-- The arguments in the help of the command for help. -/
def helpArguments : List (String × String) :=
  [("[COMMAND]...", "Print help for the subcommand(s)")]

/-- The help of a command. -/
def Grammar.helpText (grammar : Grammar) : String :=
  let rows (positional : Bool) : List (String × String) :=
    (grammar.parameters.filter (·.positional == positional)).map fun parameter =>
      (parameter.synopsis, parameter.help)
  let arguments := if grammar.name = help.name then helpArguments else rows true
  grammar.about ++ "\n\nUsage: " ++ grammar.usage ++ "\n" ++
    helpSection "Commands" grammar.commands ++ helpSection "Arguments" arguments ++
    helpSection "Options" (rows false)

end SchemaBundle.CommandLine
