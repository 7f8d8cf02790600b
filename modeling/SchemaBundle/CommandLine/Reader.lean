import SchemaBundle.CommandLine.Grammar
import SchemaBundle.Dict
import SchemaBundle.Files.Path

/-!
# Reading the command line

Arguments are read one after another. A parameter that takes a value keeps it pending: whether
it is acceptable is looked at when the next parameter is met, or at the end. After a lone pair
of dashes every argument stands for itself.
-/

namespace SchemaBundle.CommandLine

/-! ## Results -/

/-- What the program is to do. -/
inductive Command where
  | build (config : Path) (strict : Bool) (output : Option Path)
  | resolve (shared input : Path) (strict : Bool)
  | schema (input : Path) (id : String) (output : Option Path)
deriving DecidableEq, Repr

/-- Why arguments make no command. -/
inductive Misuse where
  | noArguments
  | noCommand
  | unknownCommand (name : String)
  | unexpectedArgument (text : String)
  | unexpectedValue (value : String) (parameter : Parameter)
  | missingValue (parameter : Parameter)
  | repeated (parameter : Parameter)
  | missingArguments
deriving DecidableEq, Repr

/-- A text between apostrophes. -/
def apostrophed (text : String) : String :=
  "'" ++ text ++ "'"

/-- The first line that a misuse is answered with. -/
def Misuse.text : Misuse → String
  | noArguments => about
  | noCommand =>
    "error: " ++ apostrophed program ++ " requires a subcommand but one was not provided"
  | unknownCommand name => "error: unrecognized subcommand " ++ apostrophed name
  | unexpectedArgument text => "error: unexpected argument " ++ apostrophed text ++ " found"
  | unexpectedValue value parameter =>
    "error: unexpected value " ++ apostrophed value ++ " for " ++ apostrophed parameter.text ++
      " found; no more were expected"
  | missingValue parameter =>
    "error: a value is required for " ++ apostrophed parameter.text ++ " but none was supplied"
  | repeated parameter =>
    "error: the argument " ++ apostrophed parameter.text ++ " cannot be used multiple times"
  | missingArguments => "error: the following required arguments were not provided:"

/-- Why reading ends without a command: a text to show was asked for, or there is a misuse. -/
inductive Stop where
  | shown (text : String)
  | misused (misuse : Misuse)
deriving DecidableEq, Repr

/-! ## Parameters -/

/-- What has been given to a command so far. -/
structure Given where
  /-- The parameters with their values; those without one have an empty value. -/
  values : Entries String := []
  /-- The parameter whose value is not settled, with the value if it is known. -/
  pending : Option (Parameter × Option String) := none

namespace Given

/-- Whether a parameter was given. -/
def has (given : Given) (name : String) : Bool :=
  (Entries.find? name given.values).isSome

/-- Adds a parameter, which must not be there yet. -/
def add (given : Given) (parameter : Parameter) (value : String) : Except Stop Given :=
  if given.has parameter.name then .error (.misused (.repeated parameter))
  else if parameter.isPath ∧ value.isEmpty then .error (.misused (.missingValue parameter))
  else .ok { given with values := given.values ++ [(parameter.name, value)] }

/-- Settles the parameter that is pending. -/
def settle (given : Given) : Except Stop Given :=
  match given.pending with
  | none => .ok given
  | some (parameter, none) => .error (.misused (.missingValue parameter))
  | some (parameter, some value) => { given with pending := none }.add parameter value

/-- Makes a parameter pending. -/
def await (given : Given) (parameter : Parameter) (value : Option String) : Except Stop Given :=
  given.settle.map fun given => { given with pending := some (parameter, value) }

/-- Gives a parameter its value at once. -/
def attach (given : Given) (parameter : Parameter) (value : String) : Except Stop Given :=
  given.settle.bind (·.add parameter value)

end Given

namespace Grammar

/-- The parameter of a name. -/
def named? (grammar : Grammar) (name : String) : Option Parameter :=
  grammar.parameters.find? fun parameter => !parameter.positional && parameter.name == name

/-- The parameter of a letter. -/
def lettered? (grammar : Grammar) (letter : Char) : Option Parameter :=
  grammar.parameters.find? fun parameter => parameter.letter == some letter

/-- Gives a parameter without a value, unless it asks for a text. -/
def raise (grammar : Grammar) (given : Given) (parameter : Parameter) : Except Stop Given :=
  given.settle.bind fun given =>
    if parameter = helpParameter then .error (.shown grammar.helpText)
    else if parameter = versionParameter then .error (.shown (program ++ " " ++ version ++ "\n"))
    else given.add parameter ""

/-- Reads a name and perhaps a value after two dashes. -/
def long (grammar : Grammar) (given : Given) (text : List Char) : Except Stop Given :=
  let name := String.ofList (text.takeWhile (· ≠ '='))
  let value : Option String :=
    match text.dropWhile (· ≠ '=') with
    | [] => none
    | _ :: rest => some (String.ofList rest)
  match grammar.named? name with
  | none => .error (.misused (.unexpectedArgument ("--" ++ name)))
  | some parameter =>
    match parameter.value, value with
    | some _, some value => given.attach parameter value
    | some _, none => given.await parameter none
    | none, some value => .error (.misused (.unexpectedValue value parameter))
    | none, none => grammar.raise given parameter

/-- A value that follows a letter directly, or after an equals sign. -/
def attachedValue? : List Char → Option String
  | [] => none
  | '=' :: rest => some (String.ofList rest)
  | rest => some (String.ofList rest)

/-- Reads letters after a dash. -/
def letters (grammar : Grammar) (given : Given) : List Char → Except Stop Given
  | [] => .ok given
  | letter :: rest =>
    match grammar.lettered? letter with
    | none => .error (.misused (.unexpectedArgument ("-" ++ letter.toString)))
    | some parameter =>
      if parameter.value.isSome then
        match attachedValue? rest with
        | some value => given.attach parameter value
        | none => given.await parameter none
      else (grammar.raise given parameter).bind fun given => grammar.letters given rest

/-- The parameters told by their positions. -/
def positional (grammar : Grammar) : List Parameter :=
  grammar.parameters.filter (·.positional)

/-- The misuse of an argument that nothing is expected for. -/
def unexpected (grammar : Grammar) (escaped : Bool) (text : String) : Misuse :=
  if grammar.commands.isEmpty ∨ (escaped ∧ (Entries.find? text grammar.commands).isSome) then
    .unexpectedArgument text
  else .unknownCommand text

/-- Reads an argument that stands for itself. -/
def place (grammar : Grammar) (escaped : Bool) (count : Nat) (given : Given) (text : String) :
    Except Stop Given :=
  match grammar.positional[count]? with
  | some parameter => given.await parameter (some text)
  | none => .error (.misused (grammar.unexpected escaped text))

/-- Whether a value is still to come. -/
def awaits (given : Given) : Option Parameter :=
  match given.pending with
  | some (parameter, none) => some parameter
  | _ => none

/--
Reads arguments up to a command inside, or to the end. `count` is the number of arguments so far
that stand for themselves, and `escaped` tells whether all from here on do.
-/
def read (grammar : Grammar) (escaped : Bool) (count : Nat) (given : Given) :
    List String → Except Stop (Given × Option (String × List String))
  | [] => given.settle.map fun given => (given, none)
  | text :: rest =>
    if escaped then
      (grammar.place escaped count given text).bind fun given =>
        grammar.read true (count + 1) given rest
    else if (awaits given).isNone ∧ (Entries.find? text grammar.commands).isSome then
      given.settle.map fun given => (given, some (text, rest))
    else
      match text.toList with
      | ['-', '-'] => grammar.read true count given rest
      | '-' :: '-' :: name => (grammar.long given name).bind fun given =>
        grammar.read false count given rest
      | '-' :: c :: letters => (grammar.letters given (c :: letters)).bind fun given =>
        grammar.read false count given rest
      | _ =>
        match awaits given with
        | some parameter =>
          grammar.read false count { given with pending := some (parameter, some text) } rest
        | none =>
          (grammar.place false count given text).bind fun given =>
            grammar.read false (count + 1) given rest

/-- Reads the arguments of a command, of which the required ones have to be there. -/
def readAll (grammar : Grammar) (arguments : List String) : Except Stop Given :=
  (grammar.read false 0 {} arguments).bind fun (given, _) =>
    if grammar.parameters.all fun parameter => !parameter.required || given.has parameter.name then
      .ok given
    else .error (.misused .missingArguments)

end Grammar

/-! ## Commands -/

namespace Given

/-- The value of a parameter, or an empty one. -/
def text (given : Given) (name : String) : String :=
  (Entries.find? name given.values).getD ""

/-- The path that a parameter is. -/
def path (given : Given) (name : String) : Path :=
  ⟨given.text name⟩

/-- The path that a parameter is, if it was given. -/
def path? (given : Given) (name : String) : Option Path :=
  (Entries.find? name given.values).map Path.mk

end Given

/-- Shows the help of a command inside of others. -/
def showHelp : List String → Stop
  | [] => .shown root.helpText
  | [name] =>
    match command? name with
    | some command => .shown command.helpText
    | none => .misused (.unknownCommand name)
  | name :: next :: _ =>
    match command? name with
    | some _ => .misused (.unknownCommand next)
    | none => .misused (.unknownCommand name)

/-- The command of a name with its arguments. -/
def readCommand (name : String) (arguments : List String) : Except Stop Command :=
  match name with
  | "build" =>
    (build.readAll arguments).map fun given =>
      .build ((given.path? "config").getD ⟨defaultConfig⟩) (given.has "strict")
        (given.path? "output")
  | "resolve" =>
    (resolve.readAll arguments).map fun given =>
      .resolve (given.path "SHARED") (given.path "INPUT") (given.has "strict")
  | "schema" =>
    (schema.readAll arguments).map fun given =>
      .schema (given.path "INPUT") (given.text "id") (given.path? "output")
  | _ => .error (showHelp arguments)

/-- The command that the arguments of the program make. -/
def parse (arguments : List String) : Except Stop Command :=
  (root.read false 0 {} arguments).bind fun (given, command) =>
    match command with
    | some (name, rest) => readCommand name rest
    | none =>
      .error (.misused (if given.values.isEmpty then .noArguments else .noCommand))

end SchemaBundle.CommandLine
