import SchemaBundle.Json.Printer
import SchemaBundle.Naming.TypeName
import SchemaBundle.TypeScript.Emission

/-!
# Writing modules

Declarations and types as text, two blanks to a level. Unions, intersections and arrays are
written without parentheses of their own. A comment stands before what it belongs to, on the
same line.
-/

namespace SchemaBundle.TypeScript

/-! ## Texts -/

/-- The quotation mark around a text: the single one only if that leaves fewer to escape. -/
def quotationMark (text : List Char) : Char :=
  if text.count '\'' < text.count '"' then '\'' else '"'

/-- A hexadecimal digit, in small letters. -/
def hexDigit (n : Nat) : Char :=
  Nat.digitChar n

/-- A character as it stands between quotation marks, before another. -/
def escapeChar (mark c : Char) (next : Option Char) : List Char :=
  let n := c.toNat
  if n = 0x00 then
    if next.any Char.isDigit then ['\\', 'x', '0', '0'] else ['\\', '0']
  else if n = 0x08 then ['\\', 'b']
  else if n = 0x0C then ['\\', 'f']
  else if n = 0x0A then ['\\', 'n']
  else if n = 0x0D then ['\\', 'r']
  else if n = 0x0B then ['\\', 'v']
  else if c = '\t' then ['\t']
  else if c = '\\' then ['\\', '\\']
  else if c = mark then ['\\', mark]
  else if n < 0x20 then ['\\', 'x', hexDigit (n / 16), hexDigit (n % 16)]
  else if n = 0x2028 then ['\\', 'u', '2', '0', '2', '8']
  else if n = 0x2029 then ['\\', 'u', '2', '0', '2', '9']
  else if n = 0xFEFF then ['\\', 'u', 'F', 'E', 'F', 'F']
  else [c]

/-- The characters of a text as they stand between quotation marks. -/
def escapeChars (mark : Char) : List Char → List Char
  | [] => []
  | c :: rest => escapeChar mark c rest.head? ++ escapeChars mark rest

/-- A text between quotation marks. -/
def quoteChars (text : String) : List Char :=
  let mark := quotationMark text.toList
  mark :: (escapeChars mark text.toList ++ [mark])

/-! ## Types -/

/-- The word of a keyword. -/
def Keyword.word : Keyword → String
  | .string => "string"
  | .number => "number"
  | .boolean => "boolean"
  | .null => "null"
  | .unknown => "unknown"
  | .never => "never"

/-- The indentation of a level. -/
def indentation (depth : Nat) : List Char :=
  List.replicate (2 * depth) ' '

/-- The comment of a mark, and the blank after it. -/
def commentChars (comments : Comments) (mark : Nat) : List Char :=
  match comments.texts.lookup mark with
  | some text => "/*".toList ++ text.toList ++ "*/ ".toList
  | none => []

/-- The name of a property; quoted unless it is an identifier. -/
def propertyName (name : String) : List Char :=
  if isIdentifier name then name.toList else quoteChars name

mutual

/-- The text of a type at a depth of nesting. -/
def typeChars (comments : Comments) (depth : Nat) : Ty → List Char
  | .keyword keyword => keyword.word.toList
  | .text value => quoteChars value
  | .number value => value.text.toList
  | .bool value => (if value then "true" else "false").toList
  | .named name => name.toList
  | .record values => "Record<string, ".toList ++ typeChars comments depth values ++ ['>']
  | .array element => typeChars comments depth element ++ ['[', ']']
  | .parenthesized inner => '(' :: (typeChars comments depth inner ++ [')'])
  | .union members => joinedChars comments depth " | ".toList members
  | .intersection members => joinedChars comments depth " & ".toList members
  | .object members =>
    '\x7b' :: '\n' ::
      (memberChars comments (depth + 1) members ++ (indentation depth ++ ['\x7d']))

/-- The texts of types with a separator between them. -/
def joinedChars (comments : Comments) (depth : Nat) (separator : List Char) :
    List Ty → List Char
  | [] => []
  | [type] => typeChars comments depth type
  | type :: rest =>
    typeChars comments depth type ++ (separator ++ joinedChars comments depth separator rest)

/-- The lines of members. -/
def memberChars (comments : Comments) (depth : Nat) : List Member → List Char
  | [] => []
  | .mk name optional type mark :: rest =>
    indentation depth ++ (commentChars comments mark ++ (propertyName name ++
      ((if optional then ['?'] else []) ++ (':' :: ' ' ::
        (typeChars comments depth type ++ (';' :: '\n' :: memberChars comments depth rest))))))

end

/-! ## Modules -/

/-- The text of a declaration. -/
def Declaration.chars (comments : Comments) (declaration : Declaration) : List Char :=
  let comment := (declaration.mark.map (commentChars comments)).getD []
  let name := declaration.name.toList
  comment ++
    match declaration.body with
    | .interface members =>
      "export interface ".toList ++ name ++ " \x7b\n".toList ++
        memberChars comments 1 members ++ "\x7d\n".toList
    | .alias type =>
      "export type ".toList ++ name ++ " = ".toList ++ typeChars comments 0 type ++
        ";\n".toList

/-- What every generated module starts with. -/
def header : String :=
  "/* eslint-disable */\n/**\n * This file was automatically generated by refpack.\n" ++
  " * DO NOT MODIFY IT BY HAND. Instead, modify the source OpenAPI documents,\n" ++
  " * and rerun the build to regenerate this file.\n */\n"

/-- The text of a module. -/
def Module.text (module : Module) : String :=
  header ++ String.ofList (module.declarations.flatMap (Declaration.chars module.comments))

/-- The text of the module of definitions. -/
def emit (definitions : Dict Json.Value) (root : String) (strict : Bool) :
    Except EmitError String :=
  (emitModule definitions root strict).map Module.text

end SchemaBundle.TypeScript
