import SchemaBundle.Naming.Pascal
import SchemaBundle.Text.Identifier

/-!
# Names of types

The name of a schema or an API as a name in a program: its words in Pascal case, with an
underscore before a character that no identifier starts with.
-/

namespace SchemaBundle

/-- The characters that an identifier starts with. -/
def startsIdentifier (c : Char) : Bool :=
  c == '$' || c == '_' || Text.isIdentifierStart c

/-- The characters that an identifier goes on with. -/
def continuesIdentifier (c : Char) : Bool :=
  c == '$' || Text.isIdentifierContinue c

/-- Whether characters form an identifier. -/
def isIdentifierChars : List Char → Bool
  | [] => false
  | c :: rest => startsIdentifier c && rest.all continuesIdentifier

/-- Whether a text is an identifier. -/
def isIdentifier (text : String) : Bool :=
  isIdentifierChars text.toList

/-- The name with an underscore before it, unless it starts like an identifier. -/
def asTypeName : List Char → List Char
  | [] => ['_']
  | c :: rest => if startsIdentifier c then c :: rest else '_' :: c :: rest

/-- The name of the type of a schema or an API. -/
def typeName (name : String) : String :=
  String.ofList (asTypeName (Naming.pascal name.toList))

end SchemaBundle
