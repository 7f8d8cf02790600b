/-!
# Names of files

The name of an API as it stands in file names and index modules.
-/

namespace SchemaBundle

/-- The marks that may separate the words of a name. -/
def isSeparator (c : Char) : Bool :=
  c == '-' || c == '.'

/-- The name with the first run of separators replaced by an underscore. -/
def normalizedChars (name : List Char) : List Char :=
  match name.dropWhile (!isSeparator ·) with
  | [] => name
  | rest => name.takeWhile (!isSeparator ·) ++ '_' :: rest.dropWhile isSeparator

/-- The name with the first run of hyphens and dots replaced by an underscore. -/
def normalizedName (name : String) : String :=
  String.ofList (normalizedChars name.toList)

end SchemaBundle
