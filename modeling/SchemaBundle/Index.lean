import SchemaBundle.TypeScript.Printer

/-!
# Index modules

The modules that give out the types and the schema documents of all APIs, each under the
normalized name of its API.
-/

namespace SchemaBundle.Index

/-- The name of the module that gives out types. -/
def typesPath : String := "index.d.ts"

/-- The name of the module that gives out schema documents. -/
def schemasPath : String := "index.js"

/-- The import of the types of an API. -/
def typesImport (name : String) : String :=
  let source := String.ofList (TypeScript.quoteChars ("./" ++ name ++ ".d.ts"))
  "import * as " ++ name ++ " from " ++ source ++ ";\n"

/-- The export of names. -/
def typesExport (names : List String) : String :=
  if names.isEmpty then "export \x7b \x7d;\n"
  else "export \x7b " ++ ", ".intercalate names ++ " \x7d;\n"

/-- The module that gives out types. -/
def types (names : List String) : String :=
  String.join (names.map typesImport) ++ typesExport names

/-- The import of the schema document of an API. -/
def schemasImport (name : String) : String :=
  "const " ++ name ++ " = require('./" ++ name ++ ".json');\n"

/-- The module that gives out schema documents. -/
def schemas (names : List String) : String :=
  String.join (names.map schemasImport) ++
    "module.exports = \x7b " ++ ", ".intercalate names ++ " \x7d;\n"

end SchemaBundle.Index
