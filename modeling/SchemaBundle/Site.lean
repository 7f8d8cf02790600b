import SchemaBundle.Config.Basic
import SchemaBundle.Copying

/-!
# Sites

A site shows the bundled documents of all APIs: static files, a page rendered from a template,
and a directory for each API with its document and with files that all of them share. What comes
later replaces what came before it.

What templates mean is not said here: a site is staged with whatever renders its page.
-/

namespace SchemaBundle

namespace Site

/-- The name of the page. -/
def pageName : String := "index.html"

/-- A bundled document to show: the name of its API and its text. -/
structure Document where
  name : String
  yaml : String
deriving DecidableEq, Repr

/-- What renders the page: it is given the text of the template and the names of the APIs, and gives
the text of the page, or nothing if the template cannot be rendered. -/
abbrev Renderer := String → List String → Option String

/-- Copies the files of a directory, if there is one. -/
def copyOptional (source : Option Path) (target : Path) : Task (List Path) :=
  match source with
  | none => return []
  | some source => copyTree source target

/-- Renders the page from its template. -/
def renderPage (render : Renderer) (template : Path) (names : List String) : Task String := do
  let text ← Task.readText template
  match render text names with
  | some html => return html
  | none => throw (.unrenderedTemplate template)

/-- Stages the directory of an API. -/
def stageDocument (site : Config.Site) (document : Document) : Task (List Path) := do
  let directory := site.output.join ⟨document.name⟩
  let copied ← copyOptional site.projectFiles directory
  let file ← Task.saveText directory (document.name ++ ".yaml") document.yaml
  return copied ++ [file]

/-- Stages a site, and gives the files that were written. -/
def stage (render : Renderer) (site : Config.Site) (documents : List Document) :
    Task (List Path) := do
  let copied ← copyOptional site.staticFiles site.output
  let html ← renderPage render site.template (documents.map (·.name))
  let page ← Task.saveText site.output pageName html
  let directories ← Task.concat (documents.map (stageDocument site))
  return copied ++ page :: directories

end Site

end SchemaBundle
