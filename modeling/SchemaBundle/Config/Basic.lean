import SchemaBundle.Files.Path

/-!
# Build configurations

Which shared definitions and which APIs a build works on, and where its files go. Paths are kept
as they are written; `Config.within` sees all of them from a base.
-/

namespace SchemaBundle

/-- An API document to bundle. -/
structure Config.Api where
  name : String
  path : Path
  /-- Whether the shared security schemes go into the bundled document. -/
  securitySchemes : Bool
deriving DecidableEq, Repr

/-- The site that shows the APIs. -/
structure Config.Site where
  output : Path
  /-- Files copied into the site. -/
  staticFiles : Option Path
  template : Path
  /-- Files copied into the directory of every API. -/
  projectFiles : Option Path
deriving DecidableEq, Repr

/-- What a build works on. -/
structure Config where
  definitions : Path
  output : Path
  /-- Whether references to undefined schemas are failures. -/
  strict : Bool
  apis : List Config.Api
  site : Option Config.Site
deriving DecidableEq, Repr

namespace Config

/-- The site with its paths seen from a base. -/
def Site.within (base : Path) (site : Site) : Site :=
  { output := base.join site.output
    staticFiles := site.staticFiles.map base.join
    template := base.join site.template
    projectFiles := site.projectFiles.map base.join }

/-- The configuration with its paths seen from a base. -/
def within (base : Path) (config : Config) : Config :=
  { config with
    definitions := base.join config.definitions
    output := base.join config.output
    apis := config.apis.map fun api => { api with path := base.join api.path }
    site := config.site.map (·.within base) }

end Config

end SchemaBundle
