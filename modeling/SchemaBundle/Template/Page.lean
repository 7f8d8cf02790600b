import SchemaBundle.Site
import SchemaBundle.Template.Rendering

/-!
# Pages

The program renders its pages with the part of the template language that `Template.render` covers.
-/

namespace SchemaBundle.Site

/-- The text of the page; the template sees the names of the APIs. -/
def page? (template : String) (names : List String) : Option String :=
  Template.render template [("apis", .list (names.map .string))]

end SchemaBundle.Site
