import FacetModel.Catalog
import FacetModel.Yaml.Reader

/-!
# Catalogs in YAML text
-/

namespace FacetModel

namespace HostCatalog

/-- The valid catalog of a text. -/
def ofText (text : String) : Except CatalogError HostCatalog :=
  match Yaml.read? text with
  | some t => load t
  | none => .error (.malformed none)

/-- The valid catalog of a file, by what is in it, if it can be read. -/
def ofFile : Option String → Except CatalogError HostCatalog
  | some text => ofText text
  | none => .error .unreadable

end HostCatalog

end FacetModel
