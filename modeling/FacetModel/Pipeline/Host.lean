import FacetModel.Pipeline.Context
import FacetModel.Settings

/-!
# Host values of a catalog

A catalog gives values to host properties by name. Values of static properties belong to the
context of a query and all others to the host instance; values of ignored properties belong to
neither.
-/

namespace FacetModel

/-- Whether a facet has a static host property behind it. -/
def ConventionCatalog.isStatic (c : ConventionCatalog) (name : String) : Bool :=
  (c.entitySetProperty? name <|> c.singletonProperty? name).any (·.isStatic)

/-- The context of queries over an assembled model, with the host values of a catalog and a host
instance with some types. -/
def QueryContext.ofHostValues (values : NameMap HostValue) (settings : Settings)
    (lineage : List String) (model : Model) (conventions : ConventionCatalog) : QueryContext where
  model
  mappers := MapperChain.withConventions {} conventions
  host := some (.ofValues lineage
    (values.filter fun name _ => !settings.isIgnored name && !conventions.isStatic name))
  statics := values.filter fun name _ => !settings.isIgnored name && conventions.isStatic name

end FacetModel
