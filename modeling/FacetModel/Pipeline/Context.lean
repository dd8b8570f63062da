import FacetModel.Catalog.Declaration
import FacetModel.Mapper

/-!
# Contexts of queries

A query is composed in a context: the model, the mappers, the values of static host properties,
and the host instance that serves the request, if there is one. The value of a property that is
not static is read from an instance of the right host type only.
-/

namespace FacetModel

/-- The host instance that serves a request. -/
structure HostInstance where
  /-- Whether the instance is of a host type or of one derived from it. -/
  isInstanceOf : String → Bool
  /-- The value of a property of the instance. -/
  readProperty : String → Option HostValue

/-- The instance with a type, the bases of that type, and the values of its properties. -/
def HostInstance.ofValues (lineage : List String) (values : NameMap HostValue) : HostInstance where
  isInstanceOf := lineage.contains
  readProperty := values.get?

/-- What is known when a query is composed. -/
structure QueryContext where
  model : Model
  mappers : MapperChain := {}
  host : Option HostInstance := none
  /-- The values of static host properties. -/
  statics : NameMap HostValue := .empty

/-- The value of a host property. -/
def QueryContext.readHostProperty (c : QueryContext) (hostType name : String) (isStatic : Bool) :
    Option HostValue :=
  if isStatic then c.statics.get? name
  else
    match c.host with
    | some host => if host.isInstanceOf hostType then host.readProperty name else none
    | none => none

end FacetModel
