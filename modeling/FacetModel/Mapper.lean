import FacetModel.Conventions
import FacetModel.HandlerChain

/-!
# Mappers from facets to types

A mapper tells the type behind the name of a facet, or behind a name in a namespace. Mappers are
consulted in a chain, with convention catalogs as fallbacks.
-/

namespace FacetModel

/-- What tells the types behind names. -/
structure Mapper where
  /-- The type behind a name. -/
  resolve : String → Option String := fun _ => none
  /-- The type behind a name in a namespace. -/
  resolveQualified : String → String → Option String := fun _ _ => none
deriving Inhabited

namespace Mapper

/-- The mapper without answers. -/
def silent : Mapper := {}

/-- The mapper of the facets in a convention catalog. It has no answers for namespaces. -/
def ofConventions (c : ConventionCatalog) : Mapper := { resolve := c.elementTypeOf? }

/-- The mapper with the answers of some tables. -/
def ofTables (names : NameMap String) (qualified : NameMap (NameMap String)) : Mapper where
  resolve := names.get?
  resolveQualified namespaceName name := (qualified.get? namespaceName).bind (·.get? name)

end Mapper

/-- Mappers in the order in which they are consulted. -/
abbrev MapperChain := HandlerChain Mapper

namespace MapperChain

/-- The chain with one more mapper. -/
def withMapper (c : MapperChain) (m : Mapper) : MapperChain := HandlerChain.push c m

/-- The chain with the mapper of a convention catalog among its fallbacks. -/
def withConventions (c : MapperChain) (catalog : ConventionCatalog) : MapperChain :=
  HandlerChain.pushFallback c (.ofConventions catalog)

/-- The type behind a name. -/
def resolve (c : MapperChain) (name : String) : Option String :=
  HandlerChain.firstAnswer? c (·.resolve name)

/-- The type behind a name in a namespace. -/
def resolveQualified (c : MapperChain) (namespaceName name : String) : Option String :=
  HandlerChain.firstAnswer? c (·.resolveQualified namespaceName name)

end MapperChain

end FacetModel
