import FacetModel.Builder

/-!
# Binding navigation properties

A navigation property is followed from a facet: from the type of its entities, from the base types
of that type and from the types derived from it. It leads to the facet with entities of its target
type, if there is exactly one such facet of the wanted kind. Otherwise it stays unbound.
-/

namespace FacetModel

namespace Builder

/-- The types whose navigation properties can be followed from a facet with some element type:
its base types from the root down, the type itself, and the types derived from it. -/
def relatedTypes (b : Builder) (elementType : String) : List String :=
  (b.ancestors elementType).reverse ++ elementType :: b.derivedTypes elementType

/-- The facets with the types of their entities, entity sets first. -/
def facets (b : Builder) : List (FacetRef × String) :=
  b.entitySets.map (fun s => (.entitySet s.name, s.elementType))
    ++ b.singletons.map fun s => (.singleton s.name, s.typeName)

/-- A navigation property that can be followed from a facet. -/
structure Crossing where
  source : FacetRef
  /-- The type that declares the property. -/
  declaringType : String
  navigation : NavigationProperty
deriving DecidableEq, Repr

/-- The navigation properties that can be followed from all facets. -/
def crossings (b : Builder) : List Crossing :=
  b.facets.flatMap fun facet =>
    (b.relatedTypes facet.2).flatMap fun declaringType =>
      (b.navigationProperties declaringType).map fun navigation =>
        { source := facet.1, declaringType, navigation }

/-- The facets into which a navigation property may lead. -/
def targets (b : Builder) (n : NavigationProperty) : List FacetRef :=
  if n.singletonTarget then
    (b.singletons.filter (·.typeName == n.targetType)).map fun s => .singleton s.name
  else (b.entitySets.filter (·.elementType == n.targetType)).map fun s => .entitySet s.name

/-- The builder with one navigation property bound, if it has exactly one target. -/
def bindCrossing (b : Builder) (c : Crossing) : Builder :=
  match b.targets c.navigation with
  | [target] =>
    (b.addBinding? { source := c.source, declaringType := c.declaringType,
                     property := c.navigation.name, target }).getD b
  | _ => b

/-- The builder with all navigation properties bound that have exactly one target. A property that
is bound stays as it is. -/
def bind (b : Builder) : Builder := b.crossings.foldl bindCrossing b

/-- One navigation property bound as `bindCrossing` does it, with the number of new bindings. What
is bound is passed over before any target is looked for. -/
def bindCrossingCounting (progress : Builder × Nat) (c : Crossing) : Builder × Nat :=
  let (b, count) := progress
  if b.hasBinding c.source c.declaringType c.navigation.name then (b, count)
  else
    match b.targets c.navigation with
    | [target] =>
      ((b.addBinding? { source := c.source, declaringType := c.declaringType,
                        property := c.navigation.name, target }).getD b, count + 1)
    | _ => (b, count)

/-- The builder with all navigation properties bound that have exactly one target, and the number
of new bindings. -/
def bindCounting (b : Builder) : Builder × Nat := b.crossings.foldl bindCrossingCounting (b, 0)

end Builder

end FacetModel
