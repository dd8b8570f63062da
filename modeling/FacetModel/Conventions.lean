import FacetModel.Builder
import FacetModel.Scan.Properties

/-!
# Convention catalogs

A convention catalog lists the facets of a model that a host property stands behind. There are two
ways to one. `Builder.adoptFacets` turns scanned properties into facets of a model under
construction, and `ConventionCatalog.ofModel` finds scanned properties among the facets of a
finished model. A property is listed exactly if the model has a facet of its name and kind with
entities of its type.
-/

namespace FacetModel

/-- A facet that a host property stands behind. -/
structure FacetProperty where
  /-- The name of the facet and of the property. -/
  facet : String
  /-- The type of the entities. -/
  elementType : String
  isStatic : Bool
deriving DecidableEq, Repr, Inhabited

/-- The facets that the properties of a host type stand behind. -/
structure ConventionCatalog where
  hostType : String
  entitySets : List FacetProperty := []
  singletons : List FacetProperty := []
deriving DecidableEq, Repr, Inhabited

namespace ConventionCatalog

/-- The property behind an entity set. -/
def entitySetProperty? (c : ConventionCatalog) (name : String) : Option FacetProperty :=
  c.entitySets.find? (·.facet == name)

/-- The property behind a singleton. -/
def singletonProperty? (c : ConventionCatalog) (name : String) : Option FacetProperty :=
  c.singletons.find? (·.facet == name)

/-- The type of the entities of a facet that a host property stands behind. -/
def elementTypeOf? (c : ConventionCatalog) (name : String) : Option String :=
  (c.entitySetProperty? name <|> c.singletonProperty? name).map (·.elementType)

/-- The catalog with one more scanned property, if it stands behind one of the facets that the
tests accept by name and type. -/
def addIf (c : ConventionCatalog) (p : ScannedProperty)
    (hasEntitySet hasSingleton : String → String → Bool) : ConventionCatalog :=
  match p.candidate with
  | some (.entitySet type) =>
    if hasEntitySet p.name type then
      { c with entitySets := c.entitySets ++ [⟨p.name, type, p.isStatic⟩] }
    else c
  | some (.singleton type) =>
    if hasSingleton p.name type then
      { c with singletons := c.singletons ++ [⟨p.name, type, p.isStatic⟩] }
    else c
  | none => c

end ConventionCatalog

/-! ### Facets of a finished model -/

namespace Model

/-- Whether the entity set of a name has entities of a type. -/
def hasEntitySet (m : Model) (name elementType : String) : Bool :=
  (m.findEntitySet? name).any (·.elementType == elementType)

/-- Whether the singleton of a name has an entity of a type. -/
def hasSingleton (m : Model) (name typeName : String) : Bool :=
  (m.findSingleton? name).any (·.typeName == typeName)

end Model

/-- The scanned properties that stand behind facets of a model. -/
def ConventionCatalog.ofModel (host : String) (scanned : List ScannedProperty) (m : Model) :
    ConventionCatalog :=
  scanned.foldl (fun c p => c.addIf p m.hasEntitySet m.hasSingleton) { hostType := host }

/-! ### Facets of a model under construction -/

namespace Builder

/-- Whether the entity set of a name has entities of a type. -/
def hasEntitySet (b : Builder) (name elementType : String) : Bool :=
  (b.findEntitySet? name).any (·.elementType == elementType)

/-- Whether a singleton of a name has an entity of a type. -/
def hasSingleton (b : Builder) (name typeName : String) : Bool :=
  b.singletons.any fun s => s.name == name && s.typeName == typeName

/-- The builder with the facet that a scanned property suggests, if it can be added. -/
def adoptFacet (b : Builder) (p : ScannedProperty) : Builder :=
  let origin : FacetOrigin := if p.isStatic then .staticProperty else .instanceProperty
  match p.candidate with
  | some (.entitySet type) => (b.addEntitySet? p.name type origin).getD b
  | some (.singleton type) => (b.addSingleton? p.name type origin).getD b
  | none => b

/-- The builder with the facets that scanned properties suggest, and the catalog of those that it
has. Each property is looked up as soon as its facet had its chance. -/
def adoptFacets (b : Builder) (host : String) (scanned : List ScannedProperty) :
    Builder × ConventionCatalog :=
  scanned.foldl
    (fun (b, c) p =>
      let b := b.adoptFacet p
      (b, c.addIf p b.hasEntitySet b.hasSingleton))
    (b, { hostType := host })

end Builder

end FacetModel
