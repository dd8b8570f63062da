import FacetModel.Registry
import FacetModel.Scan.Masking

/-!
# Scanning the properties of a host

The properties of a host type are those that everyone can read, on the type itself and on its
bases. Where a name is declared several times, the most derived declaration counts, whatever its
type. A property that can be queried for entities suggests an entity set, and one that refers to a
named type suggests a singleton (`FacetCandidate.of?`).
-/

namespace FacetModel

/-- The facet that a host property may stand behind. -/
inductive FacetCandidate where
  | entitySet (elementType : String)
  | singleton (typeName : String)
deriving DecidableEq, Repr, Inhabited

/-- The facet that a property of some type suggests. -/
def FacetCandidate.of? : DeclaredType → Option FacetCandidate
  | .queryable (.reference name) => some (.entitySet name)
  | .reference name => some (.singleton name)
  | _ => none

/-- A host property as it was found. -/
structure ScannedProperty where
  name : String
  type : DeclaredType
  candidate : Option FacetCandidate
  isStatic : Bool
  /-- The host type of the declaration that counts. -/
  declaringType : String
deriving DecidableEq, Repr, Inhabited

/-- Whether everyone can read a property. -/
def PropertyDeclaration.isExposed (p : PropertyDeclaration) : Bool :=
  p.visibility == .everyone && p.readable

/-- A property as it is declared on a host type. -/
def ScannedProperty.ofDeclaration (declaringType : String) (p : PropertyDeclaration) :
    ScannedProperty :=
  { name := p.name, type := p.type, candidate := FacetCandidate.of? p.type, isStatic := p.isStatic,
    declaringType }

/-- The properties of a host type that everyone can read. -/
def HostType.exposedProperties (t : HostType) : List ScannedProperty :=
  (t.properties.filter (·.isExposed)).map (.ofDeclaration t.name)

/-- The properties of a host type and its bases up to the root, without those of ignored names. An
ignored name masks declarations of the bases like any other. -/
def Registry.scanProperties (r : Registry) (host root : String) (ignored : List String) :
    Except CatalogError (List ScannedProperty) :=
  match r.hostChain host root with
  | .error e => .error e
  | .ok chain =>
    .ok ((firstByName (·.name) (chain.flatMap HostType.exposedProperties)).filter
      fun p => p.name ∉ ignored)

end FacetModel
