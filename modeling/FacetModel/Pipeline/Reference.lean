import FacetModel.Model
import FacetModel.Query

/-!
# What queries refer to

`ModelReference.classify` tells what a node of a query stands for in a model: the facet or the
collection it opens, or the type of the entities it leads to. Filters and projections stand for
nothing of their own.
-/

namespace FacetModel

/-- The type of the rows of a query, where the model knows it. -/
def Query.elementType? (m : Model) : Query → Option String
  | .stub name => (m.findFacet? name).bind m.facetType?
  | .source (.openCollection _ _ elementType) => some elementType
  | .source (.constant elementType _) => some elementType
  | .filter input _ => input.elementType? m
  | .project input _ => input.elementType? m
  | .navigate input property =>
    match input.elementType? m with
    | some type => (m.findNavigation? type property).map (·.targetType)
    | none => none

/-- What a node of a query stands for in a model. -/
inductive ModelReference where
  /-- Nothing. -/
  | nothing
  /-- A stub, and the facet of its name. -/
  | stub (name : String) (facet : Option FacetRef)
  | entitySet (name : String)
  | singleton (name : String)
  /-- Entities of a type. -/
  | entities (typeName : String)
deriving DecidableEq, Repr, Inhabited

namespace ModelReference

/-- What a node stands for in a model. -/
def classify (m : Model) (node : Query) : ModelReference :=
  match node with
  | .stub name => .stub name (m.findFacet? name)
  | .source (.openCollection _ collection elementType) =>
    match m.findFacet? collection with
    | some (.entitySet name) => .entitySet name
    | some (.singleton name) => .singleton name
    | none => .entities elementType
  | .source (.constant elementType _) => .entities elementType
  | .filter _ _ => .nothing
  | .project _ _ => .nothing
  | .navigate input property =>
    match Query.elementType? m (.navigate input property) with
    | some type => .entities type
    | none => .nothing

/-- Whether a node stands for nothing. -/
def isNothing : ModelReference → Bool
  | .nothing => true
  | _ => false

/-- The name of the facet that is meant. -/
def facetName? : ModelReference → Option String
  | .stub _ facet => facet.map (·.name)
  | .entitySet name => some name
  | .singleton name => some name
  | .nothing => none
  | .entities _ => none

/-- What a node stands for, as messages call it. -/
def text : ModelReference → String
  | .nothing => "unclassified node"
  | .stub _ (some facet) => facet.text
  | .stub name none => "data source `" ++ name ++ "`"
  | .entitySet name => "entity set `" ++ name ++ "`"
  | .singleton name => "singleton `" ++ name ++ "`"
  | .entities typeName => "type `" ++ typeName ++ "`"

end ModelReference

end FacetModel
