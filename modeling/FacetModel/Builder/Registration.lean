import FacetModel.Builder

/-!
# Registrations

A registration is a list of requests to a model under construction: for types, keys and facets. A
request that cannot be met changes nothing. What a catalog registers is one such list
(`ModelRegistration.requests`).
-/

namespace FacetModel

/-- A request to a model under construction. -/
inductive BuilderRequest where
  | structuralType (name : String)
  | enumType (name : String)
  | entitySet (name elementType : String) (origin : FacetOrigin)
  | singleton (name typeName : String) (origin : FacetOrigin)
  | key (typeName key : String)
deriving DecidableEq, Repr

namespace Builder

/-- The builder in which a request is met, if that can be. -/
def meet? (b : Builder) : BuilderRequest → Option Builder
  | .structuralType name => b.addStructuralType? name
  | .enumType name => b.addEnumType? name
  | .entitySet name elementType origin => b.addEntitySet? name elementType origin
  | .singleton name typeName origin => b.addSingleton? name typeName origin
  | .key typeName key => b.addKey? typeName key

/-- The builder after a request. -/
def meet (b : Builder) (request : BuilderRequest) : Builder := (b.meet? request).getD b

/-- The builder after some requests. -/
def meetAll (b : Builder) (requests : List BuilderRequest) : Builder := requests.foldl meet b

end Builder

/-- The requests for a registered entity set. -/
def BuilderRequest.forEntitySet (name elementType : String) : List BuilderRequest :=
  [.structuralType elementType, .entitySet name elementType .registered]

/-- The requests for a registered singleton. -/
def BuilderRequest.forSingleton (name typeName : String) : List BuilderRequest :=
  [.structuralType typeName, .singleton name typeName .registered]

/-- The requests for the keys of a type. -/
def BuilderRequest.forKeys (typeName : String) (keys : List String) : List BuilderRequest :=
  .structuralType typeName :: keys.map (.key typeName)

/-- The requests for the keys of several types. -/
def BuilderRequest.forAllKeys (keys : NameMap (List String)) : List BuilderRequest :=
  keys.entries.flatMap fun e => BuilderRequest.forKeys e.1 e.2

/-- The requests of what a catalog registers: types, entity sets, singletons, keys. -/
def ModelRegistration.requests (r : ModelRegistration) : List BuilderRequest :=
  r.types.map .structuralType
    ++ r.entitySets.flatMap (fun f => BuilderRequest.forEntitySet f.name f.typeName)
    ++ r.singletons.flatMap (fun f => BuilderRequest.forSingleton f.name f.typeName)
    ++ BuilderRequest.forAllKeys r.keys

/-- The builder with what a catalog registers. -/
def Builder.extend (b : Builder) (r : ModelRegistration) : Builder := b.meetAll r.requests

end FacetModel
