import FacetModel.Catalog
import FacetModel.Remaining

/-!
# The registry of declared types

`Registry` holds the declared types by name, where no name stands for two types of whatever kind.
`Registry.hostChain` walks from a host type along its bases up to the root, and fails when a base
is missing or comes back.
-/

namespace FacetModel

/-! ### Names not seen yet -/

namespace NameMap

variable {α : Type}

/-- How many names of a map are not in a list. -/
def unseen (m : NameMap α) (seen : List String) : Nat :=
  (m.names.filter (· ∉ seen)).length

/-- Seeing one more name of a map leaves fewer unseen. -/
theorem unseen_cons_lt {m : NameMap α} {name : String} {value : α} {seen : List String}
    (hm : m.get? name = some value) (hs : name ∉ seen) :
    m.unseen (name :: seen) < m.unseen seen :=
  length_filter_lt (a := name) (by simp) (mem_names hm) (by simpa using hs) (by simp)

end NameMap

/-! ### The registry -/

/-- The declared types by name. -/
structure Registry where
  hostTypes : NameMap HostType := .empty
  structuralTypes : NameMap StructuralType := .empty
  enumTypes : NameMap EnumType := .empty
deriving DecidableEq, Repr, Inhabited

namespace Registry

/-- The registry without types. -/
def empty : Registry := {}

/-- Whether a type of some kind has a name. -/
def declares (r : Registry) (name : String) : Bool :=
  r.hostTypes.contains name || r.structuralTypes.contains name || r.enumTypes.contains name

/-- The registry with one more host type, whose name must be new. -/
def registerHost (r : Registry) (t : HostType) : Except CatalogError Registry :=
  if r.declares t.name then .error (.duplicateDeclaration t.name)
  else .ok { r with hostTypes := r.hostTypes.insert t.name t }

/-- The registry with one more structural type, whose name must be new. -/
def registerStructural (r : Registry) (t : StructuralType) : Except CatalogError Registry :=
  if r.declares t.name then .error (.duplicateDeclaration t.name)
  else .ok { r with structuralTypes := r.structuralTypes.insert t.name t }

/-- The registry with one more enum type, whose name must be new. -/
def registerEnum (r : Registry) (t : EnumType) : Except CatalogError Registry :=
  if r.declares t.name then .error (.duplicateDeclaration t.name)
  else .ok { r with enumTypes := r.enumTypes.insert t.name t }

/-- A host type by name. -/
def host? (r : Registry) (name : String) : Option HostType := r.hostTypes.get? name

/-- A structural type by name. -/
def structural? (r : Registry) (name : String) : Option StructuralType :=
  r.structuralTypes.get? name

/-- An enum type by name. -/
def enum? (r : Registry) (name : String) : Option EnumType := r.enumTypes.get? name

/-- The host types from a name along the bases, after the names that were met before, latest
first. -/
def chainFrom (r : Registry) (host root : String) (met : List String) (name : String) :
    Except CatalogError (List HostType) :=
  if _hm : name ∈ met then .error (.inheritanceCycle host name)
  else
    match _hn : r.hostTypes.get? name with
    | none =>
      match met with
      | [] => .error (.hostTypeNotFound name)
      | previous :: _ => .error (.baseTypeNotFound previous name)
    | some t =>
      match t.base with
      | none => .ok [t]
      | some base =>
        if base = root then .ok [t]
        else
          match chainFrom r host root (name :: met) base with
          | .ok chain => .ok (t :: chain)
          | .error e => .error e
termination_by r.hostTypes.unseen met
decreasing_by exact NameMap.unseen_cons_lt _hn _hm

/-- A host type and its bases up to the root, most derived first. The root is left out, and need
not be declared. -/
def hostChain (r : Registry) (host root : String) : Except CatalogError (List HostType) :=
  if host = root then .ok [] else chainFrom r host root [] host

/-- The names of a host type and its bases up to the root. -/
def hostLineage (r : Registry) (host root : String) : Except CatalogError (List String) :=
  (r.hostChain host root).map fun chain => chain.map (·.name)

end Registry

/-- The registry of the types a catalog declares. -/
def HostCatalog.toRegistry (c : HostCatalog) : Except CatalogError Registry := do
  let r ← c.hostTypes.foldlM Registry.registerHost .empty
  let r ← c.structuralTypes.foldlM Registry.registerStructural r
  c.enumTypes.foldlM Registry.registerEnum r

end FacetModel
