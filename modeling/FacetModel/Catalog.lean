import FacetModel.Catalog.Encoding

/-!
# Host catalogs

`HostCatalog.validate` checks a catalog as a whole: every type has a valid name that no other
type has, no host type declares a property twice, and all that is registered is a declared
structural type. `HostCatalog.load` reads a catalog from a document and validates it.
-/

namespace FacetModel

/-- What is wrong with a catalog that could be read. -/
inductive CatalogFlaw where
  /-- The name of a type is no identifier. -/
  | badTypeName (name : String)
  /-- A registration names a structural type that is not declared. -/
  | undeclaredType (name : String)
  /-- A flaw that a preparer or an extender reports. -/
  | reported (message : String)
deriving Repr, DecidableEq

/-- The message of a flaw. -/
def CatalogFlaw.message : CatalogFlaw → String
  | .badTypeName name => "`" ++ name ++ "` is not a valid type name"
  | .undeclaredType name =>
    "model registration references undeclared structural type `" ++ name ++ "`"
  | .reported message => message

/-- Why a catalog cannot be loaded or a model cannot be assembled. -/
inductive CatalogError where
  /-- The host type is not declared. -/
  | hostTypeNotFound (hostType : String)
  /-- A base of a host type is not declared. -/
  | baseTypeNotFound (hostType baseType : String)
  /-- The bases of a host type lead back to one of them. -/
  | inheritanceCycle (hostType revisited : String)
  /-- A text is no type expression. -/
  | invalidExpression (error : DeclaredType.ExpressionError)
  /-- A name is declared twice. -/
  | duplicateDeclaration (name : String)
  /-- The text of a catalog cannot be had. -/
  | unreadable
  /-- A document is no catalog; there is no cause when it is no document either. -/
  | malformed (cause : Option Mismatch)
  /-- A catalog is not valid. -/
  | invalid (flaw : CatalogFlaw)
  /-- A provider failed to give a model. -/
  | provider (provider message : String)
  /-- The assembly was cancelled. -/
  | cancelled
deriving Repr

namespace CatalogError

/-- The message of an error. -/
def message : CatalogError → String
  | .hostTypeNotFound hostType => "Host type `" ++ hostType ++ "` is not declared in the host catalog"
  | .baseTypeNotFound hostType baseType =>
    "Base type `" ++ baseType ++ "` of host type `" ++ hostType ++ "` is not declared"
  | .inheritanceCycle hostType revisited =>
    "Inheritance cycle detected while walking `" ++ hostType ++ "` (revisited `" ++ revisited
      ++ "`)"
  | .invalidExpression error => error.message
  | .duplicateDeclaration name => "Duplicate declaration of `" ++ name ++ "` in host catalog"
  | .unreadable => "Failed to read host catalog"
  | .malformed _ => "Failed to parse host catalog"
  | .invalid flaw => "Invalid host catalog: " ++ flaw.message
  | .provider name message => "Model provider `" ++ name ++ "` failed: " ++ message
  | .cancelled => "Model assembly was cancelled"

/-- Whether the declared host types cannot be walked, so that no service can start. -/
def isFatal : CatalogError → Bool
  | .hostTypeNotFound _ => true
  | .baseTypeNotFound _ _ => true
  | .inheritanceCycle _ _ => true
  | _ => false

end CatalogError

/-- Whether a text is a letter or an underscore followed by letters, digits and underscores. -/
def isIdentifier (s : String) : Bool :=
  match s.toList with
  | [] => false
  | c :: rest => (c.isAlpha || c == '_') && rest.all fun c => c.isAlphanum || c == '_'

namespace HostCatalog

/-- The names of all declared types, host types first. -/
def typeNames (c : HostCatalog) : List String :=
  c.hostTypes.map (·.name) ++ c.structuralTypes.map (·.name) ++ c.enumTypes.map (·.name)

/-- The structural types that a registration names. -/
def registeredTypes (r : ModelRegistration) : List String :=
  r.types ++ r.entitySets.map (·.typeName) ++ r.singletons.map (·.typeName) ++ r.keys.names

/-- Checks that names are identifiers and differ from each other and from the names before. -/
def checkNames (seen : List String) : List String → Except CatalogError Unit
  | [] => .ok ()
  | name :: rest =>
    if !isIdentifier name then .error (.invalid (.badTypeName name))
    else if name ∈ seen then .error (.duplicateDeclaration name)
    else checkNames (name :: seen) rest

/-- Checks that the properties of a host type have different names. -/
def checkMembers (hostType : String) (seen : List String) : List String → Except CatalogError Unit
  | [] => .ok ()
  | name :: rest =>
    if name ∈ seen then .error (.duplicateDeclaration (hostType ++ "." ++ name))
    else checkMembers hostType (name :: seen) rest

/-- Checks that names are declared structural types. -/
def checkDeclared (declared : List String) : List String → Except CatalogError Unit
  | [] => .ok ()
  | name :: rest =>
    if name ∈ declared then checkDeclared declared rest
    else .error (.invalid (.undeclaredType name))

/-- Checks the properties of each host type. -/
def checkHosts : List HostType → Except CatalogError Unit
  | [] => .ok ()
  | t :: rest => do
    checkMembers t.name [] (t.properties.map (·.name))
    checkHosts rest

/-- Checks a catalog as a whole. -/
def validate (c : HostCatalog) : Except CatalogError Unit := do
  checkNames [] c.typeNames
  checkHosts c.hostTypes
  checkDeclared (c.structuralTypes.map (·.name)) (registeredTypes c.registration)

/-- The valid catalog of a document. -/
def load {σ : Type} [Script σ] (t : Tree σ) : Except CatalogError HostCatalog :=
  match read t with
  | .error mismatch => .error (.malformed (some mismatch))
  | .ok c => do
    c.validate
    return c

end HostCatalog

end FacetModel
