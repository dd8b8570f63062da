import FacetModel.Builder
import FacetModel.Scan.Masking

/-!
# Scanning the operations of a host

A method with a marker is an operation, whoever can see it. A method masks all later ones of its
name, with or without a marker. `Builder.operationOf?` tells which operation of the model a marked
method is: what it is called on, its parameters, and what it returns.
-/

namespace FacetModel

/-- A marked host method as it was found. -/
structure ScannedOperation where
  /-- The name of the operation. -/
  name : String
  /-- The name of the method. -/
  methodName : String
  namespaceName : Option String
  isBound : Bool
  hasSideEffects : Bool
  isComposable : Bool
  parameters : List ParameterDeclaration
  returns : DeclaredType
  /-- The entity set that the returned entities come from. -/
  entitySet : Option String
  declaringType : String
  isStatic : Bool
deriving DecidableEq, Repr, Inhabited

/-- The operation that a method of a host type is marked as. -/
def ScannedOperation.of? (declaringType : String) (m : MethodDeclaration) :
    Option ScannedOperation :=
  m.operation.map fun marker =>
    { name := marker.name.getD m.name
      methodName := m.name
      namespaceName := marker.namespaceName
      isBound := marker.isBound
      hasSideEffects := marker.hasSideEffects
      isComposable := marker.isComposable
      parameters := m.parameters
      returns := m.returns
      entitySet := marker.entitySet
      declaringType
      isStatic := m.isStatic }

/-- The marked methods of a host type and its bases up to the root, without masked ones. -/
def Registry.scanOperations (r : Registry) (host root : String) :
    Except CatalogError (List ScannedOperation) :=
  match r.hostChain host root with
  | .error e => .error e
  | .ok chain =>
    let methods := chain.flatMap fun t => t.methods.map fun m => (t.name, m)
    .ok ((firstByName (·.2.name) methods).filterMap fun m => ScannedOperation.of? m.1 m.2)

namespace Builder

/-- A type that refers to a registered entity type, by the name of that type. -/
def entityName? (b : Builder) (t : DeclaredType) : Option String :=
  t.referenceName?.filter b.isEntityType

/-- What an operation with a first parameter of some type is called on. -/
def operationBinding? (b : Builder) (t : DeclaredType) : Option OperationBinding :=
  match t.sequenceElement? with
  | some element => (b.entityName? element).map .entityCollection
  | none => (b.entityName? t).map .entity

/-- A parameter of an operation: a sequence is unwrapped once. -/
def parameterOf (p : ParameterDeclaration) : OperationParameter :=
  match p.type.sequenceElement? with
  | some element => { name := p.name, type := element, isCollection := true }
  | none => { name := p.name, type := p.type, isCollection := false }

/-- The entity set that returned entities come from: the one the marker names, else the first one
of their type. -/
def returnedSet? (b : Builder) (hint : Option String) (entityType : String) : Option String :=
  hint <|> (b.entitySets.find? (·.elementType == entityType)).map (·.name)

/-- What an operation returns. -/
def returnShape? (b : Builder) (hint : Option String) (returns : DeclaredType) :
    Option ReturnShape :=
  if returns.isVoid then none
  else
    match returns.sequenceElement? with
    | some element =>
      match b.entityName? element with
      | none => some (.collection element)
      | some entity => (b.returnedSet? hint entity).map (.entityCollection entity)
    | none =>
      match b.entityName? returns with
      | none => some (.single returns)
      | some entity => (b.returnedSet? hint entity).map (.entity entity)

/-- The operation of a marked method with what it is called on and its other parameters. -/
def operationWith (b : Builder) (s : ScannedOperation) (binding : OperationBinding)
    (parameters : List ParameterDeclaration) : Operation :=
  { name := s.name
    namespaceName := s.namespaceName.getD b.namespaceName
    kind := if s.hasSideEffects then .action else .function
    binding
    isComposable := !s.hasSideEffects && s.isComposable
    parameters := parameters.map parameterOf
    returnShape := b.returnShape? s.entitySet s.returns }

/-- The operation of a marked method. A bound method is called on its first parameter, which must
be of a registered entity type or a sequence of one. -/
def operationOf? (b : Builder) (s : ScannedOperation) : Option Operation :=
  if s.isBound then
    match s.parameters with
    | [] => none
    | p :: rest => (b.operationBinding? p.type).map fun binding => b.operationWith s binding rest
  else some (b.operationWith s .unbound s.parameters)

/-- The builder with the operations of some marked methods. -/
def attachOperations (b : Builder) (scanned : List ScannedOperation) : Builder :=
  { b with operations := b.operations ++ scanned.filterMap b.operationOf? }

/-- One marked method attached, with the number of operations that were added. -/
def attachCounting (progress : Builder × Nat) (s : ScannedOperation) : Builder × Nat :=
  let (b, count) := progress
  match b.operationOf? s with
  | some o => (b.addOperation o, count + 1)
  | none => (b, count)

/-- The builder with the operations of some marked methods, and how many these are. -/
def attachOperationsCounting (b : Builder) (scanned : List ScannedOperation) : Builder × Nat :=
  scanned.foldl attachCounting (b, 0)

end Builder

end FacetModel
