import FacetModel.Json

/-!
# Queries

A query is a source below filters, projections and navigations. Its source is a collection of a
store, a constant sequence, or a stub: a name whose source is not known yet. As every query has
one source, `Query.leaf` is the only place where a stub can stand.
-/

namespace FacetModel

/-- A source that is known. -/
inductive Source where
  /-- A collection of a store. -/
  | openCollection (database collection elementType : String)
  /-- A constant sequence. -/
  | constant (elementType : String) (values : List Json)
deriving Inhabited

/-- How two values are compared. -/
inductive CompareOp where
  | eq
  | ne
  | lt
  | le
  | gt
  | ge
deriving DecidableEq, Repr, Inhabited

/-- An expression over one row. -/
inductive ScalarExpr where
  /-- The value at a path of names with dots between them. -/
  | property (path : String)
  /-- A constant value. -/
  | literal (value : Json)
  /-- Whether two values compare in some way. -/
  | compare (op : CompareOp) (left right : ScalarExpr)
  /-- Whether both hold. -/
  | and (left right : ScalarExpr)
  /-- Whether one of them holds. -/
  | or (left right : ScalarExpr)
  /-- Whether it does not hold. -/
  | not (inner : ScalarExpr)
deriving Inhabited

/-- A query. -/
inductive Query where
  /-- A name whose source is not known yet. -/
  | stub (name : String)
  /-- A source that is known. -/
  | source (source : Source)
  /-- The rows for which a predicate holds. -/
  | filter (input : Query) (predicate : ScalarExpr)
  /-- The rows with the values of some paths only. -/
  | project (input : Query) (fields : List String)
  /-- The values that the rows have at a path. -/
  | navigate (input : Query) (property : String)
deriving Inhabited

/-- Whether a property has a value. -/
def ScalarExpr.propertyEq (path : String) (value : Json) : ScalarExpr :=
  .compare .eq (.property path) (.literal value)

namespace Query

/-- The query below the outermost node. -/
def input? : Query → Option Query
  | .stub _ => none
  | .source _ => none
  | .filter input _ => some input
  | .project input _ => some input
  | .navigate input _ => some input

/-- The nodes of a query, from the outermost one to its source. -/
def nodes : Query → List Query
  | .stub name => [.stub name]
  | .source s => [.source s]
  | .filter input p => .filter input p :: input.nodes
  | .project input fields => .project input fields :: input.nodes
  | .navigate input property => .navigate input property :: input.nodes

/-- The source or the stub of a query. -/
def leaf : Query → Query
  | .stub name => .stub name
  | .source s => .source s
  | .filter input _ => input.leaf
  | .project input _ => input.leaf
  | .navigate input _ => input.leaf

/-- How many nodes stand above the source. -/
def depth : Query → Nat
  | .stub _ => 0
  | .source _ => 0
  | .filter input _ => input.depth + 1
  | .project input _ => input.depth + 1
  | .navigate input _ => input.depth + 1

/-- The names of the stubs of a query. -/
def stubNames : Query → List String
  | .stub name => [name]
  | .source _ => []
  | .filter input _ => input.stubNames
  | .project input _ => input.stubNames
  | .navigate input _ => input.stubNames

/-- Whether a query has a stub. -/
def hasStubs (q : Query) : Bool := !q.stubNames.isEmpty

end Query

end FacetModel
