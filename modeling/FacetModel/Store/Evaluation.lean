import FacetModel.Catalog.Declaration
import FacetModel.Text.Split

/-!
# Evaluating queries

`Query.evaluate` gives the rows of a query over the collections of a database. The rows come from
its source; a filter keeps the rows for which its predicate is true, a projection makes a record of
the values at some paths, and a navigation yields the values at a path, where a list yields all its
items and null yields nothing.
-/

namespace FacetModel

/-- Why a query has no rows. -/
inductive StoreError where
  /-- A stub is left in the query. -/
  | unresolvedStub (name : String)
  /-- The query opens another database. -/
  | foreignDatabase (database : String)
  /-- The query opens a collection that does not exist. -/
  | unknownCollection (collection : String)
  /-- The execution was cancelled. -/
  | cancelled
deriving DecidableEq, Repr

/-- The message of an error. -/
def StoreError.message : StoreError → String
  | .unresolvedStub name => "Query still contains unresolved data source `" ++ name ++ "`"
  | .foreignDatabase database =>
    "Query targets database `" ++ database ++ "` which this store does not serve"
  | .unknownCollection collection => "Collection `" ++ collection ++ "` does not exist"
  | .cancelled => "Query execution was cancelled"

/-! ### Paths -/

namespace Json

/-- The member of a name, or null where there is none. -/
def member (j : Json) (name : String) : Json := orNull (j.get? name)

/-- The value at the end of a path of names. -/
def follow (j : Json) (names : List String) : Json := names.foldl member j

/-- The value at a path of names with dots between them, or null where it leads nowhere. -/
def atPath (j : Json) (path : String) : Json := j.follow (Text.split '.' path)

/-! ### Comparison -/

/-- How two values compare: numbers by value whatever their kinds, texts and truth values among
themselves, and other values only if they are equal. -/
def compare? : Json → Json → Option Ordering
  | .scalar (.num a), .scalar (.num b) => a.compare? b
  | .scalar (.str a), .scalar (.str b) => some (compare a b)
  | .scalar (.bool a), .scalar (.bool b) => some (compare a.toNat b.toNat)
  | a, b => if a.same b then some .eq else none

/-- Whether a value is the truth value true. -/
def isTrue : Json → Bool
  | .scalar (.bool b) => b
  | _ => false

end Json

/-- Whether a comparison holds for values that compare in some way. Values that do not compare are
different, and nothing else. -/
def CompareOp.holds : CompareOp → Option Ordering → Bool
  | .eq, o => o == some .eq
  | .ne, o => o != some .eq
  | .lt, o => o == some .lt
  | .le, o => o == some .lt || o == some .eq
  | .gt, o => o == some .gt
  | .ge, o => o == some .gt || o == some .eq

/-! ### Expressions and queries -/

/-- The value of an expression on a row. -/
def ScalarExpr.value (row : Json) : ScalarExpr → Json
  | .property path => row.atPath path
  | .literal v => v
  | .compare op left right => .bool (op.holds ((left.value row).compare? (right.value row)))
  | .and left right => .bool ((left.value row).isTrue && (right.value row).isTrue)
  | .or left right => .bool ((left.value row).isTrue || (right.value row).isTrue)
  | .not inner => .bool (!(inner.value row).isTrue)

/-- Whether a predicate is true of a row. -/
def ScalarExpr.accepts (predicate : ScalarExpr) (row : Json) : Bool := (predicate.value row).isTrue

/-- The record of the values at some paths of a row. -/
def Json.project (fields : List String) (row : Json) : Json :=
  .record (Members.setAll [] (fields.map fun path => (path, row.atPath path)))

/-- The values to which a path of a row leads. -/
def Json.related (property : String) (row : Json) : List Json :=
  match row.atPath property with
  | .list items => items
  | .scalar .null => []
  | value => [value]

/-- The documents of collections by name. -/
abbrev Collections := NameMap (List Json)

/-- The rows of a source. -/
def Source.evaluate (database : String) (collections : Collections) :
    Source → Except StoreError (List Json)
  | .constant _ values => .ok values
  | .openCollection target collection _ =>
    if target ≠ database then .error (.foreignDatabase target)
    else
      match collections.get? collection with
      | some documents => .ok documents
      | none => .error (.unknownCollection collection)

/-- The rows of a query. -/
def Query.evaluate (database : String) (collections : Collections) :
    Query → Except StoreError (List Json)
  | .stub name => .error (.unresolvedStub name)
  | .source s => s.evaluate database collections
  | .filter input predicate =>
    (input.evaluate database collections).map fun rows => rows.filter predicate.accepts
  | .project input fields =>
    (input.evaluate database collections).map fun rows => rows.map (Json.project fields)
  | .navigate input property =>
    (input.evaluate database collections).map fun rows => rows.flatMap (Json.related property)

end FacetModel
