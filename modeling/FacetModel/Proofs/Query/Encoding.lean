import FacetModel.Proofs.Json.Equality
import FacetModel.Proofs.Tree.Reading

/-!
# Reading back queries

Every query is read back from its document in JSON (`Query.read_toJson`), whatever its literals and
its constant rows are: the reader goes by the name of the outermost node, so a literal that looks
like an expression is not taken for one.

Queries are equal as values when they have the same nodes and equal literals and rows
(`Query.same`). They need not be identical, as `0.0` and `-0.0` are equal values. What is written
tells both apart: different queries have different documents, and queries are equal as values
exactly if their documents are (`Query.same_toJson`).
-/

namespace FacetModel

/-! ### Equality of queries -/

/-- Equality of sources as values. -/
def Source.same : Source → Source → Bool
  | .openCollection database collection elementType,
      .openCollection database' collection' elementType' =>
    database == database' && collection == collection' && elementType == elementType'
  | .constant elementType values, .constant elementType' values' =>
    elementType == elementType' && Json.sameItems values values'
  | _, _ => false

/-- Equality of expressions as values. -/
def ScalarExpr.same : ScalarExpr → ScalarExpr → Bool
  | .property path, .property path' => path == path'
  | .literal value, .literal value' => value.same value'
  | .compare op left right, .compare op' left' right' =>
    op == op' && left.same left' && right.same right'
  | .and left right, .and left' right' => left.same left' && right.same right'
  | .or left right, .or left' right' => left.same left' && right.same right'
  | .not inner, .not inner' => inner.same inner'
  | _, _ => false

/-- Equality of queries as values. -/
def Query.same : Query → Query → Bool
  | .stub name, .stub name' => name == name'
  | .source s, .source s' => s.same s'
  | .filter input predicate, .filter input' predicate' =>
    input.same input' && predicate.same predicate'
  | .project input fields, .project input' fields' => input.same input' && fields == fields'
  | .navigate input property, .navigate input' property' =>
    input.same input' && property == property'
  | _, _ => false

/-! ### Equality of documents -/

namespace Json

@[simp] theorem same_str (a b : String) : same (.str a) (.str b) = (a == b) := by
  rw [same, Scalar.same]

@[simp] theorem same_list (xs ys : List Json) : same (.list xs) (.list ys) = sameItems xs ys := by
  rw [same]

/-- Lists of texts are the same documents if they are equal lists. -/
@[simp] theorem same_ofStrings (l l' : List String) :
    same (ofStrings l) (ofStrings l') = (l == l') := by
  rw [ofStrings, ofStrings, same_list]
  induction l generalizing l' with
  | nil => cases l' <;> rfl
  | cons a rest ih =>
    cases l' with
    | nil => rfl
    | cons b others =>
      rw [List.map_cons, List.map_cons, sameItems, same_str, ih, List.cons_beq_cons]

/-- Records with the same fields in the same order are compared field by field. -/
@[simp] theorem same_field {name : String} {ms ns : List (String × Json)}
    (hms : name ∉ ms.map (·.1)) (hns : name ∉ ns.map (·.1)) (x y : Json) :
    same (.object ((name, x) :: ms)) (.object ((name, y) :: ns))
      = (x.same y && same (.object ms) (.object ns)) := by
  have hvalues : sameMembers ms ((name, y) :: ns) [name] = sameMembers ms ns [] := by
    rw [Bool.eq_iff_iff, sameMembers_iff, sameMembers_iff]
    refine forall_congr' fun other => ?_
    by_cases heq : other = name
    · simp [heq, Members.get?_eq_none_iff.2 hms]
    · simp [heq, Members.get?_cons]
  have hnames : (ns.all fun n => Members.contains ((name, x) :: ms) n.1)
      = ns.all fun n => Members.contains ms n.1 := by
    rw [Bool.eq_iff_iff, List.all_eq_true, List.all_eq_true]
    refine forall₂_congr fun n hn => ?_
    have hne : n.1 ≠ name := fun heq => hns (List.mem_map.2 ⟨n, hn, heq⟩)
    rw [Members.contains, Members.get?_cons, if_neg hne, Members.contains]
  rw [same, sameMembers, List.all_cons, hvalues, hnames, Members.get?_cons, if_pos rfl, same,
    Members.contains, Members.get?_cons, if_pos rfl]
  simp [Bool.and_assoc]

@[simp] theorem same_noFields : same (.object []) (.object []) = true := rfl

/-- Alternatives are equal if they have one name and equal contents. -/
@[simp] theorem same_alternative (name name' : String) (x y : Json) :
    same (.object [(name, x)]) (.object [(name', y)]) = (name == name' && x.same y) := by
  by_cases h : name = name'
  · subst h
    simp
  · simp [same, sameMembers, Members.get?, Members.contains, List.lookup_cons, List.lookup_nil,
      beq_eq_false_iff_ne.2 h]

end Json

/-! ### Sources -/

namespace Source

/-- Every source is written as an object, so a query that is one is read as an object too. -/
theorem exists_members (s : Source) : ∃ members, s.toDocument.toJson = .object members := by
  cases s <;> exact ⟨_, rfl⟩

/-- Both forms of a source are read back, values included: these are documents already. -/
theorem read_toJson (s : Source) : read s.toDocument.toJson = .ok s := by
  cases s <;> simp [toDocument, read, Tree.readContent, Tree.checkFields_of_nodup]

/-- The documents of two sources are equal as values exactly if the sources are. -/
theorem same_toJson (s s' : Source) :
    s.toDocument.toJson.same s'.toDocument.toJson = s.same s' := by
  cases s <;> cases s' <;>
    simp [toDocument, same, Bool.and_assoc]

end Source

/-! ### Expressions -/

namespace CompareOp

theorem read_name (op : CompareOp) :
    Tree.readChoice choices (Json.str op.name) = .ok op := by
  cases op <;> rfl

theorem name_beq (op op' : CompareOp) : (op.name == op'.name) = (op == op') := by
  cases op <;> cases op' <;> decide

end CompareOp

namespace ScalarExpr

/-- Every scalar expression is written as an object. -/
theorem exists_members (e : ScalarExpr) : ∃ members, e.toDocument.toJson = .object members := by
  cases e <;> exact ⟨_, rfl⟩

/-- A scalar expression is read back, by induction on it: the two operands of a comparison or
connective are themselves expressions. -/
theorem read_toJson (e : ScalarExpr) : read e.toDocument.toJson = .ok e := by
  induction e with
  | property path => simp [toDocument, read]
  | literal value => cases value <;> simp [toDocument, read]
  | compare op left right ihl ihr =>
    simp [toDocument, read, compareFields, ofCompareFields, Tree.checkFields_of_nodup, readFields,
      Members.readField, List.lookup_cons, CompareOp.read_name, ihl, ihr]
  | and left right ihl ihr => simp [toDocument, read, readEach, ihl, ihr]
  | or left right ihl ihr => simp [toDocument, read, readEach, ihl, ihr]
  | not inner ih =>
    -- the reader looks whether the content is an object before it reads it as an expression
    obtain ⟨members, hmembers⟩ := inner.exists_members
    rw [hmembers] at ih
    simp [toDocument, read, hmembers, ih]

/-- The documents of two expressions are equal as values exactly if the expressions are. -/
theorem same_toJson (e e' : ScalarExpr) :
    e.toDocument.toJson.same e'.toDocument.toJson = e.same e' := by
  -- the second expression varies with the first: the operands are compared pairwise
  induction e generalizing e' with
  | property path => cases e' <;> simp [toDocument, same]
  | literal value => cases e' <;> simp [toDocument, same]
  | compare op left right ihl ihr =>
    cases e' <;> simp [toDocument, same, CompareOp.name_beq, ihl, ihr, Bool.and_assoc]
  | and left right ihl ihr => cases e' <;> simp [toDocument, same, Json.sameItems, ihl, ihr]
  | or left right ihl ihr => cases e' <;> simp [toDocument, same, Json.sameItems, ihl, ihr]
  | not inner ih => cases e' <;> simp [toDocument, same, ih]

end ScalarExpr

/-! ### Queries -/

namespace Query

/-- A query is read back, by induction on it. -/
theorem read_toJson (q : Query) : read q.toJson = .ok q := by
  rw [toJson]
  induction q with
  | stub name => simp [toDocument, read, fieldNames, ofFields, Tree.checkFields_of_nodup]
  | source s =>
    obtain ⟨members, hmembers⟩ := s.exists_members
    have hs := s.read_toJson
    rw [hmembers] at hs
    simp [toDocument, read, hmembers, hs]
  | filter input predicate ih =>
    simp [toDocument, read, fieldNames, ofFields, Tree.checkFields_of_nodup, readFields,
      Members.readField, ScalarExpr.read_toJson, ih]
  | project input fields ih =>
    simp [toDocument, read, fieldNames, ofFields, Tree.checkFields_of_nodup, readFields,
      Members.readField, ih]
  | navigate input property ih =>
    simp [toDocument, read, fieldNames, ofFields, Tree.checkFields_of_nodup, readFields,
      Members.readField, ih]

/-- The documents of two queries are equal as values exactly if the queries are. -/
theorem same_toJson (q q' : Query) : q.toJson.same q'.toJson = q.same q' := by
  rw [toJson, toJson]
  -- queries of different forms differ in the name of their alternative; of one form, their inputs
  -- are compared by the induction hypothesis
  induction q generalizing q' with
  | stub name => cases q' <;> simp [toDocument, same]
  | source s => cases q' <;> simp [toDocument, same, Source.same_toJson]
  | filter input predicate ih =>
    cases q' <;> simp [toDocument, same, ScalarExpr.same_toJson, ih]
  | project input fields ih =>
    cases q' <;> simp [toDocument, same, ih]
  | navigate input property ih =>
    cases q' <;> simp [toDocument, same, ih]

/-- **A query is what its document says.** Every query is read back from its document, so different
queries have different documents; and documents are equal as JSON values exactly if their queries
are equal as values. -/
theorem toJson_faithful :
    (∀ q : Query, read q.toJson = .ok q) ∧ Function.Injective toJson ∧
      ∀ q q' : Query, q.toJson.same q'.toJson = q.same q' := by
  refine ⟨read_toJson, fun q q' heq => ?_, same_toJson⟩
  have hread : read q.toJson = .ok q' := by
    rw [heq]
    exact read_toJson q'
  exact Except.ok.inj ((read_toJson q).symm.trans hread)

end Query

end FacetModel
