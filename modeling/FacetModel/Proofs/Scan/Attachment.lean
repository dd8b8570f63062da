import FacetModel.Scan.Operations
import Mathlib.Data.List.Forall2

/-!
# The operations of marked methods

What a marked method becomes is decided by its declared types and by the entity types and entity
sets of the builder. `Builder.Attaches` says it case by case: what the operation is called on
(`Builder.CalledWith`), its parameters (`Unwraps`) and what it returns (`Builder.Returns`). Each
method has just one such operation, apart from bound methods that have nothing to be called on
(`Builder.Excludes`), which have none. The builder gets these operations in the order of their
methods, and nothing else (`Builder.attachOperationsCounting_exact`).
-/

namespace FacetModel

/-! ### What operations are -/

/-- The parameter of an operation has the name of a declared one. A sequence is unwrapped once and
marked as a collection, and any other type stays what it is. -/
inductive Unwraps (p : ParameterDeclaration) : OperationParameter → Prop
  | element {element : DeclaredType} (hsequence : p.type.IsSequenceOf element) :
      Unwraps p { name := p.name, type := element, isCollection := true }
  | same (hsingle : ∀ element, ¬ p.type.IsSequenceOf element) :
      Unwraps p { name := p.name, type := p.type, isCollection := false }

namespace Builder

/-- A type refers to a registered entity type. -/
def RefersTo (b : Builder) (t : DeclaredType) (entity : String) : Prop :=
  t = .reference entity ∧ b.isEntityType entity = true

/-- What a marked method is called on, and its other parameters. -/
inductive CalledWith (b : Builder) (s : ScannedOperation) :
    OperationBinding → List ParameterDeclaration → Prop
  | unbound (hbound : s.isBound = false) : CalledWith b s .unbound s.parameters
  | entity {p : ParameterDeclaration} {rest : List ParameterDeclaration} {entity : String}
      (hbound : s.isBound = true) (hparameters : s.parameters = p :: rest)
      (hentity : b.RefersTo p.type entity) : CalledWith b s (.entity entity) rest
  | entityCollection {p : ParameterDeclaration} {rest : List ParameterDeclaration}
      {element : DeclaredType} {entity : String} (hbound : s.isBound = true)
      (hparameters : s.parameters = p :: rest) (hsequence : p.type.IsSequenceOf element)
      (hentity : b.RefersTo element entity) : CalledWith b s (.entityCollection entity) rest

/-- The entity set that returned entities come from: the one that a marker names, or else the first
one of their type. -/
inductive ComeFrom (b : Builder) (hint : Option String) (entity : String) : Option String → Prop
  | hinted {name : String} (hhint : hint = some name) : ComeFrom b hint entity (some name)
  | first {before after : List EntitySet} {set : EntitySet} (hhint : hint = none)
      (hsets : b.entitySets = before ++ set :: after) (htype : set.elementType = entity)
      (hbefore : ∀ other ∈ before, other.elementType ≠ entity) :
      ComeFrom b hint entity (some set.name)
  | nowhere (hhint : hint = none) (hsets : ∀ set ∈ b.entitySets, set.elementType ≠ entity) :
      ComeFrom b hint entity none

/-- What a method with some declared result returns. -/
inductive Returns (b : Builder) (hint : Option String) (t : DeclaredType) :
    Option ReturnShape → Prop
  | void (hvoid : t = .void) : Returns b hint t none
  | single (hvoid : t ≠ .void) (hsingle : ∀ element, ¬ t.IsSequenceOf element)
      (hother : ∀ entity, ¬ b.RefersTo t entity) : Returns b hint t (some (.single t))
  | collection {element : DeclaredType} (hsequence : t.IsSequenceOf element)
      (hother : ∀ entity, ¬ b.RefersTo element entity) :
      Returns b hint t (some (.collection element))
  | entity {entity : String} {set? : Option String} (hentity : b.RefersTo t entity)
      (hset : b.ComeFrom hint entity set?) : Returns b hint t (set?.map (.entity entity))
  | entityCollection {element : DeclaredType} {entity : String} {set? : Option String}
      (hsequence : t.IsSequenceOf element) (hentity : b.RefersTo element entity)
      (hset : b.ComeFrom hint entity set?) : Returns b hint t (set?.map (.entityCollection entity))

/-- An operation is that of a marked method. -/
structure Attaches (b : Builder) (s : ScannedOperation) (o : Operation) : Prop where
  name : o.name = s.name
  namespaceName : o.namespaceName = s.namespaceName.getD b.namespaceName
  kind : o.kind = if s.hasSideEffects then .action else .function
  call : ∃ rest, b.CalledWith s o.binding rest ∧ List.Forall₂ Unwraps rest o.parameters
  isComposable : o.isComposable = true ↔ o.kind = .function ∧ s.isComposable = true
  returns : b.Returns s.entitySet s.returns o.returnShape
  /-- There is no result, or one with entities of no known entity set. -/
  returnsNothing : o.returnShape = none ↔ s.returns = .void ∨
    ∃ entity, (b.RefersTo s.returns entity ∨
        ∃ element, s.returns.IsSequenceOf element ∧ b.RefersTo element entity) ∧
      s.entitySet = none ∧ ∀ set ∈ b.entitySets, set.elementType ≠ entity

/-- A marked method has no operation: it is bound, and has no first parameter, or one of a type that
neither refers to a registered entity type nor is that of sequences of such references. -/
def Excludes (b : Builder) (s : ScannedOperation) : Prop :=
  s.isBound = true ∧
    (s.parameters = [] ∨ ∃ p rest, s.parameters = p :: rest ∧ ∀ entity,
      ¬ b.RefersTo p.type entity ∧
        ∀ element, p.type.IsSequenceOf element → ¬ b.RefersTo element entity)

variable {b : Builder} {s : ScannedOperation} {o : Operation} {t : DeclaredType} {entity : String}
  {hint : Option String}

/-- A type names an entity if it is a reference to a type that is registered as one. -/
theorem entityName?_eq_some_iff : b.entityName? t = some entity ↔ b.RefersTo t entity := by
  rw [entityName?, Option.filter_eq_some_iff, DeclaredType.referenceName?_eq_some_iff, RefersTo]

theorem entityName?_eq_none_iff : b.entityName? t = none ↔ ∀ entity, ¬ b.RefersTo t entity := by
  simp only [← entityName?_eq_some_iff, Option.eq_none_iff_forall_ne_some, ne_eq]

/-- A reference is no sequence. -/
theorem RefersTo.sequenceElement? (h : b.RefersTo t entity) : t.sequenceElement? = none := by
  rw [h.1]
  rfl

theorem RefersTo.isVoid (h : b.RefersTo t entity) : t.isVoid = false := by
  rw [h.1]
  rfl

/-! ### What operations are called on -/

/-- A parameter is unwrapped in one way: a sequence to its element, any other type to itself. -/
theorem unwraps_iff {p : ParameterDeclaration} {q : OperationParameter} :
    Unwraps p q ↔ parameterOf p = q := by
  rw [parameterOf]
  constructor
  · rintro (hsequence | hsingle)
    · rw [DeclaredType.sequenceElement?_eq_some_iff.2 hsequence]
    · rw [DeclaredType.sequenceElement?_eq_none_iff.2 hsingle]
  · rintro rfl
    cases h : p.type.sequenceElement? with
    | none => exact .same (DeclaredType.sequenceElement?_eq_none_iff.1 h)
    | some element => exact .element (DeclaredType.sequenceElement?_eq_some_iff.1 h)

/-- So are all parameters of an operation. -/
theorem forall₂_unwraps_iff {parameters : List ParameterDeclaration}
    {unwrapped : List OperationParameter} :
    List.Forall₂ Unwraps parameters unwrapped ↔ parameters.map parameterOf = unwrapped := by
  have hunwraps : Unwraps = fun p q => parameterOf p = q := by
    funext p q
    exact propext unwraps_iff
  rw [hunwraps, ← List.forall₂_map_left_iff, List.forall₂_eq_eq_eq]

/-- A first parameter binds an operation to an entity or to a collection of entities, by what it
refers to. -/
theorem operationBinding?_eq_some_iff {binding : OperationBinding} :
    b.operationBinding? t = some binding ↔
      (∃ entity, b.RefersTo t entity ∧ binding = .entity entity) ∨
      ∃ element entity, t.IsSequenceOf element ∧ b.RefersTo element entity ∧
        binding = .entityCollection entity := by
  rw [operationBinding?]
  cases hsequence : t.sequenceElement? with
  | some element =>
    have helement := DeclaredType.sequenceElement?_eq_some_iff.1 hsequence
    simp only [Option.map_eq_some_iff, entityName?_eq_some_iff]
    constructor
    · rintro ⟨entity, hentity, rfl⟩
      exact .inr ⟨element, entity, helement, hentity, rfl⟩
    · rintro (⟨entity, hentity, -⟩ | ⟨other, entity, hother, hentity, rfl⟩)
      · -- a reference is no sequence
        simp [hentity.sequenceElement?] at hsequence
      · obtain rfl : element = other := by
          simpa [hsequence] using DeclaredType.sequenceElement?_eq_some_iff.2 hother
        exact ⟨entity, hentity, rfl⟩
  | none =>
    have hsingle := DeclaredType.sequenceElement?_eq_none_iff.1 hsequence
    simp only [Option.map_eq_some_iff, entityName?_eq_some_iff]
    constructor
    · rintro ⟨entity, hentity, rfl⟩
      exact .inl ⟨entity, hentity, rfl⟩
    · rintro (⟨entity, hentity, rfl⟩ | ⟨element, entity, helement, -, -⟩)
      · exact ⟨entity, hentity, rfl⟩
      · exact absurd helement (hsingle element)

/-- A method has an operation when there is something to call it on. -/
theorem operationOf?_eq_some_iff : b.operationOf? s = some o ↔
    ∃ binding rest, b.CalledWith s binding rest ∧ b.operationWith s binding rest = o := by
  rw [operationOf?]
  constructor
  · intro h
    split at h
    case isTrue hbound =>
      cases hparameters : s.parameters with
      | nil => simp [hparameters] at h
      | cons p rest =>
        simp only [hparameters, Option.map_eq_some_iff, operationBinding?_eq_some_iff] at h
        obtain ⟨binding, ⟨entity, hentity, rfl⟩ | ⟨element, entity, hsequence, hentity, rfl⟩, rfl⟩ :=
          h
        · exact ⟨_, rest, .entity hbound hparameters hentity, rfl⟩
        · exact ⟨_, rest, .entityCollection hbound hparameters hsequence hentity, rfl⟩
    case isFalse hbound =>
      exact ⟨_, _, .unbound (by simpa using hbound), Option.some.inj h⟩
  · rintro ⟨binding, rest, hcall, rfl⟩
    cases hcall with
    | unbound hbound => simp [hbound]
    | entity hbound hparameters hentity =>
      simp only [hbound, hparameters, if_true, Option.map_eq_some_iff, operationBinding?_eq_some_iff]
      exact ⟨_, .inl ⟨_, hentity, rfl⟩, rfl⟩
    | entityCollection hbound hparameters hsequence hentity =>
      simp only [hbound, hparameters, if_true, Option.map_eq_some_iff, operationBinding?_eq_some_iff]
      exact ⟨_, .inr ⟨_, _, hsequence, hentity, rfl⟩, rfl⟩

/-- A method has no operation if it is to be bound and its first parameter, if there is one, refers
to no entity. -/
theorem operationOf?_eq_none_iff : b.operationOf? s = none ↔ b.Excludes s := by
  rw [operationOf?, Excludes]
  cases hbound : s.isBound with
  | false => simp
  | true =>
    cases hparameters : s.parameters with
    | nil => simp
    | cons p rest =>
      simp only [if_true, Option.map_eq_none_iff, true_and, reduceCtorEq, false_or]
      -- a bound method with a first parameter is excluded if no binding suits that
      rw [Option.eq_none_iff_forall_ne_some]
      simp only [ne_eq, operationBinding?_eq_some_iff]
      constructor
      · intro h
        refine ⟨p, rest, rfl, fun entity => ⟨fun hentity => ?_, fun element hsequence hentity => ?_⟩⟩
        · exact h _ (.inl ⟨entity, hentity, rfl⟩)
        · exact h _ (.inr ⟨element, entity, hsequence, hentity, rfl⟩)
      · rintro ⟨_, _, ⟨⟩, h⟩ binding (⟨entity, hentity, -⟩ | ⟨element, entity, hsequence, hentity, -⟩)
        · exact (h entity).1 hentity
        · exact (h entity).2 element hsequence hentity

instance : DecidablePred b.Excludes := fun _ => decidable_of_iff _ operationOf?_eq_none_iff

/-! ### What operations return -/

/-- The entity set of what is returned is the hinted one, or else the first one of the type. -/
theorem comeFrom_iff {set? : Option String} :
    b.ComeFrom hint entity set? ↔ b.returnedSet? hint entity = set? := by
  rw [returnedSet?]
  constructor
  · intro h
    cases h with
    | hinted hhint => rw [hhint]; rfl
    | first hhint hsets htype hbefore =>
      have hfind : b.entitySets.find? (·.elementType == entity) = some _ :=
        List.find?_eq_some_iff_append.2 ⟨by simpa using htype, _, _, hsets, by simpa using hbefore⟩
      rw [hhint, hfind]
      rfl
    | nowhere hhint hsets =>
      have hfind : b.entitySets.find? (·.elementType == entity) = none := by simpa using hsets
      rw [hhint, hfind]
      rfl
  · rintro rfl
    cases hint with
    | some name => exact .hinted rfl
    | none =>
      -- without a hint it is the first entity set of the type, if there is one
      cases hfind : b.entitySets.find? (·.elementType == entity) with
      | some set =>
        obtain ⟨htype, before, after, hsets, hbefore⟩ := List.find?_eq_some_iff_append.1 hfind
        exact .first rfl hsets (by simpa using htype) (by simpa using hbefore)
      | none => exact .nowhere rfl (by simpa using hfind)

/-- The result of an operation is determined by the type that its method returns and by the hint. -/
theorem returns_iff {shape? : Option ReturnShape} :
    b.Returns hint t shape? ↔ b.returnShape? hint t = shape? := by
  rw [returnShape?]
  constructor
  · intro h
    cases h with
    | void hvoid =>
      rw [if_pos (DeclaredType.isVoid_iff.2 hvoid)]
    | single hvoid hsingle hother =>
      rw [if_neg (DeclaredType.isVoid_iff.not.2 hvoid),
        DeclaredType.sequenceElement?_eq_none_iff.2 hsingle, entityName?_eq_none_iff.2 hother]
    | collection hsequence hother =>
      rw [if_neg (by simp [hsequence.isVoid]),
        DeclaredType.sequenceElement?_eq_some_iff.2 hsequence]
      simp [entityName?_eq_none_iff.2 hother]
    | entity hentity hset =>
      rw [if_neg (by simp [hentity.isVoid]), hentity.sequenceElement?,
        entityName?_eq_some_iff.2 hentity, ← comeFrom_iff.1 hset]
    | entityCollection hsequence hentity hset =>
      rw [if_neg (by simp [hsequence.isVoid]),
        DeclaredType.sequenceElement?_eq_some_iff.2 hsequence]
      simp [entityName?_eq_some_iff.2 hentity, comeFrom_iff.1 hset]
  · rintro rfl
    split
    case isTrue hvoid => exact .void (DeclaredType.isVoid_iff.1 hvoid)
    case isFalse hvoid =>
      split
      case h_1 element hsequence =>
        have hsequence := DeclaredType.sequenceElement?_eq_some_iff.1 hsequence
        split
        case h_1 hother => exact .collection hsequence (entityName?_eq_none_iff.1 hother)
        case h_2 entity hentity =>
          exact .entityCollection hsequence (entityName?_eq_some_iff.1 hentity) (comeFrom_iff.2 rfl)
      case h_2 hsingle =>
        have hsingle := DeclaredType.sequenceElement?_eq_none_iff.1 hsingle
        split
        case h_1 hother =>
          exact .single (DeclaredType.isVoid_iff.not.1 hvoid) hsingle
            (entityName?_eq_none_iff.1 hother)
        case h_2 entity hentity =>
          exact .entity (entityName?_eq_some_iff.1 hentity) (comeFrom_iff.2 rfl)

/-- Entities come from nowhere exactly if no set is hinted and none has their type. -/
theorem comeFrom_none_iff : b.ComeFrom hint entity none ↔
    hint = none ∧ ∀ set ∈ b.entitySets, set.elementType ≠ entity := by
  constructor
  · rintro (_ | _ | ⟨hhint, hsets⟩)
    exact ⟨hhint, hsets⟩
  · rintro ⟨hhint, hsets⟩
    exact .nowhere hhint hsets

/-- There is no result without one in the method, and none that comes from no entity set. -/
theorem returns_none_iff : b.Returns hint t none ↔ t = .void ∨
    ∃ entity,
      (b.RefersTo t entity ∨ ∃ element, t.IsSequenceOf element ∧ b.RefersTo element entity) ∧
      b.ComeFrom hint entity none := by
  constructor
  · intro h
    -- the cases are split for any result, as two of them leave it to the entity set whether there
    -- is one
    generalize hshape : none = shape? at h
    cases h with
    | void hvoid => exact .inl hvoid
    | single | collection => cases hshape
    | entity hentity hset =>
      obtain rfl := Option.map_eq_none_iff.1 hshape.symm
      exact .inr ⟨_, .inl hentity, hset⟩
    | entityCollection hsequence hentity hset =>
      obtain rfl := Option.map_eq_none_iff.1 hshape.symm
      exact .inr ⟨_, .inr ⟨_, hsequence, hentity⟩, hset⟩
  · rintro (hvoid | ⟨entity, hentity | ⟨element, hsequence, hentity⟩, hset⟩)
    · exact .void hvoid
    · exact .entity hentity hset
    · exact .entityCollection hsequence hentity hset

/-! ### The operations that are added -/

/-- The operation that a method should have is the one that is made for it. -/
theorem attaches_iff : b.Attaches s o ↔ b.operationOf? s = some o := by
  rw [operationOf?_eq_some_iff]
  constructor
  · intro h
    obtain ⟨rest, hcall, hparameters⟩ := h.call
    refine ⟨o.binding, rest, hcall, ?_⟩
    have hcomposable : o.isComposable = (!s.hasSideEffects && s.isComposable) := by
      rw [Bool.eq_iff_iff, h.isComposable, h.kind]
      cases s.hasSideEffects <;> simp
    rw [operationWith, ← h.name, ← h.namespaceName, ← h.kind, ← hcomposable,
      forall₂_unwraps_iff.1 hparameters, returns_iff.1 h.returns]
  · rintro ⟨binding, rest, hcall, rfl⟩
    have hreturns : b.Returns s.entitySet s.returns (b.returnShape? s.entitySet s.returns) :=
      returns_iff.2 rfl
    exact {
      name := rfl
      namespaceName := rfl
      kind := rfl
      call := ⟨rest, hcall, forall₂_unwraps_iff.2 rfl⟩
      isComposable := by cases hkind : s.hasSideEffects <;> simp [operationWith, hkind]
      returns := hreturns
      returnsNothing := by
        simp only [← comeFrom_none_iff, ← returns_none_iff, returns_iff]
        rfl }

/-- One step of attaching adds the operation of its method, if there is one. -/
theorem attachCounting_append (added : List Operation) (s : ScannedOperation) :
    attachCounting ({ b with operations := b.operations ++ added }, added.length) s =
      ({ b with operations := b.operations ++ (added ++ (b.operationOf? s).toList) },
        (added ++ (b.operationOf? s).toList).length) := by
  have hsame : operationOf? { b with operations := b.operations ++ added } s = b.operationOf? s :=
    rfl
  rw [attachCounting, hsame]
  cases b.operationOf? s with
  | none => simp
  | some o => simp [addOperation]

/-- What is attached depends on the builder before it, as operations do not matter for operations.
-/
theorem foldl_attachCounting (scanned : List ScannedOperation) (added : List Operation) :
    scanned.foldl attachCounting ({ b with operations := b.operations ++ added }, added.length) =
      ({ b with operations := b.operations ++ (added ++ scanned.filterMap b.operationOf?) },
        (added ++ scanned.filterMap b.operationOf?).length) := by
  induction scanned generalizing added with
  | nil => simp
  | cons s rest ih =>
    -- the builder stays `b` with some more operations, and these do not show in what is attached
    rw [List.foldl_cons, attachCounting_append, ih, List.append_assoc]
    cases h : b.operationOf? s <;> simp [h]

/-- All operations are attached in one pass, and counted on the way. -/
theorem attachOperationsCounting_eq (scanned : List ScannedOperation) :
    b.attachOperationsCounting scanned =
      (b.attachOperations scanned, (scanned.filterMap b.operationOf?).length) := by
  simpa [attachOperationsCounting, attachOperations] using foldl_attachCounting (b := b) scanned []

/-- The methods that are not excluded have one operation each. -/
theorem forall₂_attaches_iff {scanned : List ScannedOperation} {operations : List Operation} :
    List.Forall₂ b.Attaches (scanned.filter fun s => ¬ b.Excludes s) operations ↔
      scanned.filterMap b.operationOf? = operations := by
  simp only [← operationOf?_eq_none_iff]
  induction scanned generalizing operations with
  | nil => simp [eq_comm]
  | cons s rest ih =>
    cases h : b.operationOf? s with
    | none => simpa [h] using ih
    | some o =>
      cases operations with
      | nil => simp [h]
      | cons other others => simp [h, attaches_iff, ← ih]

/-- Attaching is exact: the builder gets the operations of the marked methods that are not excluded,
each its own and in the order of the methods, and nothing else changes. Their number is returned. -/
theorem attachOperationsCounting_exact (b : Builder) (scanned : List ScannedOperation) :
    ∃ added, b.attachOperationsCounting scanned = (b.attachOperations scanned, added.length) ∧
      b.attachOperations scanned = { b with operations := b.operations ++ added } ∧
      ∀ operations, List.Forall₂ b.Attaches (scanned.filter fun s => ¬ b.Excludes s) operations ↔
        operations = added :=
  ⟨scanned.filterMap b.operationOf?, attachOperationsCounting_eq scanned, rfl, fun _ =>
    forall₂_attaches_iff.trans eq_comm⟩

end Builder

end FacetModel
