import FacetModel.Builder
import Mathlib.Logic.Relation

/-!
# The hierarchy of types under construction

A type is a type from which its base types lead to it, in any number of steps (`Builder.IsA`).
What `Builder.ancestors` lists comes above a type, and what `Builder.derivedTypes` lists below it.
Nothing else is above or below it, apart from the type itself (`isA_iff_mem_ancestors`,
`isA_iff_mem_derivedTypes`). All this holds whatever the base types are, also where they lead back
to a type.
-/

namespace FacetModel

namespace Builder

variable {b : Builder} {name other : String}

/-- A registered type has a base type. -/
def HasBase (b : Builder) (name base : String) : Prop := b.baseTypeOf? name = some base

/-- Base types lead from a type to another one, or both are the same. -/
def IsA (b : Builder) : String → String → Prop := Relation.ReflTransGen b.HasBase

theorem hasBase_iff {base : String} :
    b.HasBase name base ↔ ∃ p, b.types.get? name = some p ∧ p.baseType = some base :=
  Option.bind_eq_some_iff

/-! ### The walk upwards -/

theorem ancestorsFrom_of_none (h : b.baseTypeOf? name = none) (met : List String) :
    b.ancestorsFrom met name = [] := by
  rw [ancestorsFrom]
  split
  · rfl
  · rename_i hsome
    cases h.symm.trans hsome

/-- One step upwards, which ends the walk at a type that was met. -/
theorem ancestorsFrom_of_some {base : String} (h : b.baseTypeOf? name = some base)
    (met : List String) :
    b.ancestorsFrom met name
      = if base ∈ met then [] else base :: b.ancestorsFrom (base :: met) base := by
  rw [ancestorsFrom]
  split
  · rename_i hnone
    cases h.symm.trans hnone
  · rename_i hsome
    cases h.symm.trans hsome
    rfl

/-- The walk upwards comes to types of which the first one is. -/
theorem mem_ancestorsFrom {met : List String} (h : other ∈ b.ancestorsFrom met name) :
    b.IsA name other := by
  induction met, name using ancestorsFrom.induct b with
  | case1 met name hnone =>
    rw [ancestorsFrom_of_none hnone] at h
    cases h
  | case2 met name base hbase hmet =>
    rw [ancestorsFrom_of_some hbase, if_pos hmet] at h
    cases h
  | case3 met name base hbase hmet ih =>
    rw [ancestorsFrom_of_some hbase, if_neg hmet] at h
    rcases List.mem_cons.1 h with rfl | h
    · exact .single hbase
    · exact (ih h).head hbase

/-- What is listed above a type are types that it is. -/
theorem isA_of_mem_ancestors (h : other ∈ b.ancestors name) : b.IsA name other :=
  mem_ancestorsFrom h

/-! ### The search downwards -/

theorem hasBase_of_mem_childrenOf {base : String} (h : name ∈ b.childrenOf base) :
    b.HasBase name base := by
  obtain ⟨⟨key, p⟩, hmem, rfl⟩ := List.mem_map.1 h
  obtain ⟨hentry, hbase⟩ := List.mem_filter.1 hmem
  exact hasBase_iff.2 ⟨p, (b.types.get?_eq_some_iff _ _).2 hentry, eq_of_beq hbase⟩

/-- The search downwards: if all that is found and all that waits is of a type, so is the result. -/
theorem mem_derivedFrom {root : String} {found queue : List String}
    (hfound : ∀ n ∈ found, b.IsA n root) (hqueue : ∀ n ∈ queue, b.IsA n root)
    (h : other ∈ b.derivedFrom root found queue) : b.IsA other root := by
  induction found, queue using derivedFrom.induct b root with
  | case1 found =>
    rw [derivedFrom] at h
    exact hfound other h
  | case2 found parent queue children ih =>
    rw [derivedFrom] at h
    obtain ⟨hparent, hqueue⟩ := List.forall_mem_cons.1 hqueue
    have hchildren : ∀ n ∈ children, b.IsA n root := fun n hn =>
      hparent.head (hasBase_of_mem_childrenOf (List.mem_filter.1 hn).1)
    exact ih (List.forall_mem_append.2 ⟨hfound, hchildren⟩)
      (List.forall_mem_append.2 ⟨hqueue, hchildren⟩) h

/-- What is listed below a type are types that are of it. -/
theorem isA_of_mem_derivedTypes (h : other ∈ b.derivedTypes name) : b.IsA other name :=
  mem_derivedFrom (List.forall_mem_nil _) (List.forall_mem_singleton.2 .refl) h

/-! ### Nothing is left out -/

/-- The walk upwards: if each name that was met has its base type among these names, apart from the
last one, then each has in the end. -/
theorem mem_of_hasBase_ancestorsFrom {met : List String}
    (hmet : ∀ n ∈ met, n ≠ name → ∀ base, b.HasBase n base → base ∈ met) :
    ∀ n ∈ met ++ b.ancestorsFrom met name, ∀ base, b.HasBase n base →
      base ∈ met ++ b.ancestorsFrom met name := by
  induction met, name using ancestorsFrom.induct b with
  | case1 met name hnone =>
    rw [ancestorsFrom_of_none hnone, List.append_nil]
    intro n hn base hbase
    refine hmet n hn (fun heq => ?_) base hbase
    cases hnone.symm.trans (heq ▸ hbase)
  | case2 met name above habove hmem =>
    rw [ancestorsFrom_of_some habove, if_pos hmem, List.append_nil]
    intro n hn base hbase
    by_cases heq : n = name
    · -- the base type of the last one was met before, so the walk ends here
      cases habove.symm.trans (heq ▸ hbase)
      exact hmem
    · exact hmet n hn heq base hbase
  | case3 met name above habove hmem ih =>
    have hclosed := ih fun n hn hne base hbase => by
      have hn := (List.mem_cons.1 hn).resolve_left hne
      by_cases heq : n = name
      · cases habove.symm.trans (heq ▸ hbase)
        exact List.mem_cons_self
      · exact List.mem_cons_of_mem above (hmet n hn heq base hbase)
    intro n hn base hbase
    rw [ancestorsFrom_of_some habove, if_neg hmem, List.perm_middle.mem_iff] at hn ⊢
    exact hclosed n hn base hbase

/-- **Types above a type** are itself and those that are listed. -/
theorem isA_iff_mem_ancestors : b.IsA name other ↔ other = name ∨ other ∈ b.ancestors name := by
  constructor
  · intro h
    have hmet : ∀ n ∈ [name], n ≠ name → ∀ base, b.HasBase n base → base ∈ [name] :=
      fun n hn hne => absurd (List.mem_singleton.1 hn) hne
    have hclosed := mem_of_hasBase_ancestorsFrom hmet
    have hmem : other ∈ [name] ++ b.ancestorsFrom [name] name := by
      -- what was met is closed under base types in the end, so no path leads out of it
      induction h with
      | refl => exact List.mem_append_left _ List.mem_cons_self
      | tail _ hbase ih => exact hclosed _ ih _ hbase
    exact (List.mem_append.1 hmem).imp_left List.mem_singleton.1
  · rintro (rfl | h)
    · exact .refl
    · exact isA_of_mem_ancestors h

/-- Children of a type are just the registered types with this base type. -/
theorem mem_childrenOf_iff {base : String} : name ∈ b.childrenOf base ↔ b.HasBase name base := by
  refine ⟨hasBase_of_mem_childrenOf, fun h => ?_⟩
  obtain ⟨p, hp, hbase⟩ := hasBase_iff.1 h
  refine List.mem_map.2 ⟨(name, p), List.mem_filter.2 ⟨?_, ?_⟩, rfl⟩
  · exact (b.types.get?_eq_some_iff name p).1 hp
  · exact beq_iff_eq.2 hbase

/-- The search downwards: if each type has its children among those found, apart from the types that
wait, then each has in the end. -/
theorem mem_of_hasBase_derivedFrom {root : String} {found queue : List String}
    (hfound : ∀ n ∈ root :: found, n ∈ queue ∨ ∀ child, b.HasBase child n → child ∈ root :: found) :
    ∀ n ∈ root :: b.derivedFrom root found queue, ∀ child, b.HasBase child n →
      child ∈ root :: b.derivedFrom root found queue := by
  induction found, queue using derivedFrom.induct b root with
  | case1 found =>
    rw [derivedFrom]
    exact fun n hn => (hfound n hn).resolve_left List.not_mem_nil
  | case2 found parent queue children ih =>
    rw [derivedFrom]
    refine ih fun n hn => ?_
    rw [← List.cons_append, List.mem_append] at hn
    rcases hn with hn | hchild
    · rcases hfound n hn with hwaits | hdone
      · rcases List.mem_cons.1 hwaits with rfl | hwaits
        · -- the children of the type that is looked at are found now
          refine .inr fun child hchild => ?_
          rw [← List.cons_append, List.mem_append]
          by_cases hold : child ∈ root :: found
          · exact .inl hold
          · rw [List.mem_cons, not_or] at hold
            exact .inr (List.mem_filter.2 ⟨mem_childrenOf_iff.2 hchild, decide_eq_true hold⟩)
        · exact .inl (List.mem_append_left _ hwaits)
      · refine .inr fun child hchild => ?_
        rw [← List.cons_append]
        exact List.mem_append_left _ (hdone child hchild)
    · exact .inl (List.mem_append_right _ hchild)

/-- **Types below a type** are itself and those that are listed. -/
theorem isA_iff_mem_derivedTypes :
    b.IsA other name ↔ other = name ∨ other ∈ b.derivedTypes name := by
  constructor
  · intro h
    have hfound : ∀ n ∈ [name], n ∈ [name] ∨ ∀ child, b.HasBase child n → child ∈ [name] :=
      fun n hn => .inl hn
    have hclosed := mem_of_hasBase_derivedFrom hfound
    have hmem : other ∈ name :: b.derivedFrom name [] [name] := by
      -- what was found is closed under children, so the induction begins at the upper end of the
      -- path
      induction h using Relation.ReflTransGen.head_induction_on with
      | refl => exact List.mem_cons_self
      | head hbase _ ih => exact hclosed _ ih _ hbase
    exact List.mem_cons.1 hmem
  · rintro (rfl | h)
    · exact .refl
    · exact isA_of_mem_derivedTypes h

end Builder

end FacetModel
