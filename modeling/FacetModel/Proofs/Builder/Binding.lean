import FacetModel.Proofs.Builder.Hierarchy
import FacetModel.Proofs.Builder.Soundness

/-!
# Where bindings come from

Binding a builder visits its crossings one after the other. A binding belongs to a facet, a type and
the name of a property (`NavigationBinding.key`), and what decides about such a triple is the first
of its crossings that has an only target (`exists_added_counting`).

So bindings are appended, and nothing else is changed. Each new binding belongs to a navigation
property that can be followed from a facet, and leads into the only facet of the wanted kind with
entities of its target type (`exists_added_bind`).
-/

namespace FacetModel

/-- Whether a facet is a singleton. -/
def FacetRef.isSingleton : FacetRef → Bool
  | .entitySet _ => false
  | .singleton _ => true

/-- What a binding is found by. -/
def NavigationBinding.key (n : NavigationBinding) : FacetRef × String × String :=
  (n.source, n.declaringType, n.property)

/-- A binding is what it is found by together with its target. -/
theorem NavigationBinding.ext_key {n m : NavigationBinding} (hkey : n.key = m.key)
    (htarget : n.target = m.target) : n = m := by
  obtain ⟨hsource, htype, hproperty⟩ : _ ∧ _ ∧ _ := by simpa [key] using hkey
  cases n
  cases m
  cases hsource
  cases htype
  cases hproperty
  cases htarget
  rfl

namespace Builder

variable {b : Builder}

/-! ### One crossing after the other -/

/-- The target of a navigation property that has just one. -/
def onlyTarget? (b : Builder) (n : NavigationProperty) : Option FacetRef :=
  match b.targets n with
  | [target] => some target
  | _ => none

theorem onlyTarget?_eq_some_iff {n : NavigationProperty} {target : FacetRef} :
    b.onlyTarget? n = some target ↔ b.targets n = [target] := by
  rw [onlyTarget?]
  split
  · rename_i other heq
    rw [heq, List.cons.injEq, Option.some.injEq]
    exact (and_iff_left rfl).symm
  · rename_i hmany
    exact ⟨nofun, fun heq => absurd heq (hmany target)⟩

/-- The binding of a crossing to a facet. -/
def Crossing.to (c : Crossing) (target : FacetRef) : NavigationBinding :=
  { source := c.source, declaringType := c.declaringType, property := c.navigation.name, target }

/-- What a binding of a crossing is found by. -/
def Crossing.key (c : Crossing) : FacetRef × String × String :=
  (c.source, c.declaringType, c.navigation.name)

theorem hasBinding_iff {source : FacetRef} {type property : String} :
    b.hasBinding source type property = true ↔
      (source, type, property) ∈ b.bindings.map NavigationBinding.key := by
  simp [hasBinding, NavigationBinding.key, and_assoc]

/-- A crossing that is bound, or has several targets or none, changes nothing. -/
theorem bindCrossingCounting_of_skip {c : Crossing} {count : Nat}
    (h : c.key ∈ b.bindings.map NavigationBinding.key ∨ b.onlyTarget? c.navigation = none) :
    bindCrossingCounting (b, count) c = (b, count) := by
  rw [bindCrossingCounting]
  split
  · rfl
  · rename_i hbound
    have hnone := h.resolve_left fun hmem => hbound (hasBinding_iff.2 hmem)
    split
    · rename_i target htargets
      cases (onlyTarget?_eq_some_iff.2 htargets).symm.trans hnone
    · rfl

/-- A crossing that is not bound and has an only target is bound to it. -/
theorem bindCrossingCounting_of_bind {c : Crossing} {count : Nat} {target : FacetRef}
    (hfree : c.key ∉ b.bindings.map NavigationBinding.key)
    (htarget : b.onlyTarget? c.navigation = some target) :
    bindCrossingCounting (b, count) c =
      ({ b with bindings := b.bindings ++ [c.to target] }, count + 1) := by
  have hbound : b.hasBinding c.source c.declaringType c.navigation.name = false :=
    Bool.eq_false_iff.2 fun h => hfree (hasBinding_iff.1 h)
  simp only [bindCrossingCounting, hbound, Bool.false_eq_true, if_false,
    onlyTarget?_eq_some_iff.1 htarget, addBinding?]
  rfl

/-- The only target of a crossing, if the crossing is one of some triple. -/
def decision? (b : Builder) (key : FacetRef × String × String) (c : Crossing) : Option FacetRef :=
  if c.key = key then b.onlyTarget? c.navigation else none

/-- **Crossings one after the other**: their bindings are appended and counted. A triple without
binding is bound to the only target of the first of its crossings that has one. -/
theorem exists_added_counting (b : Builder) (count : Nat) (crossings : List Crossing) :
    ∃ added, crossings.foldl bindCrossingCounting (b, count)
        = ({ b with bindings := b.bindings ++ added }, count + added.length) ∧
      ∀ n, n ∈ added ↔ n.key ∉ b.bindings.map NavigationBinding.key ∧
        crossings.findSome? (b.decision? n.key) = some n.target := by
  induction crossings generalizing b count with
  | nil => exact ⟨[], by simp, by simp⟩
  | cons c rest ih =>
    rw [List.foldl_cons]
    by_cases hskip : c.key ∈ b.bindings.map NavigationBinding.key ∨
        b.onlyTarget? c.navigation = none
    -- a crossing that is skipped decides nothing: its triple is bound, or it has no only target
    · rw [bindCrossingCounting_of_skip hskip]
      obtain ⟨added, heq, hadded⟩ := ih b count
      refine ⟨added, heq, fun n => (hadded n).trans (and_congr_right fun hfree => ?_)⟩
      have hnone : b.decision? n.key c = none := by
        rw [decision?]
        split
        · rename_i hkey
          exact hskip.resolve_left (hkey ▸ hfree)
        · rfl
      rw [List.findSome?_cons, hnone]
    · rw [not_or, ← ne_eq (b.onlyTarget? _), Option.ne_none_iff_exists'] at hskip
      obtain ⟨hfree, target, htarget⟩ := hskip
      rw [bindCrossingCounting_of_bind hfree htarget]
      obtain ⟨added, heq, hadded⟩ :=
        ih { b with bindings := b.bindings ++ [c.to target] } (count + 1)
      refine ⟨c.to target :: added, ?_, fun n => ?_⟩
      · rw [heq, List.append_assoc, List.length_cons, Nat.add_right_comm, Nat.add_assoc]
        rfl
      · rw [List.mem_cons, hadded, List.findSome?_cons, List.map_append, List.mem_append, not_or]
        by_cases hkey : c.key = n.key
        · -- the triple of the crossing is bound now, and stays so
          have hlater : n.key ∈ [c.to target].map NavigationBinding.key :=
            List.mem_singleton.2 hkey.symm
          have hdecision : b.decision? n.key c = some target := (if_pos hkey).trans htarget
          simp only [hdecision, hlater, not_true_eq_false, and_false, false_and, or_false,
            Option.some.injEq]
          constructor
          · rintro rfl
            exact ⟨hfree, rfl⟩
          · rintro ⟨-, htarget⟩
            exact NavigationBinding.ext_key hkey.symm htarget.symm
        · have hother : n ≠ c.to target := fun heq => hkey (congrArg NavigationBinding.key heq).symm
          have hlater : n.key ∉ [c.to target].map NavigationBinding.key := fun hmem =>
            hkey (List.mem_singleton.1 hmem).symm
          have hdecision : b.decision? n.key c = none := if_neg hkey
          simp only [hdecision, hother, hlater, not_false_eq_true, and_true, false_or]
          rfl

/-- Counting does not change what is bound. -/
theorem bindCrossingCounting_fst (progress : Builder × Nat) (c : Crossing) :
    progress.1.bindCrossing c = (bindCrossingCounting progress c).1 := by
  obtain ⟨b, count⟩ := progress
  -- both do nothing without an only target, and with one both ask for a binding first
  cases htarget : b.onlyTarget? c.navigation with
  | none =>
    rw [bindCrossingCounting_of_skip (.inr htarget), bindCrossing]
    split
    · rename_i target htargets
      cases (onlyTarget?_eq_some_iff.2 htargets).symm.trans htarget
    · rfl
  | some target =>
    simp only [bindCrossing, onlyTarget?_eq_some_iff.1 htarget, addBinding?]
    by_cases hbound : c.key ∈ b.bindings.map NavigationBinding.key
    · rw [bindCrossingCounting_of_skip (.inl hbound), if_pos (hasBinding_iff.2 hbound)]
      rfl
    · rw [bindCrossingCounting_of_bind hbound htarget, if_neg (mt hasBinding_iff.1 hbound)]
      rfl

theorem bindCounting_fst (b : Builder) : b.bindCounting.1 = b.bind :=
  (List.foldl_hom Prod.fst bindCrossingCounting_fst).symm

/-- **Bindings of a builder that was bound**: the old ones, and those of crossings to their only
targets. -/
theorem exists_added_bind (b : Builder) :
    ∃ added, b.bind = { b with bindings := b.bindings ++ added } ∧
      ∀ n ∈ added, ∃ c ∈ b.crossings, ∃ target, b.targets c.navigation = [target] ∧
        n = c.to target := by
  obtain ⟨added, heq, hadded⟩ := b.exists_added_counting 0 b.crossings
  refine ⟨added, b.bindCounting_fst.symm.trans (congrArg Prod.fst heq), fun n hn => ?_⟩
  obtain ⟨c, hc, hdecision⟩ := List.exists_of_findSome?_eq_some ((hadded n).1 hn).2
  rw [decision?, Option.ite_none_right_eq_some] at hdecision
  obtain ⟨hkey, htarget⟩ := hdecision
  exact ⟨c, hc, n.target, onlyTarget?_eq_some_iff.1 htarget,
    NavigationBinding.ext_key hkey.symm rfl⟩

theorem Reachable.bindCrossing (h : b.Reachable) (c : Crossing) : (b.bindCrossing c).Reachable := by
  rw [Builder.bindCrossing]
  split
  · exact h.step (.addBinding _)
  · exact h

/-- A builder that was bound is reached by additions of bindings. -/
theorem Reachable.bind (h : b.Reachable) : b.bind.Reachable := by
  rw [Builder.bind]
  generalize b.crossings = crossings
  induction crossings generalizing b with
  | nil => exact h
  | cons c rest ih => exact ih (h.bindCrossing c)

/-! ### Crossings and targets -/

/-- Crossings are the navigation properties of the types that are related to the type of a facet. -/
theorem mem_crossings_iff {c : Crossing} :
    c ∈ b.crossings ↔ ∃ type, (c.source, type) ∈ b.facets ∧
      c.declaringType ∈ b.relatedTypes type ∧
      c.navigation ∈ b.navigationProperties c.declaringType := by
  obtain ⟨source, declaringType, navigation⟩ := c
  simp only [crossings, List.mem_flatMap, List.mem_map, Crossing.mk.injEq]
  constructor
  · rintro ⟨⟨_, type⟩, hfacet, _, hrelated, _, hnavigation, rfl, rfl, rfl⟩
    exact ⟨type, hfacet, hrelated, hnavigation⟩
  · rintro ⟨type, hfacet, hrelated, hnavigation⟩
    exact ⟨_, hfacet, _, hrelated, _, hnavigation, rfl, rfl, rfl⟩

/-- Related types are those above a type, the type itself and those below it. -/
theorem mem_relatedTypes_iff {type other : String} :
    other ∈ b.relatedTypes type ↔ b.IsA type other ∨ b.IsA other type := by
  rw [relatedTypes, List.mem_append, List.mem_reverse, List.mem_cons, isA_iff_mem_ancestors,
    isA_iff_mem_derivedTypes]
  constructor
  · rintro (habove | hsame | hbelow)
    · exact .inl (.inr habove)
    · exact .inl (.inl hsame)
    · exact .inr (.inr hbelow)
  · rintro ((hsame | habove) | hsame | hbelow)
    · exact .inr (.inl hsame)
    · exact .inl habove
    · exact .inr (.inl hsame)
    · exact .inr (.inr hbelow)

theorem mem_facets_entitySet_iff {name type : String} :
    (.entitySet name, type) ∈ b.facets ↔
      ∃ s ∈ b.entitySets, s.name = name ∧ s.elementType = type := by
  simp [facets]

theorem mem_facets_singleton_iff {name type : String} :
    (.singleton name, type) ∈ b.facets ↔
      ∃ s ∈ b.singletons, s.name = name ∧ s.typeName = type := by
  simp [facets]

/-- A navigation property may lead into a facet: it is of the wanted kind, and its entities are of
the target type. -/
def Admits (b : Builder) (n : NavigationProperty) (target : FacetRef) : Prop :=
  (target, n.targetType) ∈ b.facets ∧ target.isSingleton = n.singletonTarget

/-- Targets are the facets into which a property may lead. -/
theorem mem_targets_iff {n : NavigationProperty} {target : FacetRef} :
    target ∈ b.targets n ↔ b.Admits n target := by
  rw [targets, Admits]
  cases hkind : n.singletonTarget <;> cases target <;>
    simp [mem_facets_entitySet_iff, mem_facets_singleton_iff, FacetRef.isSingleton, and_comm,
      and_assoc]

end Builder

end FacetModel
