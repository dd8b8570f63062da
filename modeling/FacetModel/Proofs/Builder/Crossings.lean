import FacetModel.Proofs.Builder.Binding
import Mathlib

/-!
# What binding binds

Binding a builder (`Builder.bind`) adds a binding for just those triples of a facet, a type and the
name of a property that have none and where the type, which is above or below that of the facet,
declares a navigation property of the name that leads into one facet only
(`Builder.Reachable.exists_added_iff_binds`). Binding again adds nothing.

What decides about a triple is its first crossing with an only target. The crossings of one triple
come from one list, the properties of its type, however often the type is related to the facet
(`findSome?_crossings`).
-/

namespace FacetModel

namespace Builder

variable {b : Builder}

/-- A navigation property may lead into one facet and no other. -/
def OnlyTarget (b : Builder) (n : NavigationProperty) (target : FacetRef) : Prop :=
  ∀ other, b.Admits n other ↔ other = target

/-- Among the navigation properties of a name that a type declares, the first that has an only
target has this one. -/
def LeadsTo (b : Builder) (type property : String) (target : FacetRef) : Prop :=
  ∃ before n after, b.navigationProperties type = before ++ n :: after ∧
    n.name = property ∧ b.OnlyTarget n target ∧
    ∀ m ∈ before, m.name = property → ¬ ∃ other, b.OnlyTarget m other

/-- A binding goes from a facet, with entities of a type above or below the declaring type, to where
the property leads. -/
def Binds (b : Builder) (n : NavigationBinding) : Prop :=
  ∃ type, (n.source, type) ∈ b.facets ∧
    (b.IsA type n.declaringType ∨ b.IsA n.declaringType type) ∧
    b.LeadsTo n.declaringType n.property n.target

/-! ### Only targets -/

/-- No facet is a target twice, since facets have different names. -/
theorem FacetsSound.nodup_targets (h : b.FacetsSound) (n : NavigationProperty) :
    (b.targets n).Nodup := by
  obtain ⟨hsets, hsingletons, -⟩ := List.nodup_append.1 h.names
  rw [targets]
  split
  · refine List.Nodup.sublist (List.filter_sublist.map _) ?_
    have := hsingletons.map (f := FacetRef.singleton) fun _ _ => FacetRef.singleton.inj
    rwa [List.map_map] at this
  · refine List.Nodup.sublist (List.filter_sublist.map _) ?_
    have := hsets.map (f := FacetRef.entitySet) fun _ _ => FacetRef.entitySet.inj
    rwa [List.map_map] at this

/-- The list of targets has one element just if there is one facet that the property may lead into.
-/
theorem FacetsSound.onlyTarget?_eq_some_iff (h : b.FacetsSound) {n : NavigationProperty}
    {target : FacetRef} : b.onlyTarget? n = some target ↔ b.OnlyTarget n target := by
  rw [Builder.onlyTarget?_eq_some_iff, ← List.perm_singleton,
    List.perm_ext_iff_of_nodup (h.nodup_targets n) (List.nodup_singleton target)]
  simp only [mem_targets_iff, List.mem_singleton]
  rfl

/-! ### The crossings of one triple -/

/-- A search through several lists that comes to the same in each list where a condition holds, and
to nothing elsewhere. -/
theorem findSome?_flatMap_eq_ite {α β γ : Type} {l : List α} {f : α → List β} {g : β → Option γ}
    {P : α → Prop} [DecidablePred P] {v : Option γ}
    (h : ∀ a ∈ l, (f a).findSome? g = if P a then v else none) :
    (l.flatMap f).findSome? g = if ∃ a ∈ l, P a then v else none := by
  induction l with
  | nil => simp
  | cons a rest ih =>
    obtain ⟨ha, hrest⟩ := List.forall_mem_cons.1 h
    rw [List.flatMap_cons, List.findSome?_append, ha, ih hrest]
    by_cases hP : P a <;> cases v <;> simp [hP]

/-- The only target of the first navigation property of a name that a type declares and that has
one. -/
def leadsTo? (b : Builder) (type property : String) : Option FacetRef :=
  (b.navigationProperties type).findSome? fun n =>
    if n.name = property then b.onlyTarget? n else none

theorem FacetsSound.onlyTarget?_eq_none_iff (h : b.FacetsSound) {n : NavigationProperty} :
    b.onlyTarget? n = none ↔ ¬ ∃ target, b.OnlyTarget n target := by
  simp only [Option.eq_none_iff_forall_ne_some, ne_eq, h.onlyTarget?_eq_some_iff, not_exists]

/-- The first property that decides is the one by which a name leads to a facet. -/
theorem FacetsSound.leadsTo?_eq_some_iff (h : b.FacetsSound) {type property : String}
    {target : FacetRef} :
    b.leadsTo? type property = some target ↔ b.LeadsTo type property target := by
  simp only [leadsTo?, LeadsTo, List.findSome?_eq_some_iff, Option.ite_none_right_eq_some,
    ite_eq_right_iff, h.onlyTarget?_eq_some_iff, h.onlyTarget?_eq_none_iff, and_assoc]

/-- **A triple is decided on its type**, if the type is related to the facet: its crossings come
from the properties of the type, once for each time the type is related to the facet. -/
theorem findSome?_crossings (b : Builder) (source : FacetRef) (declaringType property : String) :
    b.crossings.findSome? (b.decision? (source, declaringType, property)) =
      if ∃ facet ∈ b.facets, ∃ type ∈ b.relatedTypes facet.2,
          facet.1 = source ∧ type = declaringType then
        b.leadsTo? declaringType property
      else none := by
  refine findSome?_flatMap_eq_ite fun facet _ => findSome?_flatMap_eq_ite fun type _ => ?_
  rw [List.findSome?_map]
  split
  · rename_i hsame
    obtain ⟨rfl, rfl⟩ := hsame
    rw [leadsTo?]
    congr 1
    funext n
    simp [decision?, Crossing.key]
  -- the crossings of other facets and types belong to other triples
  · rename_i hother
    refine List.findSome?_eq_none_iff.2 fun n _ => if_neg fun hkey => hother ?_
    rw [Crossing.key, Prod.mk.injEq, Prod.mk.injEq] at hkey
    exact ⟨hkey.1, hkey.2.1⟩

/-- A triple is decided in favour of a facet just if this is where it should be bound. -/
theorem FacetsSound.findSome?_crossings_iff (h : b.FacetsSound) (n : NavigationBinding) :
    b.crossings.findSome? (b.decision? n.key) = some n.target ↔ b.Binds n := by
  rw [NavigationBinding.key, findSome?_crossings, Option.ite_none_right_eq_some,
    h.leadsTo?_eq_some_iff, Binds]
  constructor
  · rintro ⟨⟨⟨_, type⟩, hfacet, _, hrelated, rfl, rfl⟩, hleads⟩
    exact ⟨type, hfacet, mem_relatedTypes_iff.1 hrelated, hleads⟩
  · rintro ⟨type, hfacet, hrelated, hleads⟩
    exact ⟨⟨_, hfacet, _, mem_relatedTypes_iff.2 hrelated, rfl, rfl⟩, hleads⟩

/-! ### Bindings of different triples -/

theorem bindings_take (b : Builder) (s : BuilderStep) :
    (b.take s).bindings = b.bindings ∨ ∃ n, n.key ∉ b.bindings.map NavigationBinding.key ∧
      (b.take s).bindings = b.bindings ++ [n] := by
  cases s with
  | meet request => exact .inl (b.sameButElements_meet request).bindings
  | addOperation o => exact .inl rfl
  | addBinding n =>
    rw [take]
    rcases b.addBinding?_cases n with heq | ⟨hbound, heq⟩ <;> rw [heq]
    · exact .inl rfl
    · exact .inr ⟨n, fun hmem => Bool.eq_false_iff.1 hbound (hasBinding_iff.2 hmem), rfl⟩
  | overrideNamespace namespaceName => exact .inl rfl

/-- No two bindings belong to the same facet, type and property. -/
theorem Reachable.nodup_keys (h : b.Reachable) :
    (b.bindings.map NavigationBinding.key).Nodup := by
  induction h with
  | start registry namespaceName containerName => exact List.nodup_nil
  | @step b h s ih =>
    rcases b.bindings_take s with heq | ⟨n, hfree, heq⟩ <;> rw [heq]
    · exact ih
    -- a binding is added only where its triple has none
    · rw [List.map_append]
      exact ((List.perm_append_singleton n.key _).nodup_iff).2 (List.nodup_cons.2 ⟨hfree, ih⟩)

/-! ### All crossings -/

/-- Binding appends and counts what is not bound and leads somewhere. -/
theorem Reachable.exists_added_bindCounting (h : b.Reachable) :
    ∃ added, b.bindCounting = (b.bind, added.length) ∧
      b.bind = { b with bindings := b.bindings ++ added } ∧
      ∀ n, n ∈ added ↔ n.key ∉ b.bindings.map NavigationBinding.key ∧ b.Binds n := by
  obtain ⟨added, heq, hadded⟩ := b.exists_added_counting 0 b.crossings
  have hbind : b.bind = { b with bindings := b.bindings ++ added } :=
    b.bindCounting_fst.symm.trans (congrArg Prod.fst heq)
  refine ⟨added, ?_, hbind, fun n => ?_⟩
  · rw [hbind, ← Nat.zero_add added.length]
    exact heq
  · rw [hadded, h.facetsSound.findSome?_crossings_iff]

/-- **Binding is exact and idempotent**: it appends one binding for each facet, related type and
property name that have none and where the type declares a navigation property of the name that
leads into just one facet. All bindings belong to different triples, and binding again adds none. -/
theorem Reachable.exists_added_iff_binds (h : b.Reachable) :
    ∃ added, b.bindCounting = (b.bind, added.length) ∧
      b.bind = { b with bindings := b.bindings ++ added } ∧
      (∀ n, n ∈ added ↔ n.key ∉ b.bindings.map NavigationBinding.key ∧ b.Binds n) ∧
      ((b.bindings ++ added).map NavigationBinding.key).Nodup ∧
      b.bind.bindCounting = (b.bind, 0) := by
  obtain ⟨added, hcount, hbind, hadded⟩ := h.exists_added_bindCounting
  have hkeys : b.bind.bindings = b.bindings ++ added := congrArg bindings hbind
  refine ⟨added, hcount, hbind, hadded, hkeys ▸ h.bind.nodup_keys, ?_⟩
  obtain ⟨again, hcountAgain, hbindAgain, hagain⟩ := h.bind.exists_added_bindCounting
  have hnone : again = [] := List.eq_nil_iff_forall_not_mem.2 fun n hn => by
    obtain ⟨hfree, hbinds⟩ := (hagain n).1 hn
    rw [hkeys, List.map_append, List.mem_append, not_or] at hfree
    -- what can be followed does not depend on what is bound
    have hsame : b.Binds n := by
      rw [hbind] at hbinds
      exact hbinds
    exact hfree.2 (List.mem_map_of_mem ((hadded n).2 ⟨hfree.1, hsame⟩))
  subst hnone
  rw [List.append_nil] at hbindAgain
  rw [hcountAgain, hbindAgain]
  rfl

/-- Employees have a manager and a room. -/
def officeCatalog : HostCatalog where
  structuralTypes :=
    [{ name := "Employee", namespaceName := "Office", base := some "Person"
       properties := [{ name := "Manager", type := .reference "Employee" },
         { name := "Room", type := .reference "Room" }] },
     { name := "Person", namespaceName := "Office" },
     { name := "Room", namespaceName := "Office" }]

/-- An office with one facet for employees and two for rooms. -/
def officeBuilder : Builder :=
  meetAll
    { registry := officeCatalog.toRegistry.toOption.getD .empty, namespaceName := "Office",
      containerName := "Container" }
    [.structuralType "Employee", .entitySet "People" "Person" .registered,
      .entitySet "Staff" "Employee" .registered, .entitySet "Rooms" "Room" .registered,
      .entitySet "Halls" "Room" .registered]

/-- The manager of a person or an employee leads to the staff; the room of an employee stays
unbound. -/
theorem exists_added_iff_binds_office :
    officeBuilder.Reachable ∧
      { source := .entitySet "People", declaringType := "Employee", property := "Manager",
        target := .entitySet "Staff" : NavigationBinding } ∈ officeBuilder.bind.bindings ∧
      officeBuilder.bindCounting.2 = 2 ∧ officeBuilder.bind.bindCounting.2 = 0 := by
  have h : officeBuilder.Reachable := (Reachable.start _ _ _).meetAll _
  obtain ⟨added, -, hbind, hadded, -, hagain⟩ := h.exists_added_iff_binds
  refine ⟨h, ?_, by cbv, congrArg Prod.snd hagain⟩
  have hfacets : officeBuilder.facets =
      [(.entitySet "People", "Person"), (.entitySet "Staff", "Employee"),
        (.entitySet "Rooms", "Room"), (.entitySet "Halls", "Room")] := by cbv
  have hbase : officeBuilder.HasBase "Employee" "Person" := by cbv
  have hnavigation : officeBuilder.navigationProperties "Employee" =
      [{ name := "Manager", targetType := "Employee", isCollection := false,
         singletonTarget := false },
       { name := "Room", targetType := "Room", isCollection := false,
         singletonTarget := false }] := by cbv
  have hfree : officeBuilder.bindings = [] := by cbv
  rw [hbind]
  refine List.mem_append_right _ ((hadded _).2 ⟨by simp [hfree], "Person", by simp [hfacets],
    .inr (.single hbase), [], _, _, hnavigation, rfl, fun other => ?_,
    fun m hm => absurd hm List.not_mem_nil⟩)
  rw [Admits, hfacets]
  cases other <;> simp [FacetRef.isSingleton]

end Builder

end FacetModel
