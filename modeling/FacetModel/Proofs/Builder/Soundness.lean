import FacetModel.Proofs.Builder.Steps

/-!
# What holds of every model under construction

In a reachable builder the registered types are declared ones, and the base type of each is
registered as well (`TypesSound`). Facets have different names and registered types
(`FacetsSound`). Each of the two is kept by every step.

While types are being registered, a base type may still be among the names that wait; so
`TypesSound` has these names as an argument.
-/

namespace FacetModel

namespace Builder

/-! ### Types -/

/-- What is registered is declared with its kind, and base types are registered unless they are
among the names that wait. -/
structure TypesSound (b : Builder) (waiting : List String) : Prop where
  declared : ∀ name p, b.types.get? name = some p →
    ∃ t, b.registry.structural? name = some t ∧ p.kind = t.kind
  base : ∀ name p base, b.types.get? name = some p → p.baseType = some base →
    b.isStructuralType base = true ∨ base ∈ waiting ∧ (b.registry.structural? base).isSome
  enum : ∀ name e, b.enumTypes.get? name = some e →
    ∃ d, b.registry.enum? name = some d ∧ e.name = d.name

variable {b : Builder} {name : String}

theorem isStructuralType_iff :
    b.isStructuralType name = true ↔ ∃ p, b.types.get? name = some p := by
  rw [isStructuralType, NameMap.contains, Option.isSome_iff_exists]

/-- Which types are registered depends on nothing but the types. -/
theorem isStructuralType_congr {b b' : Builder} (h : b'.types = b.types) (name : String) :
    b'.isStructuralType name = b.isStructuralType name := by
  unfold isStructuralType
  rw [h]

/-- A type that is put in is registered, and all others as before. -/
theorem isStructuralType_insert (b : Builder) (name : String) (p : PendingType) (other : String) :
    ({ b with types := b.types.insert name p } : Builder).isStructuralType other = true ↔
      other = name ∨ b.isStructuralType other = true := by
  rw [isStructuralType_iff, isStructuralType_iff, NameMap.get?_insert]
  by_cases h : other = name
  · simp [h]
  · simp [h]

/-- An enum type that is there was there before or is a declared one. -/
theorem get?_addEnumTypes {names : List String} {e : EnumType}
    (h : (b.addEnumTypes names).enumTypes.get? name = some e) :
    b.enumTypes.get? name = some e ∨ b.registry.enum? name = some e := by
  induction names generalizing b with
  | nil => exact .inl h
  | cons other rest ih =>
    have hstep := ih (b := (b.addEnumType? other).getD b) h
    rcases b.addEnumType?_cases other with heq | ⟨t, hdeclared, heq⟩
    · rwa [heq] at hstep
    · rw [heq, NameMap.get?_insert] at hstep
      split at hstep
      · rename_i hname
        subst hname
        exact .inr (hstep.elim hdeclared.trans id)
      · exact hstep

theorem TypesSound.mono {waiting more : List String} (h : b.TypesSound waiting)
    (hsub : ∀ name ∈ waiting, name ∈ more) : b.TypesSound more :=
  { h with
    base := fun name p base hp hbase =>
      (h.base name p base hp hbase).imp_right fun hwaits => ⟨hsub base hwaits.1, hwaits.2⟩ }

/-- A name that is registered or not declared does not have to wait. -/
theorem TypesSound.tail {rest : List String} (h : b.TypesSound (name :: rest))
    (hname : b.isStructuralType name = true ∨ b.registry.structural? name = none) :
    b.TypesSound rest := by
  refine { h with base := fun other p base hp hbase => ?_ }
  rcases h.base other p base hp hbase with hregistered | ⟨hwaits, hdeclared⟩
  · exact .inl hregistered
  · rcases List.mem_cons.1 hwaits with rfl | hwaits
    · rcases hname with hregistered | hnone
      · exact .inl hregistered
      · rw [hnone] at hdeclared
        cases hdeclared
    · exact .inr ⟨hwaits, hdeclared⟩

/-- Enum types that are added are declared ones, and nothing else changes. -/
theorem TypesSound.addEnumTypes {waiting : List String} (h : b.TypesSound waiting)
    (names : List String) : (b.addEnumTypes names).TypesSound waiting := by
  obtain ⟨htypes, hregistry⟩ := addEnumTypes_types b names
  refine ⟨?_, fun name p base hp hbase => ?_, fun name e he => ?_⟩
  · rw [htypes, hregistry]
    exact h.declared
  · rw [htypes] at hp
    rw [isStructuralType_congr htypes, hregistry]
    exact h.base name p base hp hbase
  · rw [hregistry]
    rcases get?_addEnumTypes he with he | he
    · exact h.enum name e he
    · exact ⟨e, he, rfl⟩

/-- The base type that a new type keeps is registered, or it waits with the other neighbours. -/
theorem TypesSound.insertType {t : StructuralType} {rest : List String}
    (h : b.TypesSound (name :: rest)) (ht : b.registry.structural? name = some t) :
    (b.insertType name t).TypesSound (b.neighbours t ++ rest) := by
  rw [Builder.insertType]
  refine TypesSound.addEnumTypes ?_ _
  refine ⟨fun other p hp => ?_, fun other p base hp hbase => ?_, h.enum⟩
  · rw [NameMap.get?_insert] at hp
    split at hp
    · rename_i heq
      cases hp
      exact ⟨t, heq ▸ ht, rfl⟩
    · exact h.declared other p hp
  · rw [isStructuralType_insert]
    rw [NameMap.get?_insert] at hp
    split at hp
    · cases hp
      obtain ⟨hdeclaredBase, hknows⟩ := Option.filter_eq_some_iff.1 hbase
      rw [knows, Bool.or_eq_true] at hknows
      -- a base type that is only declared comes to wait as a neighbour of the new type
      rcases hknows with hdeclared | hregistered
      · refine .inr ⟨List.mem_append_left _ (List.mem_append_left _ ?_), hdeclared⟩
        rw [hdeclaredBase]
        exact List.mem_singleton_self base
      · exact .inl (.inr hregistered)
    · rcases h.base other p base hp hbase with hregistered | ⟨hwaits, hdeclared⟩
      · exact .inl (.inr hregistered)
      · -- the base type that waited may be the one that is registered now
        rcases List.mem_cons.1 hwaits with hname | hwaits
        · exact .inl (.inl hname)
        · exact .inr ⟨List.mem_append_right _ hwaits, hdeclared⟩

/-- When a registration is over, no name waits, so all base types are registered. -/
theorem TypesSound.register {names : List String} (h : b.TypesSound names) :
    (b.register names).TypesSound [] :=
  register_invariant (P := TypesSound) (fun _ _ _ hname h => h.tail (.inl hname))
    (fun _ _ _ _ hnone h => h.tail (.inr hnone)) (fun _ _ _ _ _ ht h => h.insertType ht) h

/-- Soundness speaks of kinds, base types and names only. -/
theorem TypesSound.of_sameTypes {b' : Builder} {waiting : List String} (h : b.TypesSound waiting)
    (hsame : b.SameTypes b') : b'.TypesSound waiting := by
  refine ⟨fun name p hp => ?_, fun name p base hp hbase => ?_, fun name e he => ?_⟩
  · obtain ⟨q, hq, hkind, -⟩ := hsame.get?_types hp
    rw [hsame.registry, ← hkind]
    exact h.declared name q hq
  · obtain ⟨q, hq, -, hbaseType⟩ := hsame.get?_types hp
    rw [hsame.registry, hsame.isStructuralType]
    exact h.base name q base hq (hbaseType.trans hbase)
  · obtain ⟨d, hd, hname⟩ := hsame.get?_enumTypes he
    rw [hsame.registry, ← hname]
    exact h.enum name d hd

/-- Every step keeps the types sound. -/
theorem TypesSound.take (h : b.TypesSound []) (s : BuilderStep) : (b.take s).TypesSound [] := by
  rcases b.take_types_cases s with ⟨names, heq⟩ | ⟨names, heq⟩ | hsame
  · rw [heq]
    exact (h.mono fun _ hmem => absurd hmem List.not_mem_nil).register
  · rw [heq]
    exact h.addEnumTypes names
  · exact h.of_sameTypes hsame

theorem Reachable.typesSound (h : b.Reachable) : b.TypesSound [] := by
  induction h with
  | start registry namespaceName containerName => exact ⟨nofun, nofun, nofun⟩
  | step h s ih => exact ih.take s

/-! ### Facets -/

/-- Facets have different names, whatever their kinds, and their types are registered. -/
structure FacetsSound (b : Builder) : Prop where
  names : (b.entitySets.map (·.name) ++ b.singletons.map (·.name)).Nodup
  entitySet : ∀ s ∈ b.entitySets, b.isStructuralType s.elementType = true
  singleton : ∀ s ∈ b.singletons, b.isStructuralType s.typeName = true

/-- A registered type stays registered. -/
theorem isStructuralType_register (names : List String) (h : b.isStructuralType name = true) :
    (b.register names).isStructuralType name = true := by
  refine register_invariant (P := fun b' _ => b'.isStructuralType name = true) (fun _ _ _ _ h => h)
    (fun _ _ _ _ _ h => h) (fun b' other t _ _ _ h => ?_) h
  rw [insertType, isStructuralType_congr (addEnumTypes_types _ _).1, isStructuralType_insert]
  exact .inr h

/-- No step takes a type away. -/
theorem isStructuralType_take (s : BuilderStep) (h : b.isStructuralType name = true) :
    (b.take s).isStructuralType name = true := by
  rcases b.take_types_cases s with ⟨names, heq⟩ | ⟨names, heq⟩ | hsame
  · rw [heq]
    exact isStructuralType_register names h
  · rw [heq, isStructuralType_congr (addEnumTypes_types b names).1]
    exact h
  · rw [hsame.isStructuralType]
    exact h

/-- Every step keeps the facets sound: only requests for facets add any, and they look at the name
and the type first. -/
theorem FacetsSound.take (h : b.FacetsSound) (s : BuilderStep) : (b.take s).FacetsSound := by
  rcases b.take_facets_cases s with ⟨hsets, hsingletons⟩ | ⟨set, hname, htype, heq⟩ |
    ⟨singleton, hname, htype, heq⟩
  · refine ⟨by rw [hsets, hsingletons]; exact h.names, ?_, ?_⟩
    · rw [hsets]
      exact fun t ht => isStructuralType_take s (h.entitySet t ht)
    · rw [hsingletons]
      exact fun t ht => isStructuralType_take s (h.singleton t ht)
  · rw [heq]
    obtain ⟨hset, hsingleton⟩ := hasFacet_eq_false_iff.1 hname
    refine ⟨?_, ?_, h.singleton⟩
    · rw [List.map_append, List.append_assoc]
      refine (List.perm_middle.nodup_iff).2 (List.nodup_cons.2 ⟨?_, h.names⟩)
      rw [List.mem_append, not_or]
      exact ⟨hset, hsingleton⟩
    · exact List.forall_mem_append.2 ⟨h.entitySet, List.forall_mem_singleton.2 htype⟩
  · rw [heq]
    obtain ⟨hset, hsingleton⟩ := hasFacet_eq_false_iff.1 hname
    refine ⟨?_, h.entitySet, ?_⟩
    · rw [List.map_append, ← List.append_assoc]
      refine ((List.perm_append_singleton singleton.name _).nodup_iff).2
        (List.nodup_cons.2 ⟨?_, h.names⟩)
      rw [List.mem_append, not_or]
      exact ⟨hset, hsingleton⟩
    · exact List.forall_mem_append.2 ⟨h.singleton, List.forall_mem_singleton.2 htype⟩

theorem Reachable.facetsSound (h : b.Reachable) : b.FacetsSound := by
  induction h with
  | start registry namespaceName containerName => exact ⟨List.nodup_nil, nofun, nofun⟩
  | step h s ih => exact ih.take s

end Builder

end FacetModel
