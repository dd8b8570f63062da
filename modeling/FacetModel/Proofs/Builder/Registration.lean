import FacetModel.Proofs.Builder.Soundness

/-!
# What a registration brings

Registering some names brings in the declared types that are reached from them through types that
were not registered (`Builder.Reached`), each with its declaration, and the enum types that these
types refer to. `isStructuralType_register_iff` says which types are registered in the end, and
`registeredFrom_register` what is registered with them.

Neither depends on the order in which the names are visited. So registering the same names in
another order gives the same builder (`register_congr`), although types refer to each other in
circles and the visits then differ from the first name on.
-/

namespace FacetModel

namespace Builder

variable {b b' : Builder} {name other : String} {names rest : List String} {t u : StructuralType}

/-! ### Registering types one after the other -/

/-- Names are registered one part after the other. -/
theorem register_append (b : Builder) (names rest : List String) :
    b.register (names ++ rest) = (b.register names).register rest := by
  induction b, names using register.induct with
  | case1 b => rw [List.nil_append, register_nil]
  | case2 b name names hb ih =>
    rw [List.cons_append, register_of_registered hb, register_of_registered hb, ih]
  | case3 b name names hb ht ih =>
    have hb := Bool.eq_false_iff.2 hb
    rw [List.cons_append, register_of_undeclared hb ht, register_of_undeclared hb ht, ih]
  | case4 b name names hb t ht ih =>
    have hb := Bool.eq_false_iff.2 hb
    rw [List.cons_append, register_of_declared hb ht, register_of_declared hb ht, ← ih,
      List.append_assoc]

/-- Requests for types register their names. -/
theorem meetAll_structuralType (b : Builder) (names : List String) :
    b.meetAll (names.map .structuralType) = b.register names := by
  induction names generalizing b with
  | nil => exact (register_nil b).symm
  | cons name rest ih =>
    have happend := b.register_append [name] rest
    rw [List.singleton_append] at happend
    rw [happend, ← ih, ← meet_structuralType]
    rfl

/-! ### What is reached -/

/-- A type is declared and not registered. -/
structure Missing (b : Builder) (name : String) (t : StructuralType) : Prop where
  unregistered : b.isStructuralType name = false
  declared : b.registry.structural? name = some t

/-- A missing type is reached from some names: it is one of them, or next to a type that is reached.
-/
inductive Reached (b : Builder) (names : List String) : String → Prop
  | asked {name : String} {t : StructuralType} (hname : name ∈ names) (ht : b.Missing name t) :
      Reached b names name
  | next {name other : String} {t u : StructuralType} (h : Reached b names name)
      (ht : b.registry.structural? name = some t) (hother : other ∈ b.neighbours t)
      (hu : b.Missing other u) : Reached b names other

theorem Reached.mono (h : b.Reached names name) (hsub : ∀ n ∈ names, n ∈ rest) :
    b.Reached rest name := by
  induction h with
  | asked hname ht => exact .asked (hsub _ hname) ht
  | next h ht hother hu ih => exact .next ih ht hother hu

theorem not_reached_nil : ¬ b.Reached [] name := by
  intro h
  induction h with
  | asked hname ht => cases hname
  | next h ht hother hu ih => exact ih

/-- A name of no missing type leads nowhere. -/
theorem Reached.of_cons (h : b.Reached (name :: rest) other) (hname : ∀ t, ¬ b.Missing name t) :
    b.Reached rest other := by
  induction h with
  | asked hmem ht =>
    rcases List.mem_cons.1 hmem with rfl | hmem
    · exact absurd ht (hname _)
    · exact .asked hmem ht
  | next h ht hother hu ih => exact .next ih ht hother hu

/-! ### Types that are registered in the end -/

theorem registry_insertType (b : Builder) (name : String) (t : StructuralType) :
    (b.insertType name t).registry = b.registry := (addEnumTypes_types _ _).2

/-- A type that is inserted is registered, with its enum types, and all others as before. -/
theorem isStructuralType_insertType_iff :
    (b.insertType name t).isStructuralType other = true ↔
      other = name ∨ b.isStructuralType other = true := by
  rw [insertType, isStructuralType_congr (addEnumTypes_types _ _).1, isStructuralType_insert]

theorem neighbours_insertType (b : Builder) (name : String) (t u : StructuralType) :
    (b.insertType name t).neighbours u = b.neighbours u := by
  rw [neighbours, neighbours, registry_insertType]

/-- All missing types but the new one stay missing. -/
theorem missing_insertType_iff :
    (b.insertType name t).Missing other u ↔ other ≠ name ∧ b.Missing other u := by
  have hregistered : (b.insertType name t).isStructuralType other = false ↔
      other ≠ name ∧ b.isStructuralType other = false := by
    rw [← Bool.not_eq_true, isStructuralType_insertType_iff, not_or, Bool.not_eq_true]
  constructor
  · rintro ⟨hunregistered, hdeclared⟩
    rw [registry_insertType] at hdeclared
    obtain ⟨hne, hunregistered⟩ := hregistered.1 hunregistered
    exact ⟨hne, hunregistered, hdeclared⟩
  · rintro ⟨hne, hunregistered, hdeclared⟩
    refine ⟨hregistered.2 ⟨hne, hunregistered⟩, ?_⟩
    rw [registry_insertType]
    exact hdeclared

/-- What is reached from the neighbours of a new type was reached from its name. -/
theorem Reached.of_insertType (h : (b.insertType name t).Reached (b.neighbours t ++ rest) other)
    (ht : b.Missing name t) : b.Reached (name :: rest) other := by
  have hself : b.Reached (name :: rest) name := .asked List.mem_cons_self ht
  induction h with
  | asked hmem hu =>
    have hmissing := (missing_insertType_iff.1 hu).2
    rcases List.mem_append.1 hmem with hneighbour | hmem
    · exact .next hself ht.declared hneighbour hmissing
    · exact .asked (List.mem_cons_of_mem _ hmem) hmissing
  | next h ht' hother hu ih =>
    rw [registry_insertType] at ht'
    rw [neighbours_insertType] at hother
    exact .next ih ht' hother (missing_insertType_iff.1 hu).2

/-- What was reached from the name of a new type is that type or is reached from its neighbours. -/
theorem Reached.insertType (h : b.Reached (name :: rest) other) (ht : b.Missing name t) :
    other = name ∨ (b.insertType name t).Reached (b.neighbours t ++ rest) other := by
  induction h with
  | @asked other u hmem hu =>
    by_cases hname : other = name
    · exact .inl hname
    · have hmem := List.mem_of_ne_of_mem hname hmem
      exact .inr (.asked (List.mem_append_right _ hmem) (missing_insertType_iff.2 ⟨hname, hu⟩))
  | @next middle other t' u h ht' hother hu ih =>
    by_cases hname : other = name
    · exact .inl hname
    · have hmissing : (b.insertType name t).Missing other u :=
        missing_insertType_iff.2 ⟨hname, hu⟩
      rcases ih with rfl | hreached
      · cases ht.declared.symm.trans ht'
        exact .inr (.asked (List.mem_append_left _ hother) hmissing)
      · have hdeclared : (b.insertType name t).registry.structural? middle = some t' := by
          rw [registry_insertType]
          exact ht'
        have hneighbour : other ∈ (b.insertType name t).neighbours t' := by
          rw [neighbours_insertType]
          exact hother
        exact .inr (.next hreached hdeclared hneighbour hmissing)

/-- **Registered types**: those that were registered before, and those that are reached. -/
theorem isStructuralType_register_iff :
    (b.register names).isStructuralType name = true ↔
      b.isStructuralType name = true ∨ b.Reached names name := by
  -- a type that is reached is registered already or still reached from the names that wait
  let Ends (b : Builder) (names : List String) (n : String) : Prop :=
    b.isStructuralType n = true ∨ b.Reached names n
  have hskip : ∀ b' : Builder, ∀ n rest, (∀ t, ¬ b'.Missing n t) →
      (∀ m, Ends b' (n :: rest) m ↔ Ends b names m) → ∀ m, Ends b' rest m ↔ Ends b names m := by
    intro b' n rest hmissing h m
    rw [← h m]
    exact or_congr_right ⟨fun hreached => hreached.mono fun _ => List.mem_cons_of_mem n,
      fun hreached => hreached.of_cons hmissing⟩
  have hend : ∀ n, Ends (b.register names) [] n ↔ Ends b names n := by
    refine register_invariant (P := fun b' waiting => ∀ n, Ends b' waiting n ↔ Ends b names n)
      (fun b' n rest hb => hskip b' n rest fun t ht => ?_)
      (fun b' n rest hb hnone => hskip b' n rest fun t ht => ?_)
      (fun b' n t rest hb ht h m => ?_) fun n => Iff.rfl
    · cases hb.symm.trans ht.unregistered
    · cases hnone.symm.trans ht.declared
    · have hmissing : b'.Missing n t := ⟨hb, ht⟩
      rw [← h m]
      constructor
      · rintro (hregistered | hreached)
        · rcases isStructuralType_insertType_iff.1 hregistered with rfl | hregistered
          · exact .inr (.asked List.mem_cons_self hmissing)
          · exact .inl hregistered
        · exact .inr (hreached.of_insertType hmissing)
      · rintro (hregistered | hreached)
        · exact .inl (isStructuralType_insertType_iff.2 (.inr hregistered))
        · exact (hreached.insertType hmissing).imp_left
            fun hname => isStructuralType_insertType_iff.2 (.inl hname)
  rw [← or_iff_left (a := (b.register names).isStructuralType name = true) not_reached_nil]
  exact hend name

/-! ### What is registered with a type -/

/-- What a declared type is registered as. -/
def pendingOf (b : Builder) (t : StructuralType) : PendingType :=
  { namespaceName := t.namespaceName, kind := t.kind, baseType := t.base.filter b.knows,
    keys := t.keys }

theorem types_insertType (b : Builder) (name : String) (t : StructuralType) :
    (b.insertType name t).types = b.types.insert name (b.pendingOf t) := (addEnumTypes_types _ _).1

/-- Enum types that are there stay what they are, and declared ones are added. -/
theorem enumTypes_addEnumTypes (b : Builder) (names : List String) (name : String) :
    (b.addEnumTypes names).enumTypes.get? name =
      (b.enumTypes.get? name).or (if name ∈ names then b.registry.enum? name else none) := by
  induction names generalizing b with
  | nil => simp [addEnumTypes]
  | cons first rest ih =>
    have hcons : b.addEnumTypes (first :: rest)
        = ((b.addEnumType? first).getD b).addEnumTypes rest := rfl
    rw [hcons, ih, addEnumType?]
    by_cases hname : name = first
    · subst hname
      cases henum : b.enumTypes.get? name with
      | some e => simp [NameMap.contains, henum]
      | none =>
        cases hdeclared : b.registry.enum? name with
        | none => simp [NameMap.contains, henum, hdeclared]
        | some d => simp [NameMap.contains, henum, hdeclared]
    · split
      · simp [hname]
      · cases hdeclared : b.registry.enum? first with
        | none => simp [hname]
        | some d => simp [hname, NameMap.get?_insert_of_ne]

/-- A new type brings in the enum types that its properties refer to, if they are declared. -/
theorem enumTypes_insertType (b : Builder) (name : String) (t : StructuralType) (other : String) :
    (b.insertType name t).enumTypes.get? other =
      (b.enumTypes.get? other).or (if other ∈ t.references then b.registry.enum? other else none) :=
  enumTypes_addEnumTypes _ t.references other

/-- A builder comes from another one by registrations of types: all that was registered stays what
it was, new types are registered as they are declared, and the enum types they refer to are added.
-/
structure RegisteredFrom (b b' : Builder) : Prop where
  registry : b'.registry = b.registry
  kept : ∀ name p, b.types.get? name = some p → b'.types.get? name = some p
  new : ∀ name p, b'.types.get? name = some p → b.types.get? name = none →
    ∃ t, b.registry.structural? name = some t ∧ p = b.pendingOf t
  enum : ∀ name e, b'.enumTypes.get? name = some e ↔
    b.enumTypes.get? name = some e ∨
      b.enumTypes.get? name = none ∧ b.registry.enum? name = some e ∧
        ∃ referring t, b.Missing referring t ∧ b'.isStructuralType referring = true ∧
          name ∈ t.references

theorem isStructuralType_eq_false_iff :
    b.isStructuralType name = false ↔ b.types.get? name = none := by
  simp [isStructuralType, NameMap.contains]

/-- A builder is registered from itself, as nothing is new. -/
theorem RegisteredFrom.refl (b : Builder) : b.RegisteredFrom b where
  registry := rfl
  kept _ _ hp := hp
  new name p hp hnone := by cases hp.symm.trans hnone
  enum name e := by
    refine (or_iff_left ?_).symm
    rintro ⟨-, -, referring, t, hmissing, hregistered, -⟩
    cases hregistered.symm.trans hmissing.unregistered

theorem RegisteredFrom.isStructuralType (h : b.RegisteredFrom b')
    (hname : b.isStructuralType name = true) : b'.isStructuralType name = true := by
  obtain ⟨p, hp⟩ := isStructuralType_iff.1 hname
  exact isStructuralType_iff.2 ⟨p, h.kept name p hp⟩

/-- New types are declared ones, so the same names are known. -/
theorem RegisteredFrom.knows (h : b.RegisteredFrom b') : b'.knows = b.knows := by
  funext name
  rw [Builder.knows, Builder.knows, h.registry]
  cases hdeclared : b.registry.structural? name with
  | some t => rfl
  | none =>
    rw [Option.isSome_none, Bool.false_or, Bool.false_or, Bool.eq_iff_iff]
    refine ⟨fun hname => ?_, h.isStructuralType⟩
    obtain ⟨p, hp⟩ := isStructuralType_iff.1 hname
    cases hold : b.types.get? name with
    | some q => exact isStructuralType_iff.2 ⟨q, hold⟩
    | none =>
      obtain ⟨t, ht, -⟩ := h.new name p hp hold
      cases hdeclared.symm.trans ht

/-- A declared type is taken in as it would be by the builder at the start, whatever was registered
since. -/
theorem RegisteredFrom.pendingOf (h : b.RegisteredFrom b') (t : StructuralType) :
    b'.pendingOf t = b.pendingOf t := by
  rw [Builder.pendingOf, Builder.pendingOf, h.knows]

/-- Taking in one more type that was missing keeps all that is said of a registration. -/
theorem RegisteredFrom.insertType (h : b.RegisteredFrom b') (ht : b'.Missing name t) :
    b.RegisteredFrom (b'.insertType name t) := by
  have hold : b.types.get? name = none := by
    cases hget : b.types.get? name with
    | none => rfl
    | some p =>
      have hnone := isStructuralType_eq_false_iff.1 ht.unregistered
      cases hnone.symm.trans (h.kept name p hget)
  have hdeclared : b.registry.structural? name = some t := h.registry ▸ ht.declared
  have hmissing : b.Missing name t := ⟨isStructuralType_eq_false_iff.2 hold, hdeclared⟩
  refine ⟨(registry_insertType b' name t).trans h.registry, fun n p hp => ?_,
    fun n p hp hnone => ?_, fun n e => ?_⟩
  · rw [types_insertType, NameMap.get?_insert_of_ne]
    · exact h.kept n p hp
    · rintro rfl
      cases hold.symm.trans hp
  · rw [types_insertType, NameMap.get?_insert] at hp
    split at hp
    · rename_i hname
      subst hname
      exact ⟨t, hdeclared, by rw [← Option.some.inj hp, h.pendingOf]⟩
    · exact h.new n p hp hnone
  · rw [enumTypes_insertType, Option.or_eq_some_iff, h.enum n e, h.registry]
    constructor
    · rintro ((hthere | ⟨hnone, henum, referring, u, hu, hregistered, href⟩) | ⟨hnone, hadded⟩)
      · exact .inl hthere
      · exact .inr ⟨hnone, henum, referring, u, hu,
          isStructuralType_insertType_iff.2 (.inr hregistered), href⟩
      · rw [Option.ite_none_right_eq_some] at hadded
        obtain ⟨href, henum⟩ := hadded
        refine .inr ⟨?_, henum, name, t, hmissing,
          isStructuralType_insertType_iff.2 (.inl rfl), href⟩
        cases hget : b.enumTypes.get? n with
        | none => rfl
        | some d => cases hnone.symm.trans ((h.enum n d).2 (.inl hget))
    · rintro (hthere | ⟨hnone, henum, referring, u, hu, hregistered, href⟩)
      · exact .inl (.inl hthere)
      · rcases isStructuralType_insertType_iff.1 hregistered with rfl | hregistered
        · cases hu.declared.symm.trans hdeclared
          -- an earlier type may have brought in the enum type already
          cases hget : b'.enumTypes.get? n with
          | none => exact .inr ⟨rfl, by rw [if_pos href, henum]⟩
          | some d =>
            have hd := (h.enum n d).1 hget
            rw [hnone] at hd
            obtain ⟨-, hd, -⟩ := hd.resolve_left (by simp)
            rw [← Option.some.inj (henum.symm.trans hd)] at hget
            exact .inl ((h.enum n e).1 hget)
        · exact .inl (.inr ⟨hnone, henum, referring, u, hu, hregistered, href⟩)

theorem registeredFrom_register (b : Builder) (names : List String) :
    b.RegisteredFrom (b.register names) :=
  register_invariant (P := fun b' _ => b.RegisteredFrom b') (fun _ _ _ _ h => h)
    (fun _ _ _ _ _ h => h) (fun _ _ _ _ hb ht h => h.insertType ⟨hb, ht⟩) (.refl b)

/-! ### The order of names -/

/-- Registrations that register the same types give the same builder. -/
theorem RegisteredFrom.eq {b₁ b₂ : Builder} (h₁ : b.RegisteredFrom b₁) (h₂ : b.RegisteredFrom b₂)
    (hbut₁ : b.SameButTypes b₁) (hbut₂ : b.SameButTypes b₂)
    (hsame : ∀ name, b₁.isStructuralType name = true ↔ b₂.isStructuralType name = true) :
    b₁ = b₂ := by
  refine hbut₁.ext hbut₂ (fun name => ?_) fun name => Option.ext fun e => ?_
  · cases hold : b.types.get? name with
    | some p => rw [h₁.kept name p hold, h₂.kept name p hold]
    | none =>
      cases hget : b₁.types.get? name with
      | none =>
        have hfalse : b₁.isStructuralType name = false := isStructuralType_eq_false_iff.2 hget
        rw [eq_comm, ← isStructuralType_eq_false_iff, ← Bool.not_eq_true, ← hsame name, hfalse]
        exact Bool.false_ne_true
      | some p =>
        obtain ⟨q, hq⟩ := isStructuralType_iff.1 ((hsame name).1 (isStructuralType_iff.2 ⟨p, hget⟩))
        obtain ⟨t, ht, rfl⟩ := h₁.new name p hget hold
        obtain ⟨u, hu, rfl⟩ := h₂.new name q hq hold
        rw [hq, Option.some.inj (ht.symm.trans hu)]
  · rw [h₁.enum name e, h₂.enum name e]
    simp only [hsame]

/-- **The order of names does not matter**, nor whether a name comes twice: registrations of the
same names give the same builder. -/
theorem register_congr (b : Builder) (h : ∀ name, name ∈ names ↔ name ∈ rest) :
    b.register names = b.register rest := by
  refine (b.registeredFrom_register names).eq (b.registeredFrom_register rest)
    (b.sameButTypes_register names) (b.sameButTypes_register rest) fun name => ?_
  rw [isStructuralType_register_iff, isStructuralType_register_iff]
  exact or_congr_right ⟨fun hreached => hreached.mono fun n => (h n).1,
    fun hreached => hreached.mono fun n => (h n).2⟩

end Builder

end FacetModel
