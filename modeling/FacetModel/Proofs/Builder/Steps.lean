import FacetModel.Builder.Binding
import FacetModel.Builder.Registration
import FacetModel.Conventions
import FacetModel.Scan.Operations

/-!
# Steps of a construction

A model is constructed step by step (`BuilderStep`), and a builder is reachable if such steps lead
to it from the empty one. All that assemblies do to a builder are such steps: registrations, facets
for host properties, operations, namespaces.

* Steps that register types leave everything else as it is (`SameButTypes`).
* Registration works through a list of names, and `register_invariant` is its induction: what each
  of the three ways to treat the first name keeps holds in the end, when no names are left. A change
  can be made before or after a registration if it can for each type that is put in
  (`register_comm`).
* `take_types_cases` and `take_facets_cases` say what a step can do to types and to facets.
-/

namespace FacetModel

/-- A step in the construction of a model. -/
inductive BuilderStep where
  | meet (request : BuilderRequest)
  | addOperation (o : Operation)
  | addBinding (n : NavigationBinding)
  | overrideNamespace (namespaceName : String)

namespace Builder

/-- The builder after a step. -/
def take (b : Builder) : BuilderStep → Builder
  | .meet request => b.meet request
  | .addOperation o => b.addOperation o
  | .addBinding n => (b.addBinding? n).getD b
  | .overrideNamespace namespaceName => b.overrideNamespace namespaceName

/-- Steps lead to a builder from one without elements. -/
inductive Reachable : Builder → Prop
  | start (registry : Registry) (namespaceName containerName : String) :
      Reachable { registry, namespaceName, containerName }
  | step {b : Builder} (h : Reachable b) (s : BuilderStep) : Reachable (b.take s)

/-! ### Steps that register types -/

/-- Two builders differ at most in their types. -/
def SameButTypes (b b' : Builder) : Prop :=
  ∃ types enumTypes, b' = { b with types, enumTypes }

variable {b b' b'' : Builder}

theorem SameButTypes.refl (b : Builder) : b.SameButTypes b := ⟨b.types, b.enumTypes, rfl⟩

theorem SameButTypes.trans (h : b.SameButTypes b') (h' : b'.SameButTypes b'') :
    b.SameButTypes b'' := by
  obtain ⟨types, enumTypes, rfl⟩ := h
  obtain ⟨types', enumTypes', rfl⟩ := h'
  exact ⟨types', enumTypes', rfl⟩

theorem SameButTypes.facets (h : b.SameButTypes b') :
    b'.entitySets = b.entitySets ∧ b'.singletons = b.singletons := by
  obtain ⟨types, enumTypes, rfl⟩ := h
  exact ⟨rfl, rfl⟩

/-- Builders that differ from one builder at most in their types are the same if they have the same
types. -/
theorem SameButTypes.ext {b₁ b₂ : Builder} (h₁ : b.SameButTypes b₁) (h₂ : b.SameButTypes b₂)
    (htypes : ∀ name, b₁.types.get? name = b₂.types.get? name)
    (henums : ∀ name, b₁.enumTypes.get? name = b₂.enumTypes.get? name) : b₁ = b₂ := by
  obtain ⟨types₁, enumTypes₁, rfl⟩ := h₁
  obtain ⟨types₂, enumTypes₂, rfl⟩ := h₂
  cases NameMap.ext_get? htypes
  cases NameMap.ext_get? henums
  rfl

/-- A declared enum type is added, if it is not there. -/
theorem addEnumType?_cases (b : Builder) (name : String) :
    (b.addEnumType? name).getD b = b ∨
      ∃ t, b.registry.enum? name = some t ∧
        (b.addEnumType? name).getD b = { b with enumTypes := b.enumTypes.insert name t } := by
  unfold addEnumType?
  split
  · exact .inl rfl
  · cases b.registry.enum? name with
    | none => exact .inl rfl
    | some t => exact .inr ⟨t, rfl, rfl⟩

/-- Adding enum types changes nothing but the enum types. -/
theorem sameButTypes_addEnumTypes (b : Builder) (names : List String) :
    b.SameButTypes (b.addEnumTypes names) := by
  induction names generalizing b with
  | nil => exact .refl b
  | cons name rest ih =>
    refine SameButTypes.trans ?_ (ih ((b.addEnumType? name).getD b))
    rcases b.addEnumType?_cases name with h | ⟨t, -, h⟩
    · rw [h]
      exact .refl b
    · rw [h]
      exact ⟨b.types, b.enumTypes.insert name t, rfl⟩

/-- A new type may bring in enum types, but nothing else. -/
theorem sameButTypes_insertType (b : Builder) (name : String) (t : StructuralType) :
    b.SameButTypes (b.insertType name t) := by
  refine SameButTypes.trans ?_ (sameButTypes_addEnumTypes _ t.references)
  exact ⟨_, b.enumTypes, rfl⟩

/-! ### Registration by names that wait -/

theorem register_nil (b : Builder) : b.register [] = b := by rw [register]

/-- A registered name is passed over. -/
theorem register_of_registered {name : String} (hb : b.isStructuralType name = true)
    (rest : List String) : b.register (name :: rest) = b.register rest := by
  rw [register, dif_pos hb]

/-- A name that is not declared is passed over. -/
theorem register_of_undeclared {name : String} (hb : b.isStructuralType name = false)
    (ht : b.registry.structural? name = none) (rest : List String) :
    b.register (name :: rest) = b.register rest := by
  rw [register, dif_neg (Bool.eq_false_iff.1 hb)]
  split
  · rfl
  · rename_i t ht'
    cases ht.symm.trans ht'

/-- A declared type is registered, and its neighbours come to wait before the others. -/
theorem register_of_declared {name : String} {t : StructuralType}
    (hb : b.isStructuralType name = false) (ht : b.registry.structural? name = some t)
    (rest : List String) :
    b.register (name :: rest) = (b.insertType name t).register (b.neighbours t ++ rest) := by
  rw [register, dif_neg (Bool.eq_false_iff.1 hb)]
  split
  · rename_i ht'
    cases ht.symm.trans ht'
  · rename_i t' ht'
    cases ht.symm.trans ht'
    rfl

/-- **Induction on a registration**: what holds of a builder and the names that wait to be
registered holds in the end, when none waits, if it is kept where a name is registered already,
where it is not declared, and where it is registered and its neighbours come to wait as well. -/
theorem register_invariant {P : Builder → List String → Prop}
    (hregistered : ∀ b name rest, b.isStructuralType name = true → P b (name :: rest) → P b rest)
    (hundeclared : ∀ b name rest, b.isStructuralType name = false →
      b.registry.structural? name = none → P b (name :: rest) → P b rest)
    (hinsert : ∀ b name t rest, b.isStructuralType name = false →
      b.registry.structural? name = some t → P b (name :: rest) →
        P (b.insertType name t) (b.neighbours t ++ rest))
    {b : Builder} {names : List String} (h : P b names) : P (b.register names) [] := by
  induction b, names using register.induct with
  | case1 b =>
    rw [register_nil]
    exact h
  | case2 b name rest hb ih =>
    rw [register_of_registered hb]
    exact ih (hregistered b name rest hb h)
  | case3 b name rest hb ht ih =>
    have hb := Bool.eq_false_iff.2 hb
    rw [register_of_undeclared hb ht]
    exact ih (hundeclared b name rest hb ht h)
  | case4 b name rest hb t ht ih =>
    have hb := Bool.eq_false_iff.2 hb
    rw [register_of_declared hb ht]
    exact ih (hinsert b name t rest hb ht h)

/-- **What can change places with a registration**: a change of the builder that keeps what is
declared and which types are registered, and that can change places with each type that is put in.
-/
theorem register_comm (change : Builder → Builder) {P : Builder → Prop}
    (hregistry : ∀ b, (change b).registry = b.registry)
    (hregistered : ∀ b name, (change b).isStructuralType name = b.isStructuralType name)
    (hinsert : ∀ b name t, P b → b.isStructuralType name = false →
      b.registry.structural? name = some t →
        P (b.insertType name t) ∧ (change b).insertType name t = change (b.insertType name t))
    {b : Builder} (h : P b) (names : List String) :
    (change b).register names = change (b.register names) := by
  induction b, names using register.induct with
  | case1 b => rw [register_nil, register_nil]
  | case2 b name rest hb ih =>
    have hb' := (hregistered b name).trans hb
    rw [register_of_registered hb, register_of_registered hb', ih h]
  | case3 b name rest hb ht ih =>
    have hb := Bool.eq_false_iff.2 hb
    have hb' := (hregistered b name).trans hb
    have ht' := (congrArg (·.structural? name) (hregistry b)).trans ht
    rw [register_of_undeclared hb ht, register_of_undeclared hb' ht', ih h]
  | case4 b name rest hb t ht ih =>
    have hb := Bool.eq_false_iff.2 hb
    have hb' := (hregistered b name).trans hb
    have ht' := (congrArg (·.structural? name) (hregistry b)).trans ht
    -- the types that come to wait are told by what is declared, so both registrations wait for the
    -- same ones
    have hneighbours : (change b).neighbours t = b.neighbours t := by
      rw [neighbours, neighbours, hregistry]
    obtain ⟨hnext, hcomm⟩ := hinsert b name t h hb ht
    rw [register_of_declared hb ht, register_of_declared hb' ht', hneighbours, hcomm, ih hnext]

/-- A registration changes nothing but types. -/
theorem sameButTypes_register (b : Builder) (names : List String) :
    b.SameButTypes (b.register names) := by
  refine register_invariant (P := fun b' _ => b.SameButTypes b') ?_ ?_ ?_ (.refl b)
  · exact fun _ _ _ _ h => h
  · exact fun _ _ _ _ _ h => h
  · exact fun b' name t _ _ _ h => h.trans (sameButTypes_insertType b' name t)

/-- A type that is neither declared nor registered brings nothing. -/
theorem meet_structuralType (b : Builder) (name : String) :
    b.meet (.structuralType name) = b.register [name] := by
  rw [meet, meet?, addStructuralType?]
  split
  · rfl
  -- what is not known is neither declared nor registered, and is passed over
  · rename_i hknows
    rw [knows, Bool.or_eq_true, not_or, Bool.not_eq_true, Bool.not_eq_true,
      Option.isSome_eq_false_iff, Option.isNone_iff_eq_none] at hknows
    rw [register_of_undeclared hknows.2 hknows.1, register_nil]
    rfl

/-- A key is appended to those of a registered type, if anything changes. -/
theorem addKey?_cases (b : Builder) (typeName key : String) :
    (b.addKey? typeName key).getD b = b ∨
      ∃ p, b.types.get? typeName = some p ∧
        (b.addKey? typeName key).getD b =
          { b with types := b.types.insert typeName { p with keys := p.keys ++ [key] } } := by
  rw [addKey?]
  split
  · rename_i p hp
    split
    · split
      · exact .inl rfl
      · exact .inr ⟨p, hp, rfl⟩
    · exact .inl rfl
  · exact .inl rfl

/-- A new key changes the type that it is a key of. -/
theorem sameButTypes_addKey? (b : Builder) (typeName key : String) :
    b.SameButTypes ((b.addKey? typeName key).getD b) := by
  rcases b.addKey?_cases typeName key with heq | ⟨p, -, heq⟩ <;> rw [heq]
  · exact .refl b
  · exact ⟨_, b.enumTypes, rfl⟩

/-! ### Steps that append -/

theorem hasFacet_eq_false_iff {name : String} :
    b.hasFacet name = false ↔
      name ∉ b.entitySets.map (·.name) ∧ name ∉ b.singletons.map (·.name) := by
  simp [hasFacet]

/-- An entity set is appended if its name is free and its type is registered. -/
theorem addEntitySet?_cases (b : Builder) (name elementType : String) (origin : FacetOrigin) :
    b.addEntitySet? name elementType origin = none ∨
      b.hasFacet name = false ∧ b.isStructuralType elementType = true ∧
        b.addEntitySet? name elementType origin =
          some { b with entitySets := b.entitySets ++ [{ name, elementType, origin }] } := by
  rw [addEntitySet?]
  split
  · exact .inl rfl
  · rename_i hname
    split
    · rename_i htype
      exact .inr ⟨Bool.eq_false_iff.2 hname, htype, rfl⟩
    · exact .inl rfl

/-- A singleton is appended if its name is free and its type is registered. -/
theorem addSingleton?_cases (b : Builder) (name typeName : String) (origin : FacetOrigin) :
    b.addSingleton? name typeName origin = none ∨
      b.hasFacet name = false ∧ b.isStructuralType typeName = true ∧
        b.addSingleton? name typeName origin =
          some { b with singletons := b.singletons ++ [{ name, typeName, origin }] } := by
  rw [addSingleton?]
  split
  · exact .inl rfl
  · rename_i hname
    split
    · rename_i htype
      exact .inr ⟨Bool.eq_false_iff.2 hname, htype, rfl⟩
    · exact .inl rfl

/-- A binding is appended if the property is not bound on the facet. -/
theorem addBinding?_cases (b : Builder) (n : NavigationBinding) :
    b.addBinding? n = none ∨
      b.hasBinding n.source n.declaringType n.property = false ∧
        b.addBinding? n = some { b with bindings := b.bindings ++ [n] } := by
  rw [addBinding?]
  split
  · exact .inl rfl
  · rename_i hbound
    exact .inr ⟨Bool.eq_false_iff.2 hbound, rfl⟩

/-! ### Requests -/

/-- Two builders differ at most in their types and facets. -/
def SameButElements (b b' : Builder) : Prop :=
  ∃ types enumTypes entitySets singletons,
    b' = { b with types, enumTypes, entitySets, singletons }

theorem SameButElements.refl (b : Builder) : b.SameButElements b :=
  ⟨b.types, b.enumTypes, b.entitySets, b.singletons, rfl⟩

theorem SameButElements.trans (h : b.SameButElements b') (h' : b'.SameButElements b'') :
    b.SameButElements b'' := by
  obtain ⟨_, _, _, _, rfl⟩ := h
  obtain ⟨types, enumTypes, entitySets, singletons, rfl⟩ := h'
  exact ⟨types, enumTypes, entitySets, singletons, rfl⟩

theorem SameButTypes.sameButElements (h : b.SameButTypes b') : b.SameButElements b' := by
  obtain ⟨types, enumTypes, rfl⟩ := h
  exact ⟨types, enumTypes, b.entitySets, b.singletons, rfl⟩

theorem SameButElements.registry (h : b.SameButElements b') : b'.registry = b.registry := by
  obtain ⟨types, enumTypes, entitySets, singletons, rfl⟩ := h
  rfl

theorem SameButElements.bindings (h : b.SameButElements b') : b'.bindings = b.bindings := by
  obtain ⟨types, enumTypes, entitySets, singletons, rfl⟩ := h
  rfl

/-- A request changes nothing but types and facets. -/
theorem sameButElements_meet (b : Builder) (request : BuilderRequest) :
    b.SameButElements (b.meet request) := by
  cases request with
  | structuralType name =>
    rw [meet_structuralType]
    exact (b.sameButTypes_register [name]).sameButElements
  | enumType name => exact (b.sameButTypes_addEnumTypes [name]).sameButElements
  | entitySet name elementType origin =>
    rw [meet, meet?]
    rcases b.addEntitySet?_cases name elementType origin with heq | ⟨-, -, heq⟩ <;> rw [heq]
    · exact .refl b
    · exact ⟨b.types, b.enumTypes, _, b.singletons, rfl⟩
  | singleton name typeName origin =>
    rw [meet, meet?]
    rcases b.addSingleton?_cases name typeName origin with heq | ⟨-, -, heq⟩ <;> rw [heq]
    · exact .refl b
    · exact ⟨b.types, b.enumTypes, b.entitySets, _, rfl⟩
  | key typeName key => exact (b.sameButTypes_addKey? typeName key).sameButElements

theorem meetAll_append (b : Builder) (requests more : List BuilderRequest) :
    b.meetAll (requests ++ more) = (b.meetAll requests).meetAll more := List.foldl_append

/-- What each of some requests keeps is kept by all of them. -/
theorem meetAll_induction {requests : List BuilderRequest} {P : Builder → Prop}
    (hstep : ∀ request ∈ requests, ∀ b, P b → P (b.meet request)) (h : P b) :
    P (b.meetAll requests) := by
  induction requests generalizing b with
  | nil => exact h
  | cons request rest ih =>
    obtain ⟨hfirst, hothers⟩ := List.forall_mem_cons.1 hstep
    exact ih hothers (hfirst b h)

theorem sameButElements_meetAll (b : Builder) (requests : List BuilderRequest) :
    b.SameButElements (b.meetAll requests) :=
  meetAll_induction (fun request _ b' h => h.trans (b'.sameButElements_meet request)) (.refl b)

theorem registry_meetAll (b : Builder) (requests : List BuilderRequest) :
    (b.meetAll requests).registry = b.registry := (b.sameButElements_meetAll requests).registry

/-! ### Steps that leave types as they are -/

/-- Two builders have the same types, apart from namespaces and keys. -/
structure SameTypes (b b' : Builder) : Prop where
  registry : b'.registry = b.registry
  types : ∀ name, (b'.types.get? name).map (fun p => (p.kind, p.baseType))
    = (b.types.get? name).map fun p => (p.kind, p.baseType)
  enumTypes : ∀ name, (b'.enumTypes.get? name).map (·.name) = (b.enumTypes.get? name).map (·.name)

theorem SameTypes.refl (b : Builder) : b.SameTypes b := ⟨rfl, fun _ => rfl, fun _ => rfl⟩

theorem SameTypes.isStructuralType (h : b.SameTypes b') (name : String) :
    b'.isStructuralType name = b.isStructuralType name := by
  have := congrArg Option.isSome (h.types name)
  rwa [Option.isSome_map, Option.isSome_map] at this

/-- A registered type is registered in the other builder too, with its kind and base type. -/
theorem SameTypes.get?_types (h : b.SameTypes b') {name : String} {p : PendingType}
    (hp : b'.types.get? name = some p) :
    ∃ q, b.types.get? name = some q ∧ q.kind = p.kind ∧ q.baseType = p.baseType := by
  have hsame := h.types name
  rw [hp, Option.map_some, eq_comm, Option.map_eq_some_iff] at hsame
  obtain ⟨q, hq, heq⟩ := hsame
  exact ⟨q, hq, congrArg Prod.fst heq, congrArg Prod.snd heq⟩

theorem SameTypes.get?_enumTypes (h : b.SameTypes b') {name : String} {e : EnumType}
    (he : b'.enumTypes.get? name = some e) :
    ∃ d, b.enumTypes.get? name = some d ∧ d.name = e.name := by
  have hsame := h.enumTypes name
  rwa [he, Option.map_some, eq_comm, Option.map_eq_some_iff] at hsame

/-- The builder with other keys for a registered type. -/
def withKeys (b : Builder) (type : String) (p : PendingType) (keys : List String) : Builder :=
  { b with types := b.types.insert type { p with keys } }

/-- Keys leave the kind and the base type of their type. -/
theorem sameTypes_withKeys {type : String} {p : PendingType} (hp : b.types.get? type = some p)
    (keys : List String) : b.SameTypes (b.withKeys type p keys) := by
  refine ⟨rfl, fun name => ?_, fun name => rfl⟩
  rw [withKeys, NameMap.get?_insert]
  split
  -- the type with the new keys has the kind and the base type that it had
  · rename_i hname
    rw [hname, hp]
    rfl
  · rfl

/-- A new key leaves the kinds and the base types as they are. -/
theorem sameTypes_addKey? (b : Builder) (typeName key : String) :
    b.SameTypes ((b.addKey? typeName key).getD b) := by
  rcases b.addKey?_cases typeName key with heq | ⟨p, hp, heq⟩ <;> rw [heq]
  · exact .refl b
  · exact sameTypes_withKeys hp (p.keys ++ [key])

theorem sameTypes_overrideNamespace (b : Builder) (namespaceName : String) :
    b.SameTypes (b.overrideNamespace namespaceName) := by
  refine ⟨rfl, fun name => ?_, fun name => ?_⟩ <;>
    rw [overrideNamespace, NameMap.get?_map, Option.map_map] <;> rfl

/-! ### What a step can do -/

/-- **Types after a step**: types are registered, enum types are added, or all stay what they are.
-/
theorem take_types_cases (b : Builder) (s : BuilderStep) :
    (∃ names, b.take s = b.register names) ∨ (∃ names, b.take s = b.addEnumTypes names) ∨
      b.SameTypes (b.take s) := by
  cases s with
  | meet request =>
    cases request with
    | structuralType name => exact .inl ⟨[name], b.meet_structuralType name⟩
    | enumType name => exact .inr (.inl ⟨[name], rfl⟩)
    | entitySet name elementType origin =>
      refine .inr (.inr ?_)
      rw [take, meet, meet?]
      rcases b.addEntitySet?_cases name elementType origin with heq | ⟨-, -, heq⟩ <;> rw [heq] <;>
        exact ⟨rfl, fun _ => rfl, fun _ => rfl⟩
    | singleton name typeName origin =>
      refine .inr (.inr ?_)
      rw [take, meet, meet?]
      rcases b.addSingleton?_cases name typeName origin with heq | ⟨-, -, heq⟩ <;> rw [heq] <;>
        exact ⟨rfl, fun _ => rfl, fun _ => rfl⟩
    | key typeName key => exact .inr (.inr (b.sameTypes_addKey? typeName key))
  | addOperation o => exact .inr (.inr ⟨rfl, fun _ => rfl, fun _ => rfl⟩)
  | addBinding n =>
    refine .inr (.inr ?_)
    rw [take]
    rcases b.addBinding?_cases n with heq | ⟨-, heq⟩ <;> rw [heq] <;>
      exact ⟨rfl, fun _ => rfl, fun _ => rfl⟩
  | overrideNamespace namespaceName =>
    exact .inr (.inr (b.sameTypes_overrideNamespace namespaceName))

/-- **Facets after a step**: all stay what they are, or one with a free name and a registered type
is appended. -/
theorem take_facets_cases (b : Builder) (s : BuilderStep) :
    ((b.take s).entitySets = b.entitySets ∧ (b.take s).singletons = b.singletons) ∨
      (∃ set : EntitySet, b.hasFacet set.name = false ∧ b.isStructuralType set.elementType = true ∧
        b.take s = { b with entitySets := b.entitySets ++ [set] }) ∨
      ∃ singleton : SingletonFacet, b.hasFacet singleton.name = false ∧
        b.isStructuralType singleton.typeName = true ∧
        b.take s = { b with singletons := b.singletons ++ [singleton] } := by
  cases s with
  | meet request =>
    cases request with
    | structuralType name =>
      rw [take, meet_structuralType]
      exact .inl (b.sameButTypes_register [name]).facets
    | enumType name => exact .inl (b.sameButTypes_addEnumTypes [name]).facets
    | entitySet name elementType origin =>
      rw [take, meet, meet?]
      rcases b.addEntitySet?_cases name elementType origin with heq | ⟨hname, htype, heq⟩ <;>
        rw [heq]
      · exact .inl ⟨rfl, rfl⟩
      · exact .inr (.inl ⟨_, hname, htype, rfl⟩)
    | singleton name typeName origin =>
      rw [take, meet, meet?]
      rcases b.addSingleton?_cases name typeName origin with heq | ⟨hname, htype, heq⟩ <;> rw [heq]
      · exact .inl ⟨rfl, rfl⟩
      · exact .inr (.inr ⟨_, hname, htype, rfl⟩)
    | key typeName key => exact .inl (b.sameButTypes_addKey? typeName key).facets
  | addOperation o => exact .inl ⟨rfl, rfl⟩
  | addBinding n =>
    refine .inl ?_
    rw [take]
    rcases b.addBinding?_cases n with heq | ⟨-, heq⟩ <;> rw [heq] <;> exact ⟨rfl, rfl⟩
  | overrideNamespace namespaceName => exact .inl ⟨rfl, rfl⟩

/-! ### What assemblies do -/

theorem Reachable.meetAll (h : b.Reachable) (requests : List BuilderRequest) :
    (b.meetAll requests).Reachable :=
  meetAll_induction (fun request _ _ h => h.step (.meet request)) h

/-- A scanned property is taken in by a request for its facet, if by anything. -/
theorem exists_requests_adoptFacet (b : Builder) (p : ScannedProperty) :
    ∃ requests, b.adoptFacet p = b.meetAll requests := by
  rw [adoptFacet]
  split
  · exact ⟨[.entitySet ..], rfl⟩
  · exact ⟨[.singleton ..], rfl⟩
  · exact ⟨[], rfl⟩

/-- What is listed on the way does not matter for the builder. -/
theorem adoptFacets_fst (b : Builder) (host : String) (scanned : List ScannedProperty) :
    (b.adoptFacets host scanned).1 = scanned.foldl Builder.adoptFacet b := by
  rw [adoptFacets]
  generalize ({ hostType := host } : ConventionCatalog) = c
  induction scanned generalizing b c with
  | nil => rfl
  | cons p rest ih => exact ih (b.adoptFacet p) _

/-- Adopting the facets of host properties amounts to requests, one at most for each property. -/
theorem exists_requests_adoptFacets (b : Builder) (host : String)
    (scanned : List ScannedProperty) :
    ∃ requests, (b.adoptFacets host scanned).1 = b.meetAll requests := by
  rw [adoptFacets_fst]
  induction scanned generalizing b with
  | nil => exact ⟨[], rfl⟩
  | cons p rest ih =>
    obtain ⟨first, hfirst⟩ := b.exists_requests_adoptFacet p
    obtain ⟨others, hothers⟩ := ih (b.adoptFacet p)
    refine ⟨first ++ others, ?_⟩
    rw [List.foldl_cons, hothers, hfirst, meetAll, meetAll, meetAll, List.foldl_append]

theorem Reachable.adoptFacets (h : b.Reachable) (host : String) (scanned : List ScannedProperty) :
    (b.adoptFacets host scanned).1.Reachable := by
  obtain ⟨requests, heq⟩ := b.exists_requests_adoptFacets host scanned
  rw [heq]
  exact h.meetAll requests

/-- Operations are attached one by one. What a method becomes depends on types and entity sets,
which the operations attached before it do not change. -/
theorem attachOperations_eq_foldl (b : Builder) (scanned : List ScannedOperation) :
    b.attachOperations scanned = (scanned.filterMap b.operationOf?).foldl addOperation b := by
  rw [attachOperations]
  generalize scanned.filterMap b.operationOf? = operations
  induction operations generalizing b with
  | nil => simp
  | cons o rest ih =>
    rw [List.foldl_cons, ← ih (b.addOperation o)]
    simp [addOperation]

/-- Attaching operations is a number of steps. -/
theorem Reachable.attachOperations (h : b.Reachable) (scanned : List ScannedOperation) :
    (b.attachOperations scanned).Reachable := by
  rw [attachOperations_eq_foldl]
  generalize scanned.filterMap b.operationOf? = operations
  induction operations generalizing b with
  | nil => exact h
  | cons o rest ih => exact ih (h.step (.addOperation o))

end Builder

end FacetModel
