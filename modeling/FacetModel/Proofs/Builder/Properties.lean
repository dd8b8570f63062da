import FacetModel.Proofs.Builder.Keys

/-!
# Properties of built types

The model of a builder sorts the declared properties of a type. By the type of its values, or of its
elements, a property is one with values of its own, or leads to entities, or is neither
(`Registry.HasSort`). The builder asks what is registered and not what is declared. This comes to
the same (`Reachable.sorts_properties`): a registration brings in all that its types refer to
(`Builder.Closed`), and no name is that of a structural type and of an enum type.
-/

namespace FacetModel

/-! ### Sorts of properties -/

/-- What a property is in a model. -/
inductive PropertySort where
  /-- A property with values of its own. -/
  | value
  /-- A property that leads to entities. -/
  | navigation (target : String)
  /-- No property. -/
  | neither

/-- A navigation property is what a declared property leads to. -/
structure StructuralProperty.LeadsTo (p : StructuralProperty) (target : String)
    (n : NavigationProperty) : Prop where
  name : n.name = p.name
  target : n.targetType = target
  isCollection : n.isCollection = true ↔ ∃ element, p.type.IsSequenceOf element
  singletonTarget : n.singletonTarget = p.singletonTarget

namespace Registry

variable {r : Registry} {type : DeclaredType} {sort : PropertySort}

/-- The sort of a property by the type of its values or of its elements. -/
inductive HasSort (r : Registry) : DeclaredType → PropertySort → Prop
  | primitive (kind : PrimitiveKind) : HasSort r (.primitive kind) .value
  | enum {name : String} {e : EnumType} (he : r.enum? name = some e) :
      HasSort r (.reference name) .value
  | complex {name : String} {t : StructuralType} (ht : r.structural? name = some t)
      (hkind : t.kind = .complex) : HasSort r (.reference name) .value
  | entity {name : String} {t : StructuralType} (ht : r.structural? name = some t)
      (hkind : t.kind = .entity) : HasSort r (.reference name) (.navigation name)
  | undeclared {name : String} (ht : r.structural? name = none) (he : r.enum? name = none) :
      HasSort r (.reference name) .neither
  | void : HasSort r .void .neither
  | queryable (element : DeclaredType) : HasSort r (.queryable element) .neither
  | collection (element : DeclaredType) : HasSort r (.collection element) .neither
  | generic (name : String) (args : List DeclaredType) : HasSort r (.generic name args) .neither

/-- Declared properties are sorted into properties with values and navigation properties, both in
their order. -/
inductive Sorts (r : Registry) :
    List StructuralProperty → List ModelProperty → List NavigationProperty → Prop
  | nil : Sorts r [] [] []
  | value {p : StructuralProperty} {rest : List StructuralProperty} {values : List ModelProperty}
      {navigations : List NavigationProperty} (hsort : r.HasSort p.type.elementOrSelf .value)
      (hrest : Sorts r rest values navigations) :
      Sorts r (p :: rest) ({ name := p.name, type := p.type } :: values) navigations
  | navigation {p : StructuralProperty} {rest : List StructuralProperty}
      {values : List ModelProperty} {navigations : List NavigationProperty} {target : String}
      {n : NavigationProperty} (hsort : r.HasSort p.type.elementOrSelf (.navigation target))
      (hn : p.LeadsTo target n) (hrest : Sorts r rest values navigations) :
      Sorts r (p :: rest) values (n :: navigations)
  | neither {p : StructuralProperty} {rest : List StructuralProperty} {values : List ModelProperty}
      {navigations : List NavigationProperty} (hsort : r.HasSort p.type.elementOrSelf .neither)
      (hrest : Sorts r rest values navigations) : Sorts r (p :: rest) values navigations

/-- The sort that a type has. -/
def sortOf (r : Registry) : DeclaredType → PropertySort
  | .primitive _ => .value
  | .reference name =>
    match r.structural? name with
    | some t =>
      match t.kind with
      | .entity => .navigation name
      | .complex => .value
    | none => if (r.enum? name).isSome then .value else .neither
  | _ => .neither

/-- Each type has a sort. -/
theorem hasSort_sortOf (r : Registry) (type : DeclaredType) : r.HasSort type (r.sortOf type) := by
  cases type with
  | void => exact .void
  | primitive kind => exact .primitive kind
  | queryable element => exact .queryable element
  | collection element => exact .collection element
  | generic name args => exact .generic name args
  | reference name =>
    rw [sortOf]
    cases ht : r.structural? name with
    | some t =>
      dsimp only
      cases hkind : t.kind with
      | entity => exact .entity ht hkind
      | complex => exact .complex ht hkind
    | none =>
      cases he : r.enum? name with
      | some e => exact .enum he
      | none => exact .undeclared ht he

/-- With unique names, a type has no other sort than the one that is computed. -/
theorem HasSort.sortOf_eq (h : r.HasSort type sort) (hr : r.NamesUnique) :
    r.sortOf type = sort := by
  cases h with
  | primitive kind => rfl
  | enum he =>
    -- the name of an enum type is not also that of a structural type, which would be asked for
    -- first
    rw [sortOf, structural?, hr.structural_enum.symm.eq_none he, he]
    rfl
  | complex ht hkind =>
    rw [sortOf, ht]
    dsimp only
    rw [hkind]
  | entity ht hkind =>
    rw [sortOf, ht]
    dsimp only
    rw [hkind]
  | undeclared ht he =>
    rw [sortOf, ht, he]
    rfl
  | void => rfl
  | queryable element => rfl
  | collection element => rfl
  | generic name args => rfl

/-- With unique names, each type has one sort. -/
theorem NamesUnique.existsUnique_hasSort (hr : r.NamesUnique) (type : DeclaredType) :
    ∃! sort, r.HasSort type sort :=
  ⟨r.sortOf type, r.hasSort_sortOf type, fun _ h => (h.sortOf_eq hr).symm⟩

/-- A declared type has a property of another type, or with elements of it. -/
def Refers (r : Registry) (name other : String) : Prop :=
  ∃ t, r.structural? name = some t ∧ other ∈ t.references

end Registry

namespace Builder

variable {b b' : Builder} {name other : String} {p : StructuralProperty}

/-! ### What registered types refer to -/

/-- What registered types refer to is registered as well, as far as it is declared. -/
structure Closed (b : Builder) : Prop where
  structural : ∀ {name other t}, b.isStructuralType name = true → b.registry.Refers name other →
    b.registry.structural? other = some t → b.registry.enum? other = none →
      b.isStructuralType other = true
  enum : ∀ {name other e}, b.isStructuralType name = true → b.registry.Refers name other →
    b.registry.enum? other = some e → b.enumTypes.contains other = true

/-- A registration brings in what the new types refer to, and what the old ones refer to is there.
-/
theorem Closed.register (h : b.Closed) (names : List String) : (b.register names).Closed := by
  have hfrom := b.registeredFrom_register names
  refine ⟨fun {name other u} hname hrefers hu henum => ?_,
    fun {name other d} hname hrefers hd => ?_⟩
  · rw [hfrom.registry] at hrefers hu henum
    cases hother : b.isStructuralType other with
    | true => exact hfrom.isStructuralType hother
    | false =>
      -- a type that is reached makes its missing neighbours be reached as well
      rcases isStructuralType_register_iff.1 hname with hold | hreached
      · cases hother.symm.trans (h.structural hold hrefers hu henum)
      · obtain ⟨t, ht, href⟩ := hrefers
        have hneighbour : other ∈ b.neighbours t :=
          List.mem_append_right _ (List.mem_filter.2 ⟨href, by rw [henum]; rfl⟩)
        exact isStructuralType_register_iff.2 (.inr (.next hreached ht hneighbour ⟨hother, hu⟩))
  · rw [hfrom.registry] at hrefers hd
    rw [NameMap.contains, Option.isSome_iff_exists]
    cases hget : b.enumTypes.get? other with
    | some e => exact ⟨e, (hfrom.enum other e).2 (.inl hget)⟩
    | none =>
      cases hold : b.isStructuralType name with
      | true =>
        have hthere := h.enum hold hrefers hd
        rw [NameMap.contains, hget] at hthere
        cases hthere
      | false =>
        -- the type is a new one, and brings in the enum type
        obtain ⟨t, ht, href⟩ := hrefers
        exact ⟨d, (hfrom.enum other d).2 (.inr ⟨hget, hd, name, t, ⟨hold, ht⟩, hname, href⟩)⟩

theorem Closed.addEnumTypes (h : b.Closed) (names : List String) :
    (b.addEnumTypes names).Closed := by
  obtain ⟨htypes, hregistry⟩ := addEnumTypes_types b names
  refine ⟨fun hname hrefers hu henum => ?_, fun hname hrefers hd => ?_⟩
  · rw [isStructuralType_congr htypes] at hname ⊢
    rw [hregistry] at hrefers hu henum
    exact h.structural hname hrefers hu henum
  · rw [isStructuralType_congr htypes] at hname
    rw [hregistry] at hrefers hd
    obtain ⟨e, he⟩ := Option.isSome_iff_exists.1 (h.enum hname hrefers hd)
    rw [NameMap.contains, enumTypes_addEnumTypes, he]
    rfl

theorem Closed.of_sameTypes (h : b.Closed) (hsame : b.SameTypes b') : b'.Closed := by
  refine ⟨fun hname hrefers hu henum => ?_, fun hname hrefers hd => ?_⟩
  · rw [hsame.isStructuralType] at hname ⊢
    rw [hsame.registry] at hrefers hu henum
    exact h.structural hname hrefers hu henum
  · rw [hsame.isStructuralType] at hname
    rw [hsame.registry] at hrefers hd
    rw [hsame.contains_enumTypes]
    exact h.enum hname hrefers hd

/-- Nothing is left out by whatever is added to a builder. -/
theorem Closed.take (h : b.Closed) (s : BuilderStep) : (b.take s).Closed := by
  rcases b.take_types_cases s with ⟨names, heq⟩ | ⟨names, heq⟩ | hsame
  · rw [heq]
    exact h.register names
  · rw [heq]
    exact h.addEnumTypes names
  · exact h.of_sameTypes hsame

theorem Reachable.closed (h : b.Reachable) : b.Closed := by
  induction h with
  | start registry namespaceName containerName => exact ⟨nofun, nofun⟩
  | step h s ih => exact ih.take s

/-! ### Sorting by what is registered -/

/-- The builder treats a property as its sort says. -/
def TreatsAs (b : Builder) (p : StructuralProperty) : PropertySort → Prop
  | .value => b.isStructural p = true ∧ b.navigationOf? p = none
  | .navigation target =>
    b.isStructural p = false ∧ ∃ n, b.navigationOf? p = some n ∧ p.LeadsTo target n
  | .neither => b.isStructural p = false ∧ b.navigationOf? p = none

/-- Only declared enum types are registered. -/
theorem TypesSound.contains_enumTypes (h : b.TypesSound []) (he : b.registry.enum? name = none) :
    b.enumTypes.contains name = false := by
  rw [NameMap.contains, Option.isSome_eq_false_iff, Option.isNone_iff_eq_none,
    Option.eq_none_iff_forall_ne_some]
  rintro e hget
  obtain ⟨d, hd, -⟩ := h.enum name e hget
  cases he.symm.trans hd

/-- Registered types are of the kind that they are declared with. -/
theorem TypesSound.isEntityType_eq (h : b.TypesSound []) {t : StructuralType}
    (ht : b.registry.structural? name = some t) (hname : b.isStructuralType name = true) :
    b.isEntityType name = (t.kind == .entity) := by
  obtain ⟨q, hq⟩ := isStructuralType_iff.1 hname
  obtain ⟨u, hu, hkind⟩ := h.declared name q hq
  cases ht.symm.trans hu
  rw [Builder.isEntityType, hq, Option.any_some, hkind]

theorem isEntityType_of_unregistered (h : b.isStructuralType name = false) :
    b.isEntityType name = false := by
  rw [isEntityType, isStructuralType_eq_false_iff.1 h]
  rfl

/-- A property that refers to an entity type leads to it. -/
theorem exists_navigationOf? {target : String} (htype : p.type.elementOrSelf = .reference target)
    (h : b.isEntityType target = true) : ∃ n, b.navigationOf? p = some n ∧ p.LeadsTo target n := by
  refine ⟨_, by rw [navigationOf?, htype]; exact if_pos h, rfl, rfl, ?_, rfl⟩
  rw [Option.isSome_iff_exists]
  exact exists_congr fun _ => DeclaredType.sequenceElement?_eq_some_iff

/-- Where nothing is left out, the builder treats the properties of a type as they are sorted. -/
theorem Closed.treatsAs (h : b.Closed) (hsound : b.TypesSound []) (hr : b.registry.NamesUnique)
    (hname : b.isStructuralType name = true) {t : StructuralType}
    (ht : b.registry.structural? name = some t) (hp : p ∈ t.properties) {sort : PropertySort}
    (hsort : b.registry.HasSort p.type.elementOrSelf sort) : b.TreatsAs p sort := by
  have hrefers : ∀ {other}, p.type.elementOrSelf = .reference other →
      b.registry.Refers name other := fun htype =>
    ⟨t, ht, List.mem_filterMap.2 ⟨p, hp, by rw [htype]; rfl⟩⟩
  -- sorts go by what is declared, the builder by what is registered
  generalize htype : p.type.elementOrSelf = type at hsort hrefers
  cases hsort with
  | primitive kind | void | queryable element | collection element | generic other args =>
    rw [TreatsAs, isStructural, navigationOf?, htype]
    exact ⟨rfl, rfl⟩
  | @enum other e he =>
    have hentity : b.isEntityType other = false := isEntityType_of_unregistered
      (hsound.isStructuralType_of_undeclared (hr.structural_enum.symm.eq_none he))
    have henum : b.enumTypes.contains other = true := h.enum hname (hrefers rfl) he
    simp [TreatsAs, isStructural, navigationOf?, htype, DeclaredType.referenceName?, henum, hentity]
  | @complex other u hu hkind =>
    have hregistered : b.isStructuralType other = true :=
      h.structural hname (hrefers rfl) hu (hr.structural_enum.eq_none hu)
    have hentity : b.isEntityType other = false := by
      rw [hsound.isEntityType_eq hu hregistered, hkind]
      rfl
    simp [TreatsAs, isStructural, navigationOf?, htype, DeclaredType.referenceName?, hregistered,
      hentity]
  | @entity other u hu hkind =>
    have hno : b.registry.enum? other = none := hr.structural_enum.eq_none hu
    have hregistered : b.isStructuralType other = true :=
      h.structural hname (hrefers rfl) hu hno
    have hentity : b.isEntityType other = true := by
      rw [hsound.isEntityType_eq hu hregistered, hkind]
      rfl
    refine ⟨?_, exists_navigationOf? htype hentity⟩
    simp [isStructural, htype, hentity, hsound.contains_enumTypes hno]
  | @undeclared other hu he =>
    have hregistered := hsound.isStructuralType_of_undeclared hu
    simp [TreatsAs, isStructural, navigationOf?, htype, DeclaredType.referenceName?, hregistered,
      isEntityType_of_unregistered hregistered, hsound.contains_enumTypes he]

/-- Properties are sorted as the builder treats each of them. -/
theorem sorts_of_treatsAs {r : Registry} {properties : List StructuralProperty}
    (h : ∀ p ∈ properties, ∃ sort, r.HasSort p.type.elementOrSelf sort ∧ b.TreatsAs p sort) :
    r.Sorts properties
      ((properties.filter b.isStructural).map fun p => { name := p.name, type := p.type })
      (properties.filterMap b.navigationOf?) := by
  induction properties with
  | nil => exact .nil
  | cons p rest ih =>
    obtain ⟨⟨sort, hsort, htreats⟩, hrest⟩ := List.forall_mem_cons.1 h
    cases sort with
    | value =>
      rw [List.filter_cons_of_pos htreats.1, List.filterMap_cons_none htreats.2, List.map_cons]
      exact .value hsort (ih hrest)
    | navigation target =>
      obtain ⟨hno, n, hn, hleads⟩ := htreats
      rw [List.filter_cons_of_neg (Bool.eq_false_iff.1 hno), List.filterMap_cons_some hn]
      exact .navigation hsort hleads (ih hrest)
    | neither =>
      rw [List.filter_cons_of_neg (Bool.eq_false_iff.1 htreats.1),
        List.filterMap_cons_none htreats.2]
      exact .neither hsort (ih hrest)

/-- **Every declared property is sorted once.** In whatever order the types of a registry were
declared and the elements of a builder were added, each type that a property can have is of one sort
by what is declared; and the descriptor of a registered type has the properties and navigation
properties that the declared ones of the type are by their sorts, in their order, and no others. -/
theorem Reachable.sorts_properties (h : b.Reachable) {declarations : List TypeDeclaration}
    (hregistry : b.registry = Registry.empty.registerAll declarations)
    (hname : b.isStructuralType name = true) :
    (∀ type, ∃! sort, b.registry.HasSort type sort) ∧
      ∃ t d, b.registry.structural? name = some t ∧ b.build.findType? name = some d ∧
        b.registry.Sorts t.properties d.properties d.navigationProperties := by
  have hr : b.registry.NamesUnique :=
    hregistry ▸ Registry.namesUnique_empty.registerAll declarations
  have hsound := h.typesSound
  obtain ⟨q, hq⟩ := isStructuralType_iff.1 hname
  obtain ⟨t, ht, -⟩ := hsound.declared name q hq
  have hdeclared : b.declaredProperties name = t.properties := by
    rw [declaredProperties, definition?, if_pos hname, ht]
    rfl
  refine ⟨hr.existsUnique_hasSort, t, _, ht, findType?_build hq, ?_⟩
  rw [describe, structuralProperties, navigationProperties, hdeclared]
  refine sorts_of_treatsAs fun p hp => ?_
  have hsort := b.registry.hasSort_sortOf p.type.elementOrSelf
  exact ⟨_, hsort, h.closed.treatsAs hsound hr hname ht hp hsort⟩

/-! ### Owners and pets -/

/-- Owners have properties of all sorts. -/
def ownerDeclarations : List TypeDeclaration :=
  [.structural { name := "Address", namespaceName := "Home", kind := .complex },
   .enum { name := "Color", namespaceName := "Home" },
   .structural { name := "Pet", namespaceName := "Home" },
   .structural
    { name := "Owner", namespaceName := "Home"
      properties :=
        [{ name := "Id", type := .primitive .int32 },
         { name := "Pets", type := .collection (.reference "Pet") },
         { name := "Address", type := .reference "Address" },
         { name := "Groups", type := .collection (.collection (.reference "Pet")) },
         { name := "First", type := .reference "Pet", singletonTarget := true },
         { name := "Colors", type := .queryable (.reference "Color") },
         { name := "Car", type := .reference "Car" }] }]

/-- A builder with owners and all that they refer to. -/
def ownerBuilder : Builder :=
  meetAll { registry := Registry.empty.registerAll ownerDeclarations, namespaceName := "Home",
            containerName := "Container" }
    [.structuralType "Owner"]

/-- Owners have three properties with values and two that lead to pets. -/
theorem sorts_properties_owner :
    ownerBuilder.Reachable ∧
      ownerBuilder.registry = Registry.empty.registerAll ownerDeclarations ∧
      ownerBuilder.isStructuralType "Owner" = true ∧
      (∃! sort, ownerBuilder.registry.HasSort (.reference "Car") sort) ∧
      (ownerBuilder.build.findType? "Owner").map
          (fun d => (d.properties.map (·.name), d.navigationProperties)) =
        some (["Id", "Address", "Colors"],
          [{ name := "Pets", targetType := "Pet", isCollection := true, singletonTarget := false },
           { name := "First", targetType := "Pet", isCollection := false,
             singletonTarget := true }]) := by
  have hreachable : ownerBuilder.Reachable := (Reachable.start _ _ _).meetAll _
  have hregistry : ownerBuilder.registry = Registry.empty.registerAll ownerDeclarations :=
    (sameButElements_meetAll _ _).registry
  have hname : ownerBuilder.isStructuralType "Owner" = true := by cbv
  exact ⟨hreachable, hregistry, hname,
    (hreachable.sorts_properties hregistry hname).1 (.reference "Car"), by cbv⟩

end Builder

end FacetModel
