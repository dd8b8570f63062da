import FacetModel.Proofs.Builder.Recursion
import FacetModel.Proofs.Registry
import Mathlib

/-!
# Requests for types

What a builder has after some requests for types does not depend on their order, nor on how often a
type was requested. The structural types are the declared ones to which declarations lead from the
requested names (`Registry.Reaches`), also where they lead in circles; the enum types are the
declared ones that were requested or that a registered type refers to. `Builder.types_of_requests`
says this for all lists of requests.

A request for one more type adds the types that are reached through missing ones
(`Builder.Reached`). These and the types that were there are all that is reached, because from a
registered type everything is there already (`Registry.reaches_insert_iff`).
-/

namespace FacetModel

/-! ### What declarations lead to -/

namespace Registry

/-- The declaration of a type names another type as its base type, or as the type of a property or
of its elements. -/
def Follows (r : Registry) (name other : String) : Prop :=
  ∃ t, r.structural? name = some t ∧ (t.base = some other ∨ other ∈ t.references)

/-- A declared structural type to which declarations lead from a requested name. -/
def Reaches (r : Registry) (requested : String → Prop) (name : String) : Prop :=
  (∃ t, r.structural? name = some t) ∧
    ∃ first, requested first ∧ Relation.ReflTransGen r.Follows first name

variable {r : Registry} {requested : String → Prop} {name other : String}

theorem Reaches.follow (h : r.Reaches requested name) (hother : r.Follows name other)
    (hdeclared : ∃ t, r.structural? other = some t) : r.Reaches requested other := by
  obtain ⟨-, first, hfirst, hpath⟩ := h
  exact ⟨hdeclared, first, hfirst, hpath.tail hother⟩

theorem Reaches.mono {more : String → Prop} (h : r.Reaches requested name)
    (hsub : ∀ n, requested n → more n) : r.Reaches more name := by
  obtain ⟨hdeclared, first, hfirst, hpath⟩ := h
  exact ⟨hdeclared, first, hsub first hfirst, hpath⟩

end Registry

/-- Requests for structural types and enum types. -/
def BuilderRequest.IsForType : BuilderRequest → Prop
  | .structuralType _ => True
  | .enumType _ => True
  | .entitySet .. => False
  | .singleton .. => False
  | .key .. => False

namespace Builder

variable {b : Builder} {requested : String → Prop} {name other : String} {t : StructuralType}

/-! ### One more request -/

/-- With unique names, the types next to a declared one are those that its declaration names. -/
theorem mem_neighbours_iff (hr : b.registry.NamesUnique)
    (hother : ∃ u, b.registry.structural? other = some u) :
    other ∈ b.neighbours t ↔ t.base = some other ∨ other ∈ t.references := by
  obtain ⟨u, hu⟩ := hother
  have hno : b.registry.enum? other = none := hr.structural_enum.eq_none hu
  rw [neighbours, List.mem_append, Option.mem_toList, List.mem_filter, hno]
  simp

/-- What is reached through missing types is reached. -/
theorem Reached.reaches (hr : b.registry.NamesUnique) (h : b.Reached [name] other) :
    b.registry.Reaches (· = name) other := by
  induction h with
  | asked hmem ht =>
    exact ⟨⟨_, ht.declared⟩, name, rfl, List.mem_singleton.1 hmem ▸ .refl⟩
  | @next middle other t u h ht hother hu ih =>
    have hdeclared : ∃ u, b.registry.structural? other = some u := ⟨u, hu.declared⟩
    exact ih.follow ⟨_, ht, (mem_neighbours_iff hr hdeclared).1 hother⟩ hdeclared

/-- **One more name**: all that is reached was reached before, or is reached from the new name
through missing types. -/
theorem reaches_insert_iff (hr : b.registry.NamesUnique)
    (hb : ∀ n, b.isStructuralType n = true ↔ b.registry.Reaches requested n) :
    b.registry.Reaches (fun n => requested n ∨ n = name) other ↔
      b.isStructuralType other = true ∨ b.Reached [name] other := by
  constructor
  · rintro ⟨hdeclared, first, hfirst, hpath⟩
    rcases hfirst with hfirst | rfl
    · exact .inl ((hb other).2 ⟨hdeclared, first, hfirst, hpath⟩)
    · induction hpath with
      | refl =>
        obtain ⟨t, ht⟩ := hdeclared
        cases hregistered : b.isStructuralType first with
        | true => exact .inl rfl
        | false => exact .inr (.asked List.mem_cons_self ⟨hregistered, ht⟩)
      | @tail middle other _ hfollows ih =>
        obtain ⟨t, ht, hnext⟩ := hfollows
        rcases ih ⟨t, ht⟩ with hmiddle | hmiddle
        -- a registered type was reached, and so is what its declaration leads to
        · exact .inl ((hb other).2 (((hb middle).1 hmiddle).follow ⟨t, ht, hnext⟩ hdeclared))
        · obtain ⟨u, hu⟩ := hdeclared
          cases hregistered : b.isStructuralType other with
          | true => exact .inl rfl
          | false =>
            have hneighbour := (mem_neighbours_iff hr ⟨u, hu⟩).2 hnext
            exact .inr (.next hmiddle ht hneighbour ⟨hregistered, hu⟩)
  · rintro (hregistered | hreached)
    · exact ((hb other).1 hregistered).mono fun _ => .inl
    · exact (hreached.reaches hr).mono fun _ => .inr

/-- What a builder has after requests for some structural types and some enum types. -/
structure HasRequested (b : Builder) (requested enums : String → Prop) : Prop where
  structural : ∀ name, b.isStructuralType name = true ↔ b.registry.Reaches requested name
  declared : ∀ name p, b.types.get? name = some p → ∃ t, b.registry.structural? name = some t ∧
    p = { namespaceName := t.namespaceName, kind := t.kind,
          baseType := b.registry.declaredBase? t, keys := t.keys }
  enum : ∀ name e, b.enumTypes.get? name = some e ↔ b.registry.enum? name = some e ∧
    (enums name ∨ ∃ referring t, b.isStructuralType referring = true ∧
      b.registry.structural? referring = some t ∧ name ∈ t.references)

variable {enums : String → Prop}

/-- A request for a structural type. -/
theorem HasRequested.register (h : b.HasRequested requested enums) (hr : b.registry.NamesUnique)
    (hsound : b.TypesSound []) (name : String) :
    (b.register [name]).HasRequested (fun n => requested n ∨ n = name) enums := by
  have hfrom := b.registeredFrom_register [name]
  have hsub : ∀ n, b.isStructuralType n = true → (b.register [name]).isStructuralType n = true :=
    fun n => isStructuralType_register [name]
  refine ⟨fun n => ?_, fun n p hp => ?_, fun n e => ?_⟩
  · rw [hfrom.registry, isStructuralType_register_iff, reaches_insert_iff hr h.structural]
  · rw [hfrom.registry]
    cases hold : b.types.get? n with
    | some q =>
      cases hp.symm.trans (hfrom.kept n q hold)
      exact h.declared n p hold
    | none =>
      obtain ⟨t, ht, rfl⟩ := hfrom.new n p hp hold
      exact ⟨t, ht, hsound.pendingOf_eq t⟩
  · rw [hfrom.registry, hfrom.enum n e]
    constructor
    · rintro (hold | ⟨-, hdeclared, referring, t, ht, hregistered, href⟩)
      · obtain ⟨hdeclared, henum⟩ := (h.enum n e).1 hold
        refine ⟨hdeclared, henum.imp_right ?_⟩
        rintro ⟨referring, t, hregistered, ht, href⟩
        exact ⟨referring, t, hsub referring hregistered, ht, href⟩
      · exact ⟨hdeclared, .inr ⟨referring, t, hregistered, ht.declared, href⟩⟩
    · rintro ⟨hdeclared, henum | ⟨referring, t, hregistered, ht, href⟩⟩
      · exact .inl ((h.enum n e).2 ⟨hdeclared, .inl henum⟩)
      · cases hold : b.isStructuralType referring with
        | true => exact .inl ((h.enum n e).2 ⟨hdeclared, .inr ⟨referring, t, hold, ht, href⟩⟩)
        | false =>
          -- the enum type may have come in before, and then as it is declared
          cases hget : b.enumTypes.get? n with
          | some d =>
            cases ((h.enum n d).1 hget).1.symm.trans hdeclared
            exact .inl rfl
          | none => exact .inr ⟨rfl, hdeclared, referring, t, ⟨hold, ht⟩, hregistered, href⟩

/-- A request for an enum type. -/
theorem HasRequested.addEnumTypes (h : b.HasRequested requested enums) (name : String) :
    (b.addEnumTypes [name]).HasRequested requested (fun n => enums n ∨ n = name) := by
  obtain ⟨htypes, hregistry⟩ := addEnumTypes_types b [name]
  refine ⟨fun n => ?_, fun n p hp => ?_, fun n e => ?_⟩
  · rw [isStructuralType_addEnumTypes, hregistry]
    exact h.structural n
  · rw [htypes] at hp
    rw [hregistry]
    exact h.declared n p hp
  · simp only [isStructuralType_addEnumTypes, hregistry, enumTypes_addEnumTypes,
      Option.or_eq_some_iff, h.enum n e, List.mem_singleton]
    constructor
    · rintro (⟨hdeclared, henum | href⟩ | ⟨-, hadded⟩)
      · exact ⟨hdeclared, .inl (.inl henum)⟩
      · exact ⟨hdeclared, .inr href⟩
      · rw [Option.ite_none_right_eq_some] at hadded
        exact ⟨hadded.2, .inl (.inr hadded.1)⟩
    · rintro ⟨hdeclared, (henum | hname) | href⟩
      · exact .inl ⟨hdeclared, .inl henum⟩
      · cases hget : b.enumTypes.get? n with
        | some d =>
          obtain ⟨hd, hold⟩ := (h.enum n d).1 hget
          exact .inl ⟨hdeclared, hold⟩
        | none => exact .inr ⟨rfl, by rw [if_pos hname, hdeclared]⟩
      · exact .inl ⟨hdeclared, .inr href⟩

/-- Only what is requested counts, and not how that is said. -/
theorem HasRequested.congr {requested' enums' : String → Prop} (h : b.HasRequested requested enums)
    (hrequested : ∀ n, requested n ↔ requested' n) (henums : ∀ n, enums n ↔ enums' n) :
    b.HasRequested requested' enums' := by
  cases (funext fun n => propext (hrequested n) : requested = requested')
  cases (funext fun n => propext (henums n) : enums = enums')
  exact h

/-- Requests one after the other: each adds its name to what is requested. -/
theorem HasRequested.meetAll {requests : List BuilderRequest} (h : b.HasRequested requested enums)
    (hr : b.registry.NamesUnique) (hb : b.Reachable) (hrequests : ∀ q ∈ requests, q.IsForType) :
    (b.meetAll requests).HasRequested (fun n => requested n ∨ .structuralType n ∈ requests)
      (fun n => enums n ∨ .enumType n ∈ requests) := by
  induction requests generalizing b requested enums with
  | nil => exact h.congr (fun n => by simp) fun n => by simp
  | cons request rest ih =>
    obtain ⟨hrequest, hrest⟩ := List.forall_mem_cons.1 hrequests
    have hregistry := (b.sameButElements_meet request).registry
    have hlater : (b.meet request).Reachable := hb.step (.meet request)
    cases request with
    | structuralType name =>
      have hmet := h.register hr hb.typesSound name
      rw [← meet_structuralType] at hmet
      refine (ih hmet (hregistry ▸ hr) hlater hrest).congr (fun n => ?_) fun n => ?_
      · simp [or_assoc]
      · simp
    | enumType name =>
      refine (ih (h.addEnumTypes name) (hregistry ▸ hr) hlater hrest).congr
        (fun n => ?_) fun n => ?_
      · simp
      · simp [or_assoc]
    | entitySet name elementType origin => cases hrequest
    | singleton name typeName origin => cases hrequest
    | key typeName key => cases hrequest

/-! ### All requests -/

/-- **Requests for types bring in what declarations lead to.** With unique names, after some
requests for types on an empty builder

* the structural types are the declared ones to which declarations lead from the requested names;
* the enum types are the declared ones that were requested or that a registered type refers to;
* a structural type is registered as it is declared, where its base type is kept if it is declared;
* a further request for a structural type ends, by calls that are nested at most once more than
  there are unregistered types, and says that the type is there exactly if it is declared. -/
theorem types_of_requests {r : Registry} (hr : r.NamesUnique) (namespaceName containerName : String)
    {requests : List BuilderRequest} (hrequests : ∀ q ∈ requests, q.IsForType) :
    let b : Builder := meetAll { registry := r, namespaceName, containerName } requests
    (∀ name, b.isStructuralType name = true ↔
        r.Reaches (fun n => .structuralType n ∈ requests) name) ∧
      (∀ name e, b.enumTypes.get? name = some e ↔ r.enum? name = some e ∧
        (.enumType name ∈ requests ∨ ∃ referring t, b.isStructuralType referring = true ∧
          r.structural? referring = some t ∧ name ∈ t.references)) ∧
      (∀ name p, b.types.get? name = some p → ∃ t, r.structural? name = some t ∧
        p = { namespaceName := t.namespaceName, kind := t.kind, baseType := r.declaredBase? t,
              keys := t.keys }) ∧
      ∀ name,
        addNested? (b.unregistered + 1) b name
          = some (b.meet (.structuralType name), (r.structural? name).isSome) ∧
        (b.addStructuralType? name).isSome = (r.structural? name).isSome := by
  intro b
  have hstart : ({ registry := r, namespaceName, containerName } : Builder).Reachable :=
    .start r namespaceName containerName
  -- an empty builder has what no requests bring in
  have hempty : ({ registry := r, namespaceName, containerName } : Builder).HasRequested
      (fun _ => False) (fun _ => False) := by
    refine ⟨fun name => ⟨nofun, ?_⟩, nofun, fun name e => ⟨nofun, ?_⟩⟩
    · rintro ⟨-, first, hfirst, -⟩
      exact hfirst.elim
    · rintro ⟨-, henum | ⟨_, _, hregistered, -⟩⟩
      · exact henum.elim
      · cases hregistered
  have hregistry : b.registry = r := (sameButElements_meetAll _ requests).registry
  have hall : b.HasRequested (fun n => .structuralType n ∈ requests)
      (fun n => .enumType n ∈ requests) :=
    (hempty.meetAll hr hstart hrequests).congr (fun n => by simp) fun n => by simp
  have hknows : ∀ name, b.knows name = (r.structural? name).isSome := fun name =>
    hregistry ▸ (hstart.meetAll requests).typesSound.knows_eq name
  obtain ⟨hstructural, hdeclared, henum⟩ := hall
  rw [hregistry] at hstructural hdeclared henum
  refine ⟨hstructural, henum, hdeclared, fun name => ⟨?_, ?_⟩⟩
  · rw [addNested?_eq (Nat.lt_succ_self _), meet_structuralType, hknows]
  · rw [← hknows, addStructuralType?]
    cases b.knows name <;> rfl

/-- Cities and roads that refer to each other, and a base type that is not declared. -/
def streetCatalog : HostCatalog where
  structuralTypes :=
    [{ name := "City", namespaceName := "Map", base := some "Place"
       properties := [{ name := "Roads", type := .collection (.reference "Road") }] },
     { name := "Place", namespaceName := "Map", base := some "Area" },
     { name := "Road", namespaceName := "Map"
       properties := [{ name := "End", type := .reference "City" },
         { name := "Surface", type := .reference "Surface" }] }]
  enumTypes := [{ name := "Surface", namespaceName := "Map" }]

/-- The registry of cities and roads. -/
def streetRegistry : Registry := streetCatalog.toRegistry.toOption.getD .empty

/-- A request for roads, after one for a type that is not declared, brings in places. -/
theorem types_of_requests_street :
    streetRegistry.NamesUnique ∧
      (∀ q ∈ [BuilderRequest.structuralType "Area", .structuralType "Road"], q.IsForType) ∧
      let b : Builder := meetAll
        { registry := streetRegistry, namespaceName := "Map", containerName := "Container" }
        [.structuralType "Area", .structuralType "Road"]
      b.isStructuralType "Place" = true ∧ (b.addStructuralType? "Area").isSome = false := by
  have hregistry : streetCatalog.toRegistry = .ok streetRegistry := by cbv
  have hr : streetRegistry.NamesUnique := Registry.namesUnique_toRegistry hregistry
  have hrequests : ∀ q ∈ [BuilderRequest.structuralType "Area", .structuralType "Road"],
      q.IsForType := by
    simp [BuilderRequest.IsForType]
  obtain ⟨hstructural, -, -, hlater⟩ := types_of_requests hr "Map" "Container" hrequests
  refine ⟨hr, hrequests, (hstructural "Place").2 ?_, (hlater "Area").2.trans (by cbv)⟩
  have hcity : streetRegistry.Follows "Road" "City" := ⟨_, by cbv, .inr (by decide)⟩
  have hplace : streetRegistry.Follows "City" "Place" := ⟨_, by cbv, .inl (by cbv)⟩
  exact ⟨⟨_, by cbv⟩, "Road", by simp, .tail (.single hcity) hplace⟩

end Builder

end FacetModel
