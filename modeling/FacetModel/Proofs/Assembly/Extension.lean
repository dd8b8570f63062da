import FacetModel.Proofs.Assembly.Facets
import FacetModel.Proofs.Builder.Registration
import FacetModel.Proofs.Registry.Lookups

/-!
# What a valid registration leaves

All types that a valid catalog registers are declared. So each of its requests for facets and keys
is met for a type that is there, and a facet is refused only if its name is taken: what is found by
a name in the end is the first facet of this name among those that were there before and those that
are registered (`Builder.facetNamed?_meetAll_requests`). Types, keys and facets that were there
stay, and facets keep their positions (`Builder.isPrefix_meetAll`).

`Builder.extend_exact` says this for any model under construction over the registry of the catalog.
-/

namespace FacetModel

/-- A facet of either kind. -/
inductive Facet where
  | entitySet (s : EntitySet)
  | singleton (s : SingletonFacet)
deriving DecidableEq, Repr

namespace Facet

/-- The name of a facet. -/
def name : Facet → String
  | .entitySet s => s.name
  | .singleton s => s.name

/-- The type of the entities of a facet. -/
def type : Facet → String
  | .entitySet s => s.elementType
  | .singleton s => s.typeName

/-- The request for a facet. -/
def request : Facet → BuilderRequest
  | .entitySet s => .entitySet s.name s.elementType s.origin
  | .singleton s => .singleton s.name s.typeName s.origin

/-- The requests for a facet and its type. -/
def requests (f : Facet) : List BuilderRequest := [.structuralType f.type, f.request]

end Facet

/-- The facets that are registered, entity sets first. -/
def ModelRegistration.facetList (r : ModelRegistration) : List Facet :=
  r.entitySets.map (fun f =>
      .entitySet { name := f.name, elementType := f.typeName, origin := .registered })
    ++ r.singletons.map fun f =>
      .singleton { name := f.name, typeName := f.typeName, origin := .registered }

/-- The first facet of a name that is registered. -/
def ModelRegistration.facetNamed? (r : ModelRegistration) (name : String) : Option Facet :=
  r.facetList.find? (·.name == name)

namespace Builder

/-- The facets of a model under construction, entity sets first. -/
def facetList (b : Builder) : List Facet :=
  b.entitySets.map .entitySet ++ b.singletons.map .singleton

/-- The first facet of a name. -/
def facetNamed? (b : Builder) (name : String) : Option Facet :=
  b.facetList.find? (·.name == name)

/-- The model under construction with one more facet. -/
def addFacet (b : Builder) : Facet → Builder
  | .entitySet s => { b with entitySets := b.entitySets ++ [s] }
  | .singleton s => { b with singletons := b.singletons ++ [s] }

/-- A registered type has a key among its keys. -/
def HasKey (b : Builder) (type key : String) : Prop :=
  ∃ p, b.types.get? type = some p ∧ key ∈ p.keys

variable {b b' : Builder} {name type key : String} {requests : List BuilderRequest}
  {t : StructuralType}

/-! ### What requests keep -/

/-- A registered type stays registered. -/
theorem isStructuralType_meetAll (h : b.isStructuralType name = true)
    (requests : List BuilderRequest) : (b.meetAll requests).isStructuralType name = true :=
  meetAll_induction (P := (·.isStructuralType name = true))
    (fun request _ _ => isStructuralType_take (.meet request)) h

/-- Facets keep their positions, and new ones stand behind them. -/
theorem isPrefix_meetAll (b : Builder) (requests : List BuilderRequest) :
    b.entitySets <+: (b.meetAll requests).entitySets ∧
      b.singletons <+: (b.meetAll requests).singletons := by
  refine meetAll_induction
    (P := fun b' => b.entitySets <+: b'.entitySets ∧ b.singletons <+: b'.singletons)
    (fun request _ b' h => ?_) ⟨List.prefix_refl _, List.prefix_refl _⟩
  have hcases := b'.take_facets_cases (.meet request)
  rw [take] at hcases
  rcases hcases with ⟨hsets, hsingletons⟩ | ⟨set, -, -, heq⟩ | ⟨singleton, -, -, heq⟩
  · rw [hsets, hsingletons]
    exact h
  · rw [heq]
    exact ⟨h.1.trans (List.prefix_append _ _), h.2⟩
  · rw [heq]
    exact ⟨h.1, h.2.trans (List.prefix_append _ _)⟩

/-- A key of a type stays. -/
theorem HasKey.meet (h : b.HasKey type key) (request : BuilderRequest) :
    (b.meet request).HasKey type key := by
  obtain ⟨p, hp, hkey⟩ := h
  cases request with
  | structuralType name =>
    rw [meet_structuralType]
    exact ⟨p, (b.registeredFrom_register [name]).kept type p hp, hkey⟩
  | enumType name =>
    have htypes : (b.meet (.enumType name)).types = b.types := (addEnumTypes_types b [name]).1
    exact ⟨p, htypes ▸ hp, hkey⟩
  | entitySet name elementType origin =>
    rw [Builder.meet, meet?]
    rcases b.addEntitySet?_cases name elementType origin with heq | ⟨-, -, heq⟩ <;> rw [heq] <;>
      exact ⟨p, hp, hkey⟩
  | singleton name typeName origin =>
    rw [Builder.meet, meet?]
    rcases b.addSingleton?_cases name typeName origin with heq | ⟨-, -, heq⟩ <;> rw [heq] <;>
      exact ⟨p, hp, hkey⟩
  | key typeName added =>
    rw [Builder.meet, meet?]
    rcases b.addKey?_cases typeName added with heq | ⟨q, hq, heq⟩
    · rw [heq]
      exact ⟨p, hp, hkey⟩
    · rw [heq]
      by_cases hname : type = typeName
      · subst hname
        cases hp.symm.trans hq
        exact ⟨_, NameMap.get?_insert_self .., List.mem_append_left _ hkey⟩
      · exact ⟨p, (NameMap.get?_insert_of_ne _ _ hname).trans hp, hkey⟩

theorem HasKey.meetAll (h : b.HasKey type key) (requests : List BuilderRequest) :
    (b.meetAll requests).HasKey type key :=
  meetAll_induction (P := (·.HasKey type key)) (fun request _ _ h => h.meet request) h

/-! ### Types -/

/-- A request for a declared type is met. -/
theorem isStructuralType_meet (ht : b.registry.structural? name = some t) :
    (b.meet (.structuralType name)).isStructuralType name = true := by
  rw [meet_structuralType, isStructuralType_register_iff]
  cases hname : b.isStructuralType name with
  | true => exact .inl rfl
  | false => exact .inr (.asked List.mem_cons_self ⟨hname, ht⟩)

/-- A declared type that is requested is registered. -/
theorem isStructuralType_of_mem (ht : b.registry.structural? name = some t)
    (hmem : .structuralType name ∈ requests) :
    (b.meetAll requests).isStructuralType name = true := by
  obtain ⟨before, after, rfl⟩ := List.append_of_mem hmem
  rw [meetAll_append]
  rw [← registry_meetAll b before] at ht
  exact isStructuralType_meetAll (isStructuralType_meet ht) after

/-! ### Facets -/

theorem hasFacet_eq_isSome (b : Builder) (name : String) :
    b.hasFacet name = (b.facetNamed? name).isSome := by
  rw [facetNamed?, List.isSome_find?, facetList, List.any_append, List.any_map, List.any_map]
  rfl

theorem facetList_congr (h : b'.entitySets = b.entitySets ∧ b'.singletons = b.singletons) :
    b'.facetList = b.facetList := by
  rw [facetList, facetList, h.1, h.2]

/-- Where no facet is requested, none is added. -/
theorem facetList_meetAll (h : ∀ f : Facet, f.request ∉ requests) :
    (b.meetAll requests).facetList = b.facetList := by
  refine meetAll_induction (P := (·.facetList = b.facetList))
    (fun request hrequest b' hb' => ?_) rfl
  cases request with
  | structuralType name =>
    rw [meet_structuralType, facetList_congr (b'.sameButTypes_register [name]).facets, hb']
  | enumType name =>
    exact (facetList_congr (b'.sameButTypes_addEnumTypes [name]).facets).trans hb'
  | entitySet name elementType origin =>
    exact absurd hrequest (h (.entitySet { name, elementType, origin }))
  | singleton name typeName origin =>
    exact absurd hrequest (h (.singleton { name, typeName, origin }))
  | key typeName key =>
    exact (facetList_congr (b'.sameButTypes_addKey? typeName key).facets).trans hb'

/-- A facet with a registered type is refused only if its name is taken. -/
theorem meet_request (b : Builder) (f : Facet) :
    b.meet f.request = if b.admits f.name f.type then b.addFacet f else b := by
  cases f with
  | entitySet s =>
    rw [Facet.request, meet, meet?, addEntitySet?_eq, apply_ite (Option.getD · b)]
    rfl
  | singleton s =>
    rw [Facet.request, meet, meet?, addSingleton?_eq, apply_ite (Option.getD · b)]
    rfl

/-- A facet with a free name is found by its name, and all others as before. -/
theorem facetNamed?_addFacet {f : Facet} (hfree : b.hasFacet f.name = false) (name : String) :
    (b.addFacet f).facetNamed? name = (b.facetList ++ [f]).find? (·.name == name) := by
  cases f with
  | entitySet s =>
    -- the entity set stands before the singletons, but none of these has its name
    have hswap : ([Facet.entitySet s].find? (·.name == name)).or
          ((b.singletons.map Facet.singleton).find? (·.name == name)) =
        ((b.singletons.map Facet.singleton).find? (·.name == name)).or
          ([Facet.entitySet s].find? (·.name == name)) := by
      by_cases hname : s.name = name
      · have hnone : b.facetNamed? name = none := by
          rw [← Option.isNone_iff_eq_none, ← Option.isSome_eq_false_iff, ← hname,
            ← hasFacet_eq_isSome]
          exact hfree
        rw [facetNamed?, facetList, List.find?_append, Option.or_eq_none_iff] at hnone
        rw [hnone.2, Option.or_none, Option.none_or]
      · rw [List.find?_singleton, if_neg (by simpa [Facet.name] using hname), Option.or_none,
          Option.none_or]
    rw [facetNamed?, addFacet, facetList, facetList, List.map_append, List.map_singleton,
      List.append_assoc, List.append_assoc, List.find?_append, List.find?_append,
      List.find?_append, List.find?_append, hswap]
  | singleton s =>
    rw [facetNamed?, addFacet, facetList, facetList, List.map_append, List.map_singleton,
      List.append_assoc]

/-- After a request for a facet with a registered type, the facet is found by its name unless
another one was. -/
theorem facetNamed?_meet_request {f : Facet} (htype : b.isStructuralType f.type = true)
    (name : String) :
    (b.meet f.request).facetNamed? name = (b.facetList ++ [f]).find? (·.name == name) := by
  rw [meet_request, admits, htype, Bool.true_and]
  cases hname : b.hasFacet f.name with
  | false => exact facetNamed?_addFacet hname name
  | true =>
    change b.facetNamed? name = _
    rw [List.find?_append, List.find?_singleton]
    split
    · rename_i heq
      rw [hasFacet_eq_isSome, eq_of_beq heq] at hname
      exact (Option.or_of_isSome hname).symm
    · rw [Option.or_none]
      rfl

/-- **Registered facets**: after requests for facets with declared types, what is found by a name is
the first facet of this name among those that were there and those that are requested. -/
theorem facetNamed?_meetAll_requests {facets : List Facet}
    (hdeclared : ∀ f ∈ facets, ∃ t, b.registry.structural? f.type = some t) (name : String) :
    (b.meetAll (facets.flatMap Facet.requests)).facetNamed? name =
      (b.facetList ++ facets).find? (·.name == name) := by
  induction facets generalizing b with
  | nil => rw [List.append_nil]; rfl
  | cons f rest ih =>
    obtain ⟨⟨t, ht⟩, hrest⟩ := List.forall_mem_cons.1 hdeclared
    let typed := b.meet (.structuralType f.type)
    have htype : typed.isStructuralType f.type = true := isStructuralType_meet ht
    have hnone : ∀ g : Facet, g.request ∉ [BuilderRequest.structuralType f.type] :=
      fun g => by cases g <;> simp [Facet.request]
    have hlist : typed.facetList = b.facetList := facetList_meetAll hnone
    have hregistry : (typed.meet f.request).registry = b.registry :=
      registry_meetAll b f.requests
    have hfirst := facetNamed?_meet_request htype name
    rw [hlist] at hfirst
    calc (b.meetAll ((f :: rest).flatMap Facet.requests)).facetNamed? name
        = ((typed.meet f.request).facetList ++ rest).find? (·.name == name) := by
          rw [List.flatMap_cons, meetAll_append]
          exact ih (b := typed.meet f.request) (hregistry ▸ hrest)
      _ = ((typed.meet f.request).facetNamed? name).or (rest.find? (·.name == name)) :=
          List.find?_append
      _ = (b.facetList ++ f :: rest).find? (·.name == name) := by
          rw [hfirst, ← List.find?_append, List.append_assoc, List.singleton_append]

/-! ### Keys -/

/-- A key that is requested for a registered entity type is one of its keys. -/
theorem hasKey_meet {p : PendingType} (hp : b.types.get? type = some p) (hkind : p.kind = .entity)
    (key : String) : (b.meet (.key type key)).HasKey type key := by
  rw [meet, meet?, addKey?, hp]
  dsimp only
  rw [if_pos hkind]
  split
  · rename_i hmem
    exact ⟨p, hp, hmem⟩
  · exact ⟨_, NameMap.get?_insert_self .., List.mem_append_right _ List.mem_cons_self⟩

/-- A key that is requested for a declared entity type, after the type itself. -/
theorem hasKey_of_mem (hb : b.Reachable) (ht : b.registry.structural? type = some t)
    (hkind : t.kind = .entity) {before after : List BuilderRequest}
    (htype : .structuralType type ∈ before) :
    (b.meetAll (before ++ .key type key :: after)).HasKey type key := by
  have hreachable := hb.meetAll before
  obtain ⟨p, hp⟩ := isStructuralType_iff.1 (isStructuralType_of_mem ht htype)
  obtain ⟨u, hu, hpu⟩ := hreachable.typesSound.declared type p hp
  rw [registry_meetAll] at hu
  cases ht.symm.trans hu
  rw [meetAll_append]
  exact (hasKey_meet hp (hpu.trans hkind) key).meetAll after

end Builder

/-! ### All that is registered -/

/-- The requests of a registration are those for its types, for its facets one after the other, and
for its keys. -/
theorem ModelRegistration.requests_eq (r : ModelRegistration) :
    r.requests = r.types.map .structuralType ++ r.facetList.flatMap Facet.requests
      ++ BuilderRequest.forAllKeys r.keys := by
  rw [requests, facetList, List.flatMap_append, List.flatMap_map, List.flatMap_map,
    ← List.append_assoc]
  rfl

/-- All registered types are requested. -/
theorem ModelRegistration.structuralType_mem_requests {r : ModelRegistration} {name : String}
    (h : name ∈ HostCatalog.registeredTypes r) : .structuralType name ∈ r.requests := by
  have hfacet : ∀ f ∈ r.facetList, .structuralType f.type ∈ r.facetList.flatMap Facet.requests :=
    fun f hf => List.mem_flatMap.2 ⟨f, hf, List.mem_cons_self⟩
  rw [requests_eq, List.mem_append, List.mem_append]
  simp only [HostCatalog.registeredTypes, List.mem_append] at h
  rcases h with ((htype | hset) | hsingleton) | hkeys
  · exact .inl (.inl (List.mem_map_of_mem htype))
  · obtain ⟨f, hf, rfl⟩ := List.mem_map.1 hset
    exact .inl (.inr (hfacet _ (List.mem_append_left _ (List.mem_map_of_mem hf))))
  · obtain ⟨f, hf, rfl⟩ := List.mem_map.1 hsingleton
    exact .inl (.inr (hfacet _ (List.mem_append_right _ (List.mem_map_of_mem hf))))
  · obtain ⟨e, he, rfl⟩ := List.mem_map.1 hkeys
    exact .inr (List.mem_flatMap.2 ⟨e, he, List.mem_cons_self⟩)

/-- A registered key is requested after its type. -/
theorem ModelRegistration.exists_requests_eq {r : ModelRegistration} {type key : String}
    {keys : List String} (hkeys : r.keys.get? type = some keys) (hkey : key ∈ keys) :
    ∃ before after, r.requests = before ++ .key type key :: after ∧
      .structuralType type ∈ before := by
  obtain ⟨earlier, later, hentries⟩ :=
    List.append_of_mem ((r.keys.get?_eq_some_iff type keys).1 hkeys)
  obtain ⟨first, rest, rfl⟩ := List.append_of_mem hkey
  let before := r.types.map .structuralType ++ r.facetList.flatMap Facet.requests
    ++ earlier.flatMap (fun e => BuilderRequest.forKeys e.1 e.2)
    ++ .structuralType type :: first.map (.key type)
  refine ⟨before, rest.map (.key type) ++ later.flatMap (fun e => BuilderRequest.forKeys e.1 e.2),
    ?_, List.mem_append_right _ List.mem_cons_self⟩
  rw [requests_eq, BuilderRequest.forAllKeys, hentries]
  simp [before, BuilderRequest.forKeys]

/-- The type of a registered facet counts as registered. -/
theorem ModelRegistration.type_mem_registeredTypes {r : ModelRegistration} {f : Facet}
    (h : f ∈ r.facetList) : f.type ∈ HostCatalog.registeredTypes r := by
  rw [HostCatalog.registeredTypes, List.mem_append, List.mem_append]
  rcases List.mem_append.1 h with hset | hsingleton
  · obtain ⟨g, hg, rfl⟩ := List.mem_map.1 hset
    exact .inl (.inl (List.mem_append_right _ (List.mem_map_of_mem hg)))
  · obtain ⟨g, hg, rfl⟩ := List.mem_map.1 hsingleton
    exact .inl (.inr (List.mem_map_of_mem hg))

/-- The types that a valid catalog registers are declared in its registry. -/
theorem HostCatalog.exists_structural?_of_validate {c : HostCatalog} {r : Registry}
    (hvalid : c.validate = .ok ()) (hregistry : c.toRegistry = .ok r) :
    ∀ name ∈ registeredTypes c.registration, ∃ t, r.structural? name = some t := by
  intro name hname
  obtain ⟨t, ht, rfl⟩ := List.mem_map.1 (mem_structuralTypes_of_validate hvalid name hname)
  exact ⟨t, Registry.structural?_of_mem hregistry ht⟩

namespace Builder

variable {b : Builder} {registration : ModelRegistration}

/-- **Facets after a registration** of declared types: those that were there come before those that
are registered, and the first one of a name counts. -/
theorem facetNamed?_extend
    (hdeclared : ∀ f ∈ registration.facetList, ∃ t, b.registry.structural? f.type = some t)
    (name : String) :
    (b.extend registration).facetNamed? name =
      (b.facetNamed? name).or (registration.facetNamed? name) := by
  let typed := b.meetAll (registration.types.map .structuralType)
  have htyped : typed.facetList = b.facetList :=
    facetList_meetAll fun f => by cases f <;> simp [Facet.request]
  have hkeys : ∀ b' : Builder,
      (b'.meetAll (BuilderRequest.forAllKeys registration.keys)).facetList = b'.facetList :=
    fun b' => facetList_meetAll fun f => by
      cases f <;> simp [Facet.request, BuilderRequest.forAllKeys, BuilderRequest.forKeys]
  have hregistry : typed.registry = b.registry := registry_meetAll ..
  rw [extend, ModelRegistration.requests_eq, meetAll_append, meetAll_append, facetNamed?, hkeys,
    ← facetNamed?, facetNamed?_meetAll_requests (hregistry ▸ hdeclared), htyped, List.find?_append]
  rfl

/-- **Keys after a registration**: the keys that are registered for a declared entity type are among
those of the type. -/
theorem hasKey_extend (hb : b.Reachable) {type key : String} {keys : List String}
    (hkeys : registration.keys.get? type = some keys) (hkey : key ∈ keys) {t : StructuralType}
    (ht : b.registry.structural? type = some t) (hkind : t.kind = .entity) :
    (b.extend registration).HasKey type key := by
  obtain ⟨before, after, heq, htype⟩ := ModelRegistration.exists_requests_eq hkeys hkey
  rw [extend, heq]
  exact hasKey_of_mem hb ht hkind htype

/-- The keys of a registered type are its keys in the model, if there are any. -/
theorem mem_keysOf {p : PendingType} {key : String} (h : key ∈ p.keys) (name : String) :
    key ∈ b.keysOf name p := by
  rw [keysOf, if_pos (.inr (.inl (List.ne_nil_of_mem h)))]
  exact h

/-- **A valid registration is applied without loss.** Over the registry of a valid catalog, the
extender of the catalog makes of any model under construction one in which

* all types that are registered, by themselves, for facets or for keys, are there;
* there is a facet of each registered name, and what is found by a name is the facet that was there,
  and else the first one that is registered, entity sets before singletons;
* no two facets have one name, and those that were there are as they were, at their positions;
* an entity type has all keys that are registered for it. -/
theorem extend_exact {c : HostCatalog} {r : Registry} (hvalid : c.validate = .ok ())
    (hregistry : c.toRegistry = .ok r) (hb : b.Reachable) (hover : b.registry = r) :
    let extended := b.extend c.registration
    (Extender.ofRequests c.registration.requests b).result = .ok extended ∧
      (∀ name ∈ HostCatalog.registeredTypes c.registration, extended.isStructuralType name = true) ∧
      (∀ f ∈ c.registration.facetList, (extended.facetNamed? f.name).isSome) ∧
      (∀ name, extended.facetNamed? name =
        (b.facetNamed? name).or (c.registration.facetNamed? name)) ∧
      (extended.facetList.map Facet.name).Nodup ∧
      (b.entitySets <+: extended.entitySets ∧ b.singletons <+: extended.singletons) ∧
      ∀ type keys, c.registration.keys.get? type = some keys →
        ∀ t, r.structural? type = some t → t.kind = .entity →
          ∃ p, extended.types.get? type = some p ∧
            ∀ key ∈ keys, key ∈ p.keys ∧ key ∈ extended.keysOf type p := by
  intro extended
  subst hover
  have hdeclared := HostCatalog.exists_structural?_of_validate hvalid hregistry
  have htypes : ∀ name ∈ HostCatalog.registeredTypes c.registration,
      extended.isStructuralType name = true := by
    intro name hname
    obtain ⟨t, ht⟩ := hdeclared name hname
    exact isStructuralType_of_mem ht (ModelRegistration.structuralType_mem_requests hname)
  have hfacets : ∀ name, extended.facetNamed? name =
      (b.facetNamed? name).or (c.registration.facetNamed? name) :=
    facetNamed?_extend fun f hf => hdeclared f.type (ModelRegistration.type_mem_registeredTypes hf)
  refine ⟨rfl, htypes, fun f hf => ?_, hfacets, ?_, b.isPrefix_meetAll _,
    fun type keys hkeys t ht hkind => ?_⟩
  · have hfound : (c.registration.facetNamed? f.name).isSome := by
      rw [ModelRegistration.facetNamed?, List.find?_isSome]
      exact ⟨f, hf, beq_self_eq_true f.name⟩
    rw [hfacets, Option.isSome_or, hfound, Bool.or_true]
  · have hnames := (hb.meetAll c.registration.requests).facetsSound.names
    rw [facetList, List.map_append, List.map_map, List.map_map]
    exact hnames
  · have hregistered : type ∈ HostCatalog.registeredTypes c.registration :=
      List.mem_append_right _ (NameMap.mem_names hkeys)
    obtain ⟨p, hp⟩ := isStructuralType_iff.1 (htypes type hregistered)
    refine ⟨p, hp, fun key hkey => ?_⟩
    obtain ⟨q, hq, hmem⟩ := hasKey_extend hb hkeys hkey ht hkind
    cases hp.symm.trans hq
    exact ⟨hmem, mem_keysOf hmem type⟩

/-- A market with stalls. One name is registered for two entity sets, and one for an entity set and
for a singleton. -/
def marketCatalog : HostCatalog where
  structuralTypes :=
    [{ name := "Guild", namespaceName := "Town" },
     { name := "Stall", namespaceName := "Town"
       properties := [{ name := "Holder", type := .reference "Person" }] },
     { name := "Person", namespaceName := "Town" }]
  registration :=
    { entitySets :=
        [{ name := "Stalls", typeName := "Stall" }, { name := "Stalls", typeName := "Guild" },
         { name := "Warden", typeName := "Guild" }]
      singletons :=
        [{ name := "Warden", typeName := "Person" }, { name := "Mayor", typeName := "Guild" }]
      keys := .ofList [("Stall", ["Row", "Number"])] }

/-- The registry of the market. -/
def marketRegistry : Registry := marketCatalog.toRegistry.toOption.getD .empty

/-- A model under construction that has a mayor. -/
def marketBuilder : Builder :=
  meetAll { registry := marketRegistry, namespaceName := "Town", containerName := "Container" }
    [.structuralType "Person", .singleton "Mayor" "Person" .instanceProperty]

/-- The market gets its stalls with their keys, and guilds for the warden. It keeps its mayor. -/
theorem extend_exact_market :
    marketCatalog.validate = .ok () ∧ marketCatalog.toRegistry = .ok marketRegistry ∧
      marketBuilder.Reachable ∧ marketBuilder.registry = marketRegistry ∧
      let extended := marketBuilder.extend marketCatalog.registration
      extended.isStructuralType "Guild" = true ∧
        extended.facetNamed? "Stalls" = some (.entitySet ⟨"Stalls", "Stall", .registered⟩) ∧
        extended.facetNamed? "Warden" = some (.entitySet ⟨"Warden", "Guild", .registered⟩) ∧
        extended.facetNamed? "Mayor" = some (.singleton ⟨"Mayor", "Person", .instanceProperty⟩) ∧
        ∃ p, extended.types.get? "Stall" = some p ∧ "Number" ∈ p.keys := by
  have hvalid : marketCatalog.validate = .ok () := rfl
  have hregistry : marketCatalog.toRegistry = .ok marketRegistry := by cbv
  have hb : marketBuilder.Reachable := (Reachable.start _ _ _).meetAll _
  have hover : marketBuilder.registry = marketRegistry := registry_meetAll _ _
  obtain ⟨-, htypes, -, hfacets, -, -, hkeys⟩ := extend_exact hvalid hregistry hb hover
  obtain ⟨t, ht, hkind⟩ : ∃ t, marketRegistry.structural? "Stall" = some t ∧ t.kind = .entity :=
    ⟨_, by cbv, rfl⟩
  have hguild : "Guild" ∈ HostCatalog.registeredTypes marketCatalog.registration := by
    simp [HostCatalog.registeredTypes, marketCatalog]
  obtain ⟨p, hp, hall⟩ := hkeys "Stall" ["Row", "Number"] (by cbv) t ht hkind
  refine ⟨hvalid, hregistry, hb, hover, htypes "Guild" hguild, ?_, ?_, ?_, p, hp,
    (hall "Number" (by simp)).1⟩
  · rw [hfacets]
    cbv
  · rw [hfacets]
    cbv
  · rw [hfacets]
    cbv

end Builder

end FacetModel
