import FacetModel.Proofs.Assembly.References
import FacetModel.Proofs.Model.Encoding

/-!
# Declared types of assembled models

All types of an assembled model come from the catalog: properties have the types that the catalog
declares, parameters and results have these or their elements. So if the types of the catalog are
canonical, those of the model are (`Assembler.canonical_of_assemble`), and the model is read back
from its document. In an assembly this is kept by the builder (`Builder.CanonicalTypes`): its
registry has canonical types, and so have the operations it was given.
-/

namespace FacetModel

/-! ### Registries with canonical types -/

/-- What holds of the values of a map and of a further value holds of them all. -/
theorem NameMap.forall_get?_insert {α : Type} {P : α → Prop} {m : NameMap α}
    (h : ∀ name value, m.get? name = some value → P value) {key : String} {new : α} (hnew : P new) :
    ∀ name value, (m.insert key new).get? name = some value → P value := by
  intro name value hvalue
  rw [get?_insert] at hvalue
  split at hvalue
  · cases hvalue
    exact hnew
  · exact h name value hvalue

/-- All types that the declarations of a registry speak of are canonical. -/
structure Registry.CanonicalTypes (r : Registry) : Prop where
  hosts : ∀ name t, r.hostTypes.get? name = some t → ∀ ty ∈ t.declaredTypes, ty.Canonical
  structurals : ∀ name t, r.structuralTypes.get? name = some t →
    ∀ ty ∈ t.declaredTypes, ty.Canonical

namespace Registry

variable {r next : Registry} {host root : String}

theorem canonicalTypes_empty : CanonicalTypes .empty := ⟨nofun, nofun⟩

/-- A host type with canonical types may be registered. -/
theorem CanonicalTypes.registerHost (h : r.CanonicalTypes) {t : HostType}
    (ht : ∀ ty ∈ t.declaredTypes, ty.Canonical) (hnext : r.registerHost t = .ok next) :
    next.CanonicalTypes := by
  rw [Registry.registerHost] at hnext
  split at hnext
  · cases hnext
  · cases hnext
    exact { h with hosts := NameMap.forall_get?_insert h.hosts ht }

/-- So may a structural type. -/
theorem CanonicalTypes.registerStructural (h : r.CanonicalTypes) {t : StructuralType}
    (ht : ∀ ty ∈ t.declaredTypes, ty.Canonical) (hnext : r.registerStructural t = .ok next) :
    next.CanonicalTypes := by
  rw [Registry.registerStructural] at hnext
  split at hnext
  · cases hnext
  · cases hnext
    exact { h with structurals := NameMap.forall_get?_insert h.structurals ht }

/-- And any enum type, as it has no types in it. -/
theorem CanonicalTypes.registerEnum (h : r.CanonicalTypes) {t : EnumType}
    (hnext : r.registerEnum t = .ok next) : next.CanonicalTypes := by
  rw [Registry.registerEnum] at hnext
  split at hnext
  · cases hnext
  · cases hnext
    exact { h with }

/-- The registry of a catalog with canonical types has canonical types. -/
theorem canonicalTypes_toRegistry {c : HostCatalog} (hc : ∀ ty ∈ c.declaredTypes, ty.Canonical)
    (h : c.toRegistry = .ok r) : r.CanonicalTypes := by
  obtain ⟨hhosts, hstructurals⟩ := List.forall_mem_append.1 hc
  obtain ⟨r₁, r₂, h₁, h₂, h₃⟩ := toRegistry_eq_ok h
  have hfirst : r₁.CanonicalTypes := by
    -- each kind is registered one by one, over the types of those before
    refine foldlM_induction (fun t ht _ _ hnext h => h.registerHost ?_ hnext) h₁
      canonicalTypes_empty
    exact fun ty hty => hhosts ty (List.mem_flatMap.2 ⟨t, ht, hty⟩)
  have hsecond : r₂.CanonicalTypes := by
    refine foldlM_induction (fun t ht _ _ hnext h => h.registerStructural ?_ hnext) h₂ hfirst
    exact fun ty hty => hstructurals ty (List.mem_flatMap.2 ⟨t, ht, hty⟩)
  exact foldlM_induction (fun _ _ _ _ hnext h => h.registerEnum hnext) h₃ hsecond

/-- The walk takes no types but declared ones. -/
theorem declared_of_chainFrom {met : List String} {name : String} {chain : List HostType}
    (h : r.chainFrom host root met name = .ok chain) :
    ∀ t ∈ chain, ∃ name, r.hostTypes.get? name = some t := by
  fun_induction chainFrom r host root met name generalizing chain with
  | case1 => cases h
  | case2 => cases h
  | case3 => cases h
  | case4 met name hname t ht =>
    cases h
    exact List.forall_mem_singleton.2 ⟨name, ht⟩
  | case5 met name hname t ht =>
    cases h
    exact List.forall_mem_singleton.2 ⟨name, ht⟩
  | case6 met name hname t ht base hbase hroot rest hrest ih =>
    cases h
    exact List.forall_mem_cons.2 ⟨⟨name, ht⟩, ih hrest⟩
  | case7 => cases h

/-- The host types along a chain are declared. -/
theorem declared_of_hostChain {chain : List HostType} (h : r.hostChain host root = .ok chain) :
    ∀ t ∈ chain, ∃ name, r.hostTypes.get? name = some t := by
  rw [hostChain] at h
  split at h
  · cases h
    exact List.forall_mem_nil _
  · exact declared_of_chainFrom h

end Registry

/-! ### Operations -/

/-- The types that a marked method speaks of. -/
def ScannedOperation.declaredTypes (s : ScannedOperation) : List DeclaredType :=
  s.returns :: s.parameters.map (·.type)

/-- The operations that are scanned have the types of methods. -/
theorem Registry.CanonicalTypes.scanOperations {r : Registry} (h : r.CanonicalTypes)
    {host root : String} {operations : List ScannedOperation}
    (hscan : r.scanOperations host root = .ok operations) :
    ∀ s ∈ operations, ∀ ty ∈ s.declaredTypes, ty.Canonical := by
  rw [Registry.scanOperations] at hscan
  split at hscan
  · cases hscan
  · rename_i chain hchain
    cases hscan
    intro s hs
    obtain ⟨m, hm, hmarked⟩ := List.mem_filterMap.1 hs
    -- an operation is scanned from a method of a host type on the chain
    have hmethod := (firstByNameFrom_sublist _ [] _).subset hm
    obtain ⟨t, ht, hmem⟩ := List.mem_flatMap.1 hmethod
    obtain ⟨method, hdeclared, rfl⟩ := List.mem_map.1 hmem
    obtain ⟨name, hname⟩ := declared_of_hostChain hchain t ht
    obtain ⟨marker, -, rfl⟩ := Option.map_eq_some_iff.1 hmarked
    intro ty hty
    refine h.hosts name t hname ty (List.mem_append_right _ ?_)
    exact List.mem_flatMap.2 ⟨method, hdeclared, hty⟩

namespace DeclaredType

/-- The elements of a canonical sequence are canonical. -/
theorem Canonical.sequenceElement {t element : DeclaredType} (h : t.Canonical)
    (helement : t.sequenceElement? = some element) : element.Canonical := by
  cases t with
  | queryable e =>
    cases helement
    exact h.of_inside (.queryable .self)
  | collection e =>
    cases helement
    exact h.of_inside (.collection .self)
  | _ => cases helement

end DeclaredType

namespace Builder

variable {b : Builder} {s : ScannedOperation} {o : Operation}

/-- A parameter that is unwrapped has the element of a canonical type. -/
theorem canonical_parameterOf {p : ParameterDeclaration} (h : p.type.Canonical) :
    (parameterOf p).type.Canonical := by
  rw [parameterOf]
  split
  · rename_i element helement
    exact h.sequenceElement helement
  · exact h

/-- A result shape has the returned type, its element, or no type at all. -/
theorem canonical_returnShape? {hint : Option String} {returns : DeclaredType} {shape : ReturnShape}
    (h : returns.Canonical) (hshape : b.returnShape? hint returns = some shape) :
    ∀ ty ∈ shape.declaredTypes, ty.Canonical := by
  rw [returnShape?] at hshape
  split at hshape
  · cases hshape
  · split at hshape
    · rename_i element helement
      split at hshape
      · cases hshape
        exact List.forall_mem_singleton.2 (h.sequenceElement helement)
      · obtain ⟨_, -, rfl⟩ := Option.map_eq_some_iff.1 hshape
        exact List.forall_mem_nil _
    · split at hshape
      · cases hshape
        exact List.forall_mem_singleton.2 h
      · obtain ⟨_, -, rfl⟩ := Option.map_eq_some_iff.1 hshape
        exact List.forall_mem_nil _

/-- An operation that is made of canonical types has canonical types. -/
theorem canonical_operationWith (hreturns : s.returns.Canonical) {binding : OperationBinding}
    {parameters : List ParameterDeclaration} (hparameters : ∀ p ∈ parameters, p.type.Canonical) :
    ∀ ty ∈ (b.operationWith s binding parameters).declaredTypes, ty.Canonical := by
  refine List.forall_mem_append.2 ⟨?_, fun ty hty => ?_⟩
  · rintro ty hty
    obtain ⟨_, hmem, rfl⟩ := List.mem_map.1 hty
    obtain ⟨p, hp, rfl⟩ := List.mem_map.1 hmem
    exact canonical_parameterOf (hparameters p hp)
  · obtain ⟨shape, hshape, hmem⟩ := List.mem_flatMap.1 hty
    exact canonical_returnShape? hreturns (Option.mem_toList.1 hshape) ty hmem

/-- An operation has types of its method, or the elements of these. -/
theorem canonical_operationOf? (h : ∀ ty ∈ s.declaredTypes, ty.Canonical)
    (ho : b.operationOf? s = some o) : ∀ ty ∈ o.declaredTypes, ty.Canonical := by
  obtain ⟨hreturns, hparameters⟩ := List.forall_mem_cons.1 h
  rw [List.forall_mem_map] at hparameters
  rw [operationOf?] at ho
  split at ho
  · split at ho
    · cases ho
    · rename_i first rest heq
      obtain ⟨binding, -, rfl⟩ := Option.map_eq_some_iff.1 ho
      rw [heq] at hparameters
      exact canonical_operationWith hreturns (List.forall_mem_cons.1 hparameters).2
  · cases ho
    exact canonical_operationWith hreturns hparameters

/-! ### Builders -/

/-- The types of a builder are canonical: those that are declared, and those of its operations. -/
structure CanonicalTypes (b : Builder) : Prop where
  registry : b.registry.CanonicalTypes
  operations : ∀ o ∈ b.operations, ∀ ty ∈ o.declaredTypes, ty.Canonical

namespace CanonicalTypes

/-- Requests register what is declared, and touch neither the declarations nor the operations. -/
theorem meetAll (h : b.CanonicalTypes) (requests : List BuilderRequest) :
    (b.meetAll requests).CanonicalTypes := by
  obtain ⟨types, enumTypes, entitySets, singletons, heq⟩ := b.sameButElements_meetAll requests
  rw [heq]
  exact ⟨h.registry, h.operations⟩

theorem adoptFacets (h : b.CanonicalTypes) (host : String) (scanned : List ScannedProperty) :
    (b.adoptFacets host scanned).1.CanonicalTypes := by
  obtain ⟨requests, heq⟩ := b.exists_requests_adoptFacets host scanned
  rw [heq]
  exact h.meetAll requests

/-- The operations that are attached have types of the methods that were scanned. -/
theorem attachOperations (h : b.CanonicalTypes) {scanned : List ScannedOperation}
    (hscanned : ∀ s ∈ scanned, ∀ ty ∈ s.declaredTypes, ty.Canonical) :
    (b.attachOperations scanned).CanonicalTypes := by
  refine ⟨h.registry, List.forall_mem_append.2 ⟨h.operations, fun o ho => ?_⟩⟩
  obtain ⟨s, hs, hof⟩ := List.mem_filterMap.1 ho
  exact canonical_operationOf? (hscanned s hs) hof

theorem applyNamespace (h : b.CanonicalTypes) (settings : Settings) :
    (Assembler.applyNamespace settings b).CanonicalTypes := by
  rw [Assembler.applyNamespace]
  split
  · exact ⟨h.registry, h.operations⟩
  · exact h

/-- Bindings name types and properties, but have no declared types. -/
theorem bind (h : b.CanonicalTypes) : b.bind.CanonicalTypes := by
  obtain ⟨added, heq, -⟩ := b.exists_added_bind
  rw [heq]
  exact ⟨h.registry, h.operations⟩

/-- A registered type has properties as they are declared. -/
theorem structuralProperties (h : b.CanonicalTypes) (name : String) :
    ∀ p ∈ b.structuralProperties name, p.type.Canonical := by
  intro p hp
  obtain ⟨declared, hdeclared, rfl⟩ := List.mem_map.1 hp
  have hmem := (List.mem_filter.1 hdeclared).1
  rw [declaredProperties, definition?] at hmem
  split at hmem
  · cases hdefinition : b.registry.structural? name with
    | none =>
      rw [hdefinition] at hmem
      cases hmem
    | some t =>
      rw [hdefinition] at hmem
      exact h.registry.structurals name t hdefinition _ (List.mem_map_of_mem hmem)
  · cases hmem

/-- The model of a builder with canonical types has canonical types. -/
theorem build (h : b.CanonicalTypes) : ∀ ty ∈ b.build.declaredTypes, ty.Canonical := by
  refine List.forall_mem_append.2 ⟨fun ty hty => ?_, fun ty hty => ?_⟩
  · obtain ⟨t, ht, hmem⟩ := List.mem_flatMap.1 hty
    obtain ⟨entry, -, rfl⟩ := List.mem_map.1 ht
    obtain ⟨p, hp, rfl⟩ := List.mem_map.1 hmem
    exact h.structuralProperties entry.1 p hp
  · obtain ⟨o, ho, hmem⟩ := List.mem_flatMap.1 hty
    exact h.operations o ho ty hmem

end CanonicalTypes

end Builder

/-! ### Assemblies -/

namespace Assembler

variable {a : Assembler} {host : String} {settings : Settings} {cancelled : Bool} {r : Assembled}

/-- The types of an assembled model are canonical, if those of the catalog are. -/
theorem canonical_of_assemble (hregistry : a.registry.CanonicalTypes)
    (hproviders : a.providers = []) (hextenders : ∀ e ∈ a.extenders, e.OnlyRequests)
    (h : a.assemble host settings cancelled = .ok r) :
    ∀ ty ∈ r.model.declaredTypes, ty.Canonical := by
  obtain ⟨t, requests, extended, properties, operations, _, _, -, hextended, -, hoperations, rfl⟩ :=
    exists_phases_of_assemble hproviders h
  have hstart : (a.startOf t settings).CanonicalTypes := ⟨hregistry, List.forall_mem_nil _⟩
  have hcanonical : extended.CanonicalTypes := by
    refine Assembling.callEach_induction (fun e he b b' hresult hb => ?_) hextended
      (hstart.meetAll requests)
    obtain ⟨requests, rfl⟩ := hextenders e he b b' hresult
    exact hb.meetAll requests
  have hattached := (hcanonical.adoptFacets host properties).attachOperations
    (hregistry.scanOperations hoperations)
  exact (hattached.applyNamespace settings).bind.build

end Assembler

/-! ### Models are read back -/

namespace Model

/-- **A model whose types were parsed is read back from its document**, and so is every model that
is assembled from a catalog that was loaded, with the elements that the catalog registers. -/
theorem read_back :
    (∀ m : Model, (∀ ty ∈ m.declaredTypes, ∃ s, DeclaredType.parse s = .ok ty) →
      read m.toJson = .ok m) ∧
      ∀ {σ : Type} [Script σ] {t : Tree σ} {c : HostCatalog} {registry : Registry} {host : String}
        {settings : Settings} {cancelled : Bool} {r : Assembled},
        HostCatalog.load t = .ok c → c.toRegistry = .ok registry →
          (Assembler.ofCatalog registry c).assemble host settings cancelled = .ok r →
            read r.model.toJson = .ok r.model := by
  constructor
  · intro m h
    refine read_toJson fun ty hty => ?_
    obtain ⟨s, hs⟩ := h ty hty
    exact DeclaredType.canonical_of_parse hs
  · intro σ _ t c registry host settings cancelled r hload hregistry hassemble
    have hcanonical : registry.CanonicalTypes :=
      Registry.canonicalTypes_toRegistry (HostCatalog.canonical_of_load hload) hregistry
    exact read_toJson (Assembler.canonical_of_assemble hcanonical rfl
      (List.forall_mem_singleton.2 (Extender.onlyRequests_ofRequests _)) hassemble)

/-- The registry of the club. -/
def clubRegistry : Registry := HostCatalog.club.toRegistry.toOption.getD .empty

/-- The model of the club has a function over collections of numbers; it is read back. -/
theorem read_back_club :
    HostCatalog.load HostCatalog.clubDocument = .ok HostCatalog.club ∧
      HostCatalog.club.toRegistry = .ok clubRegistry ∧
      ∃ r, (Assembler.ofCatalog clubRegistry HostCatalog.club).assemble "ClubApi" {} false = .ok r ∧
        r.model.declaredTypes = [.primitive .int32, .primitive .int32, .primitive .int32] ∧
        read r.model.toJson = .ok r.model := by
  have hregistry : HostCatalog.club.toRegistry = .ok clubRegistry := by cbv
  have hrun : ((Assembler.ofCatalog clubRegistry HostCatalog.club).assemble "ClubApi" {} false).map
      (·.model.declaredTypes) = .ok [.primitive .int32, .primitive .int32, .primitive .int32] := by
    cbv
  refine ⟨HostCatalog.load_clubDocument, hregistry, ?_⟩
  cases h : (Assembler.ofCatalog clubRegistry HostCatalog.club).assemble "ClubApi" {} false with
  | error e =>
    rw [h] at hrun
    cases hrun
  | ok r =>
    rw [h] at hrun
    exact ⟨r, rfl, Except.ok.inj hrun,
      read_back.2 HostCatalog.load_clubDocument hregistry h⟩

end Model

end FacetModel
