import FacetModel.Assembly
import FacetModel.Proofs.Builder.Registration
import FacetModel.Proofs.Catalog.Registry
import Mathlib

/-!
# The order of declarations

A catalog lists its types, and the types it registers, in some order. Catalogs that differ only in
these orders (`HostCatalog.Reordered`) have the same registry, and their registrations do the same
to every builder; so the models assembled from them are equal (`Assembler.assemble_reordered`).

The order of registered facets is not among these: it is the order of the facets in the model.
-/

namespace FacetModel

/-- A catalog lists the declarations of another one in any order, and the types that it registers.
-/
def HostCatalog.Reordered (c c' : HostCatalog) : Prop :=
  ∃ hostTypes structuralTypes enumTypes types,
    c.hostTypes.Perm hostTypes ∧ c.structuralTypes.Perm structuralTypes ∧
      c.enumTypes.Perm enumTypes ∧ c.registration.types.Perm types ∧
        c' = { c with
          hostTypes, structuralTypes, enumTypes
          registration := { c.registration with types } }

/-- The catalog with all its declarations in the opposite order. -/
def HostCatalog.reversed (c : HostCatalog) : HostCatalog :=
  { c with
    hostTypes := c.hostTypes.reverse
    structuralTypes := c.structuralTypes.reverse
    enumTypes := c.enumTypes.reverse
    registration := { c.registration with types := c.registration.types.reverse } }

namespace HostCatalog

variable {c c' : HostCatalog}

theorem reordered_reversed (c : HostCatalog) : c.Reordered c.reversed :=
  ⟨_, _, _, _, c.hostTypes.reverse_perm.symm, c.structuralTypes.reverse_perm.symm,
    c.enumTypes.reverse_perm.symm, c.registration.types.reverse_perm.symm, rfl⟩

theorem Reordered.perm_typeNames (h : c.Reordered c') : c.typeNames.Perm c'.typeNames := by
  obtain ⟨hostTypes, structuralTypes, enumTypes, types, hhosts, hstructurals, henums, -, rfl⟩ := h
  have hbefore := (hhosts.map HostType.name).append (hstructurals.map StructuralType.name)
  exact hbefore.append (henums.map EnumType.name)

/-- **Declarations in another order are the same declarations.** -/
theorem Reordered.declared (h : c.Reordered c') (hnames : c.typeNames.Nodup) :
    c.declared = c'.declared := by
  rw [typeNames, List.nodup_append', List.nodup_append'] at hnames
  obtain ⟨⟨hhostNames, hstructuralNames, -⟩, henumNames, -⟩ := hnames
  obtain ⟨hostTypes, structuralTypes, enumTypes, types, hhosts, hstructurals, henums, -, rfl⟩ := h
  rw [HostCatalog.declared, HostCatalog.declared, NameMap.fill_perm _ hhosts hhostNames,
    NameMap.fill_perm _ hstructurals hstructuralNames, NameMap.fill_perm _ henums henumNames]

/-- A reordered catalog has the same registry, as names are declared once. -/
theorem Reordered.toRegistry (h : c.Reordered c') (hvalid : c.validate = .ok ()) :
    ∃ r, c.toRegistry = .ok r ∧ c'.toRegistry = .ok r := by
  have hnames : c.typeNames.Nodup := nodup_typeNames_of_validate hvalid
  have hnames' : c'.typeNames.Nodup := h.perm_typeNames.nodup_iff.1 hnames
  refine ⟨c.declared, toRegistry_of_nodup hnames, ?_⟩
  rw [h.declared hnames]
  exact toRegistry_of_nodup hnames'

/-- **Registrations of types in another order do the same to every builder.** -/
theorem Reordered.meetAll_requests (h : c.Reordered c') (b : Builder) :
    b.meetAll c.registration.requests = b.meetAll c'.registration.requests := by
  obtain ⟨hostTypes, structuralTypes, enumTypes, types, -, -, -, htypes, rfl⟩ := h
  -- types are requested before all else, and a registration asks only which names wait
  have hregister : b.meetAll (c.registration.types.map .structuralType)
      = b.meetAll (types.map .structuralType) := by
    rw [b.meetAll_structuralType, b.meetAll_structuralType]
    exact b.register_congr fun name => htypes.mem_iff
  rw [Builder.meetAll] at hregister
  simp only [ModelRegistration.requests, Builder.meetAll, List.foldl_append, hregister]

end HostCatalog

namespace Assembler

/-- **Assembly does not depend on the order of declarations.** Of two catalogs that differ only in
this order, if one is valid, both have the same registry, and their assemblers give the same model
with the same conventions, or fail with the same error. -/
theorem assemble_reordered {c c' : HostCatalog} (hvalid : c.validate = .ok ())
    (h : c.Reordered c') :
    ∃ r, c.toRegistry = .ok r ∧ c'.toRegistry = .ok r ∧
      ∀ host settings cancelled,
        (ofCatalog r c).assemble host settings cancelled
          = (ofCatalog r c').assemble host settings cancelled := by
  obtain ⟨r, hregistry, hregistry'⟩ := h.toRegistry hvalid
  -- all that an assembler has of the catalog, apart from the registry, is the extender of its
  -- requests
  have hextenders : Extender.ofRequests c.registration.requests
      = Extender.ofRequests c'.registration.requests := by
    funext b
    rw [Extender.ofRequests, h.meetAll_requests]
    rfl
  refine ⟨r, hregistry, hregistry', fun host settings cancelled => ?_⟩
  rw [ofCatalog, ofCatalog, hextenders]

/-! ### Types in a circle -/

/-- Two of three types that refer to each other in a circle are registered. -/
def ringCatalog : HostCatalog where
  hostTypes :=
    [{ name := "Api", namespaceName := "Ring", base := some "Core"
       properties := [{ name := "Cities", type := .queryable (.reference "City") }] },
     { name := "Core", namespaceName := "Ring"
       properties := [{ name := "Home", type := .reference "Road", isStatic := true }] }]
  structuralTypes :=
    [{ name := "City", namespaceName := "Ring", base := some "Place"
       properties := [{ name := "Roads", type := .collection (.reference "Road") }] },
     { name := "Place", namespaceName := "Ring"
       properties := [{ name := "Id", type := .primitive .int32 },
         { name := "Size", type := .reference "Size" }] },
     { name := "Road", namespaceName := "Ring", keys := ["Number"]
       properties := [{ name := "Number", type := .primitive .int32 },
         { name := "Surface", type := .reference "Surface" },
         { name := "End", type := .reference "City" }] }]
  enumTypes :=
    [{ name := "Size", namespaceName := "Ring" }, { name := "Surface", namespaceName := "Ring" }]
  registration :=
    { types := ["Road", "City"], entitySets := [{ name := "Roads", typeName := "Road" }] }

/-- The circle is entered at another type, and gives the same model. -/
theorem assemble_ring_reversed :
    ringCatalog.validate = .ok () ∧ ringCatalog.reversed.registration.types = ["City", "Road"] ∧
      ∃ r, ringCatalog.toRegistry = .ok r ∧ ringCatalog.reversed.toRegistry = .ok r ∧
        (ofCatalog r ringCatalog).assemble "Api" {} false
          = (ofCatalog r ringCatalog.reversed).assemble "Api" {} false := by
  have hvalid : ringCatalog.validate = .ok () := by
    have hok : ringCatalog.validate.isOk = true := by decide +kernel
    cases h : ringCatalog.validate with
    | ok _ => rfl
    | error e =>
      rw [h] at hok
      cases hok
  obtain ⟨r, hregistry, hregistry', hsame⟩ :=
    assemble_reordered hvalid ringCatalog.reordered_reversed
  exact ⟨hvalid, rfl, r, hregistry, hregistry', hsame "Api" {} false⟩

/-- All three types of the circle come with the two. -/
example :
    ((ofCatalog ringCatalog.declared ringCatalog).assemble "Api" {} false).map
        (fun r => (r.model.types.map (·.name), r.model.enumTypes.map (·.name)))
      = .ok (["City", "Place", "Road"], ["Size", "Surface"]) := by
  cbv

end Assembler

end FacetModel
