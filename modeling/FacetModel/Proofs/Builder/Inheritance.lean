import FacetModel.Proofs.Builder.Bases
import FacetModel.Proofs.Builder.Build
import FacetModel.Proofs.Model.Lineage
import Mathlib

/-!
# Circles of base types

Neither catalogs nor registries nor builders look for circles among the base types of structural
types. A built model has just the circles of its registered types
(`Reachable.transGen_hasBase_iff`), since a registered type brings in its declared base types. Where
there is a circle, a walk along base types that does not look back need not end
(`Model.acyclic_iff_walksEnd`), and there is one for a catalog with a type that is its own base type
(`not_acyclic_node`).
-/

namespace FacetModel

/-- No declared base types lead from a structural type back to it. -/
def Registry.Acyclic (r : Registry) : Prop := ∀ name, ¬ Relation.TransGen r.HasBase name name

/-- Only declared types have declared base types. -/
theorem Registry.isSome_structural?_of_transGen {r : Registry} {name other : String}
    (h : Relation.TransGen r.HasBase name other) : (r.structural? name).isSome = true := by
  obtain ⟨_, ⟨t, ht, -⟩, -⟩ := Relation.TransGen.head'_iff.1 h
  rw [ht]
  rfl

namespace Builder

variable {b : Builder} {name other : String}

theorem hasBase_build_iff {base : String} : b.build.HasBase name base ↔ b.HasBase name base := by
  refine ⟨?_, hasBase_build⟩
  rintro ⟨t, ht, rfl, hbase⟩
  obtain ⟨p, hp, heq⟩ := mem_types_build.1 ht
  rw [heq] at hbase
  exact hasBase_iff.2 ⟨p, hp, hbase⟩

theorem hasBase_build_eq (b : Builder) : b.build.HasBase = b.HasBase :=
  funext₂ fun _ _ => propext hasBase_build_iff

/-- No base types lead from a type back to it. -/
def Acyclic (b : Builder) : Prop := ∀ name, ¬ Relation.TransGen b.HasBase name name

theorem Acyclic.build (h : b.Acyclic) : b.build.Acyclic := by
  rw [Model.Acyclic, hasBase_build_eq]
  exact h

/-- The registered types with a base type, each with this. -/
def basePairs (b : Builder) : List (String × String) :=
  b.types.entries.filterMap fun e => e.2.baseType.map fun base => (e.1, base)

/-- Base types can be listed, so that those of a given builder can be looked through. -/
theorem hasBase_iff_mem_basePairs {base : String} :
    b.HasBase name base ↔ (name, base) ∈ b.basePairs := by
  rw [hasBase_iff, basePairs, List.mem_filterMap]
  constructor
  · rintro ⟨p, hp, hbase⟩
    exact ⟨(name, p), (b.types.get?_eq_some_iff name p).1 hp, by rw [hbase]; rfl⟩
  · rintro ⟨⟨key, p⟩, hmem, hpair⟩
    obtain ⟨other, hbase, heq⟩ := Option.map_eq_some_iff.1 hpair
    cases heq
    exact ⟨p, (b.types.get?_eq_some_iff key p).2 hmem, hbase⟩

/-- Base types whose names come first do not lead back. -/
theorem acyclic_of_lt (h : ∀ e ∈ b.basePairs, e.2 < e.1) : b.Acyclic := by
  have hstep : ∀ {name base}, b.HasBase name base → base < name := fun hbase =>
    h _ (hasBase_iff_mem_basePairs.1 hbase)
  intro name hcircle
  -- names become less along every path, so none leads back
  have hlt : ∀ {other}, Relation.TransGen b.HasBase name other → other < name := by
    intro other hpath
    induction hpath with
    | single hbase => exact hstep hbase
    | tail _ hbase ih => exact String.lt_trans (hstep hbase) ih
  exact String.lt_irrefl name (hlt hcircle)

/-- In a reachable builder no base type is missing. -/
theorem Reachable.isStructuralType_of_hasBase {base : String} (h : b.Reachable)
    (hbase : b.HasBase name base) : b.isStructuralType base = true := by
  obtain ⟨p, hp, heq⟩ := Builder.hasBase_iff.1 hbase
  rcases h.typesSound.base name p base hp heq with hregistered | ⟨hwaits, -⟩
  · exact hregistered
  · cases hwaits

/-- The declared base types of a registered type are registered, as far as they are declared. -/
theorem Reachable.transGen_hasBase (h : b.Reachable)
    (hbases : Relation.TransGen b.registry.HasBase name other)
    (hname : b.isStructuralType name = true)
    (hother : (b.registry.structural? other).isSome = true) :
    Relation.TransGen b.HasBase name other := by
  induction hbases using Relation.TransGen.head_induction_on with
  | single hbase => exact .single (h.hasBase_iff.2 ⟨hname, hbase, hother⟩)
  | head hbase hrest ih =>
    have hstep := h.hasBase_iff.2 ⟨hname, hbase, Registry.isSome_structural?_of_transGen hrest⟩
    exact .head hstep (ih (h.isStructuralType_of_hasBase hstep))

/-- **Circles of registered types** are those that they are declared with. -/
theorem Reachable.transGen_hasBase_iff (h : b.Reachable) :
    Relation.TransGen b.HasBase name name ↔
      b.isStructuralType name = true ∧ Relation.TransGen b.registry.HasBase name name := by
  constructor
  · intro hcircle
    obtain ⟨base, hbase, -⟩ := Relation.TransGen.head'_iff.1 hcircle
    refine ⟨(h.hasBase_iff.1 hbase).1, ?_⟩
    exact Relation.TransGen.mono (fun _ _ hbase => (h.hasBase_iff.1 hbase).2.1) _ _ hcircle
  · rintro ⟨hname, hcircle⟩
    exact h.transGen_hasBase hcircle hname (Registry.isSome_structural?_of_transGen hcircle)

/-- A built model is without circles just if no registered type is declared with one. -/
theorem Reachable.acyclic_build_iff_of_registered (h : b.Reachable) :
    b.build.Acyclic ↔ ∀ name, b.isStructuralType name = true →
      ¬ Relation.TransGen b.registry.HasBase name name := by
  rw [Model.Acyclic, hasBase_build_eq]
  simp only [h.transGen_hasBase_iff, not_and]

/-- A declared type can be registered. -/
theorem exists_reachable_isStructuralType {r : Registry} (h : (r.structural? name).isSome = true) :
    ∃ b : Builder, b.Reachable ∧ b.registry = r ∧ b.isStructuralType name = true := by
  obtain ⟨t, ht⟩ := Option.isSome_iff_exists.1 h
  let start : Builder := { registry := r, namespaceName := "", containerName := "" }
  have hmissing : start.Missing name t := ⟨rfl, ht⟩
  refine ⟨start.meet (.structuralType name), (Reachable.start r "" "").step (.meet _),
    (start.sameButElements_meet (.structuralType name)).registry, ?_⟩
  rw [meet_structuralType]
  exact isStructuralType_register_iff.2 (.inr (.asked List.mem_cons_self hmissing))

/-- **Models without circles**: a built model has no circle of base types just if no registered type
is declared with one, and just if all walks along base types end. So all models over a registry are
without circles just if the registry is. -/
theorem acyclic_build_iff (r : Registry) :
    (∀ b : Builder, b.Reachable → b.registry = r →
      (b.build.Acyclic ↔ ∀ name, b.isStructuralType name = true →
        ¬ Relation.TransGen r.HasBase name name) ∧
      (b.build.Acyclic ↔ b.build.WalksEnd)) ∧
    ((∀ b : Builder, b.Reachable → b.registry = r → b.build.Acyclic) ↔ r.Acyclic) := by
  refine ⟨?_, fun h name hcircle => ?_, ?_⟩
  · rintro b h rfl
    refine ⟨h.acyclic_build_iff_of_registered, Model.acyclic_iff_walksEnd ?_⟩
    rw [map_name_types_build]
    exact b.types.nodup_names
  · obtain ⟨b, hb, rfl, hname⟩ :=
      exists_reachable_isStructuralType (Registry.isSome_structural?_of_transGen hcircle)
    exact hb.acyclic_build_iff_of_registered.1 (h b hb rfl) name hname hcircle
  · rintro h b hb rfl
    exact hb.acyclic_build_iff_of_registered.2 fun name _ => h name

/-- Employees are persons. -/
def staffCatalog : HostCatalog where
  structuralTypes :=
    [{ name := "Employee", namespaceName := "Staff", base := some "Person" },
     { name := "Person", namespaceName := "Staff" }]

/-- The registry of employees and persons. -/
def staffRegistry : Registry := staffCatalog.toRegistry.toOption.getD .empty

/-- A builder with employees. -/
def staffBuilder : Builder :=
  meetAll { registry := staffRegistry, namespaceName := "Staff", containerName := "Container" }
    [.structuralType "Employee"]

theorem hasBase_staffRegistry {name base : String} (h : staffRegistry.HasBase name base) :
    name = "Employee" ∧ base = "Person" := by
  obtain ⟨t, ht, hbase⟩ := h
  have hentries : staffRegistry.structuralTypes.entries =
      [("Employee", { name := "Employee", namespaceName := "Staff", base := some "Person" }),
       ("Person", { name := "Person", namespaceName := "Staff" })] := by cbv
  rw [Registry.structural?, NameMap.get?_eq_some_iff, hentries] at ht
  simp only [List.mem_cons, Prod.mk.injEq, List.not_mem_nil, or_false] at ht
  rcases ht with ⟨rfl, rfl⟩ | ⟨rfl, rfl⟩
  · exact ⟨rfl, (Option.some.inj hbase).symm⟩
  · cases hbase

/-- Walks from employees end at persons. -/
theorem acyclic_build_iff_staff :
    staffBuilder.Reachable ∧ staffBuilder.registry = staffRegistry ∧
      staffBuilder.isStructuralType "Person" = true ∧ staffBuilder.build.WalksEnd := by
  have h : staffBuilder.Reachable := (Reachable.start _ _ _).meetAll _
  have hregistry : staffBuilder.registry = staffRegistry := by cbv
  refine ⟨h, hregistry, by cbv, ?_⟩
  obtain ⟨hcircles, hwalks⟩ := (acyclic_build_iff staffRegistry).1 staffBuilder h hregistry
  refine hwalks.1 (hcircles.2 fun name _ hcircle => ?_)
  obtain ⟨base, hfirst, hback⟩ := Relation.TransGen.head'_iff.1 hcircle
  obtain ⟨rfl, rfl⟩ := hasBase_staffRegistry hfirst
  rcases hback.cases_head with heq | ⟨_, hsecond, -⟩
  · simp at heq
  · simpa using (hasBase_staffRegistry hsecond).1

/-- A type that is its own base type. -/
def nodeCatalog : HostCatalog where
  structuralTypes := [{ name := "Node", namespaceName := "Test.Models", base := some "Node" }]

/-- The registry of nodes. -/
def nodeRegistry : Registry := nodeCatalog.toRegistry.toOption.getD .empty

/-- A builder with nodes. -/
def nodeBuilder : Builder :=
  meetAll { registry := nodeRegistry, namespaceName := "Test", containerName := "Container" }
    [.structuralType "Node"]

/-- The catalog of nodes is accepted, and walks from nodes do not end, neither those for a
navigation property nor those for keys. -/
theorem not_acyclic_node :
    nodeCatalog.validate = .ok () ∧ nodeCatalog.toRegistry = .ok nodeRegistry ∧
      nodeBuilder.Reachable ∧ nodeBuilder.registry = nodeRegistry ∧
      ¬ nodeBuilder.build.Acyclic ∧
      (∀ result, ¬ nodeBuilder.build.EndsWith (·.navigation? "Next") "Node" result) ∧
      ∀ result, ¬ nodeBuilder.build.EndsWith ModelType.ownKeys? "Node" result := by
  have htypes : nodeBuilder.build.types =
      [{ name := "Node", namespaceName := "Test.Models", kind := .entity, baseType := some "Node",
         keys := [], properties := [], navigationProperties := [] }] := by cbv
  have hnames : (nodeBuilder.build.types.map (·.name)).Nodup := by simp [htypes]
  have hcircle : Relation.TransGen nodeBuilder.build.HasBase "Node" "Node" :=
    .single ⟨_, htypes ▸ List.mem_singleton_self _, rfl, rfl⟩
  -- nothing is found on the only type, so a walk goes round as long as it may
  have hendless {α : Type} {found : ModelType → Option α}
      (hfound : ∀ t ∈ nodeBuilder.build.types, found t = none) (result : Option α) :
      ¬ nodeBuilder.build.EndsWith found "Node" result := by
    rintro ⟨steps, hend⟩
    cases (Model.climb?_eq_none hnames hfound hcircle steps).symm.trans hend
  refine ⟨by cbv, by cbv, (Reachable.start _ _ _).meetAll _, by cbv, fun h => h _ hcircle, ?_, ?_⟩
  · exact hendless (by simp [htypes, ModelType.navigation?])
  · exact hendless (by simp [htypes, ModelType.ownKeys?])

end Builder

end FacetModel
