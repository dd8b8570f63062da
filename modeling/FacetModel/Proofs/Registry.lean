import FacetModel.Registry

/-!
# Names in a registry

Types are registered under their own names, and only under names that are new. So a name stands for
at most one type, of whatever kind (`Registry.NamesUnique`), in every registry that was filled by
registrations (`NamesUnique.registerAll`) and hence in the registry of every catalog
(`namesUnique_toRegistry`).
-/

namespace FacetModel

namespace NameMap

variable {α β : Type} {m : NameMap α} {n : NameMap β}

/-- Every value stands under its own name. -/
def Named (nameOf : α → String) (m : NameMap α) : Prop :=
  ∀ name value, m.get? name = some value → nameOf value = name

/-- No name has a value in both of two maps. -/
def Disjoint (m : NameMap α) (n : NameMap β) : Prop :=
  ∀ name, m.get? name = none ∨ n.get? name = none

theorem Disjoint.symm (h : m.Disjoint n) : n.Disjoint m := fun name => (h name).symm

theorem Disjoint.eq_none {name : String} {value : α} (h : m.Disjoint n)
    (hm : m.get? name = some value) : n.get? name = none :=
  (h name).resolve_left (by simp [hm])

/-- Before any is seen, no more names are unseen than the map has. -/
theorem unseen_nil_le (m : NameMap α) : m.unseen [] ≤ m.size := by
  rw [unseen, size, ← List.length_map (f := Prod.fst)]
  exact List.length_filter_le _ _

theorem named_empty (nameOf : α → String) : Named nameOf empty := nofun

theorem disjoint_empty (m : NameMap α) : m.Disjoint (empty : NameMap β) := fun _ => .inr rfl

/-- Inserting a value under its own name keeps every value under its own. -/
theorem Named.insert {nameOf : α → String} (h : m.Named nameOf) (value : α) :
    (m.insert (nameOf value) value).Named nameOf := by
  intro name other hget
  rw [get?_insert] at hget
  split at hget
  · rename_i heq
    cases hget
    exact heq.symm
  · exact h name other hget

/-- A name that is new to one of two maps may be inserted in the other. -/
theorem Disjoint.insert {name : String} (h : m.Disjoint n) (value : α)
    (hnew : n.get? name = none) : (m.insert name value).Disjoint n := by
  intro other
  rw [get?_insert]
  split
  · rename_i heq
    exact .inr (heq ▸ hnew)
  · exact h other

end NameMap

/-- A declaration of a type of any kind. -/
inductive TypeDeclaration where
  | host (t : HostType)
  | structural (t : StructuralType)
  | enum (t : EnumType)

namespace Registry

/-- Every type has the name it is found under, and no name is that of types of two kinds. -/
structure NamesUnique (r : Registry) : Prop where
  hosts : r.hostTypes.Named HostType.name
  structurals : r.structuralTypes.Named StructuralType.name
  enums : r.enumTypes.Named EnumType.name
  host_structural : r.hostTypes.Disjoint r.structuralTypes
  host_enum : r.hostTypes.Disjoint r.enumTypes
  structural_enum : r.structuralTypes.Disjoint r.enumTypes

theorem namesUnique_empty : NamesUnique .empty :=
  ⟨NameMap.named_empty _, NameMap.named_empty _, NameMap.named_empty _, NameMap.disjoint_empty _,
    NameMap.disjoint_empty _, NameMap.disjoint_empty _⟩

theorem declares_eq_false_iff {r : Registry} {name : String} :
    r.declares name = false ↔
      r.hostTypes.get? name = none ∧ r.structuralTypes.get? name = none ∧
        r.enumTypes.get? name = none := by
  simp [declares, NameMap.contains, and_assoc]

variable {r next : Registry}

/-- A host type gets a name that neither a structural nor an enum type has. -/
theorem NamesUnique.registerHost (h : r.NamesUnique) {t : HostType}
    (ht : r.registerHost t = .ok next) : next.NamesUnique := by
  rw [Registry.registerHost] at ht
  split at ht
  · cases ht
  · rename_i hnew
    cases ht
    obtain ⟨-, hstructural, henum⟩ := declares_eq_false_iff.1 (Bool.eq_false_iff.2 hnew)
    exact { h with
      hosts := h.hosts.insert t
      host_structural := h.host_structural.insert t hstructural
      host_enum := h.host_enum.insert t henum }

/-- The same for a structural type, which stands on the second side of one of its two disjoint
pairs. -/
theorem NamesUnique.registerStructural (h : r.NamesUnique) {t : StructuralType}
    (ht : r.registerStructural t = .ok next) : next.NamesUnique := by
  rw [Registry.registerStructural] at ht
  split at ht
  · cases ht
  · rename_i hnew
    cases ht
    obtain ⟨hhost, -, henum⟩ := declares_eq_false_iff.1 (Bool.eq_false_iff.2 hnew)
    exact { h with
      structurals := h.structurals.insert t
      host_structural := (h.host_structural.symm.insert t hhost).symm
      structural_enum := h.structural_enum.insert t henum }

/-- And for an enum type, which is on the second side of both. -/
theorem NamesUnique.registerEnum (h : r.NamesUnique) {t : EnumType}
    (ht : r.registerEnum t = .ok next) : next.NamesUnique := by
  rw [Registry.registerEnum] at ht
  split at ht
  · cases ht
  · rename_i hnew
    cases ht
    obtain ⟨hhost, hstructural, -⟩ := declares_eq_false_iff.1 (Bool.eq_false_iff.2 hnew)
    exact { h with
      enums := h.enums.insert t
      host_enum := (h.host_enum.symm.insert t hhost).symm
      structural_enum := (h.structural_enum.symm.insert t hstructural).symm }

/-! ### Registrations one after the other -/

/-- The registry with one more type, whose name must be new. -/
def register (r : Registry) : TypeDeclaration → Except CatalogError Registry
  | .host t => r.registerHost t
  | .structural t => r.registerStructural t
  | .enum t => r.registerEnum t

/-- The registry after some registrations. Those that fail change nothing. -/
def registerAll (r : Registry) (declarations : List TypeDeclaration) : Registry :=
  declarations.foldl (fun r d => (r.register d).toOption.getD r) r

/-- What one registration keeps, of whatever kind it is. -/
theorem NamesUnique.register (h : r.NamesUnique) {d : TypeDeclaration}
    (hd : r.register d = .ok next) : next.NamesUnique := by
  cases d with
  | host t => exact h.registerHost hd
  | structural t => exact h.registerStructural hd
  | enum t => exact h.registerEnum hd

/-- However a registry is filled, each name stands for one type. -/
theorem NamesUnique.registerAll (h : r.NamesUnique) (declarations : List TypeDeclaration) :
    (r.registerAll declarations).NamesUnique := by
  induction declarations generalizing r with
  | nil => exact h
  | cons d rest ih =>
    rw [Registry.registerAll, List.foldl_cons]
    refine ih ?_
    cases hd : r.register d with
    | error e => exact h
    | ok next => exact h.register hd

/-! ### The registry of a catalog -/

/-- What every step keeps is kept by a run that comes to its end. -/
theorem foldlM_induction {α β ε : Type} {f : β → α → Except ε β} {P : β → Prop} {l : List α}
    (hstep : ∀ a ∈ l, ∀ b b', f b a = .ok b' → P b → P b') {b b' : β}
    (h : l.foldlM f b = .ok b') (hb : P b) : P b' := by
  induction l generalizing b with
  | nil =>
    cases h
    exact hb
  | cons a l ih =>
    obtain ⟨hfirst, hothers⟩ := List.forall_mem_cons.1 hstep
    rw [List.foldlM_cons] at h
    cases hf : f b a with
    | error e =>
      rw [hf] at h
      cases h
    | ok next =>
      rw [hf] at h
      exact ih hothers h (hfirst b next hf hb)

/-- The registry of a catalog comes from three runs, one for each kind. -/
theorem toRegistry_eq_ok {c : HostCatalog} (h : c.toRegistry = .ok r) :
    ∃ r₁ r₂, c.hostTypes.foldlM Registry.registerHost .empty = .ok r₁ ∧
      c.structuralTypes.foldlM Registry.registerStructural r₁ = .ok r₂ ∧
      c.enumTypes.foldlM Registry.registerEnum r₂ = .ok r := by
  rw [HostCatalog.toRegistry] at h
  cases h₁ : c.hostTypes.foldlM Registry.registerHost .empty with
  | error e => rw [h₁] at h; cases h
  | ok r₁ =>
    rw [h₁] at h
    dsimp only [bind, Except.bind] at h
    cases h₂ : c.structuralTypes.foldlM Registry.registerStructural r₁ with
    | error e => rw [h₂] at h; cases h
    | ok r₂ =>
      rw [h₂] at h
      exact ⟨r₁, r₂, rfl, h₂, h⟩

/-- In the registry of a catalog each name stands for one type. -/
theorem namesUnique_toRegistry {c : HostCatalog} (h : c.toRegistry = .ok r) : r.NamesUnique := by
  obtain ⟨r₁, r₂, h₁, h₂, h₃⟩ := toRegistry_eq_ok h
  -- each kind is registered over the names of those before
  have hhosts : r₁.NamesUnique :=
    foldlM_induction (fun _ _ _ _ ht h => h.registerHost ht) h₁ namesUnique_empty
  have hstructurals : r₂.NamesUnique :=
    foldlM_induction (fun _ _ _ _ ht h => h.registerStructural ht) h₂ hhosts
  exact foldlM_induction (fun _ _ _ _ ht h => h.registerEnum ht) h₃ hstructurals

end Registry

end FacetModel
