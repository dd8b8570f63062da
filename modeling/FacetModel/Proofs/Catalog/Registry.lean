import FacetModel.Proofs.Registry
import Mathlib.Data.List.Nodup

/-!
# Registries of catalogs

A catalog in which no two types have the same name has a registry, and this holds just what the
catalog declares: a map of each kind, filled with the declarations under their names
(`HostCatalog.toRegistry_of_nodup`). A valid catalog is such a catalog
(`HostCatalog.nodup_typeNames_of_validate`), and it declares the types that it registers
(`HostCatalog.mem_structuralTypes_of_validate`).

A map that is filled with values under different names is the same in whatever order it is filled
(`NameMap.fill_perm`).
-/

namespace FacetModel

/-! ### Maps filled with declarations -/

namespace NameMap

variable {α : Type} {nameOf : α → String} {name other : String}

/-- The map with further values, each under its own name. -/
def fill (nameOf : α → String) (m : NameMap α) (values : List α) : NameMap α :=
  values.foldl (fun m value => m.insert (nameOf value) value) m

/-- Values of different names can be put in one before the other. -/
theorem insert_comm (m : NameMap α) (hne : name ≠ other) (value₁ value₂ : α) :
    (m.insert name value₁).insert other value₂ = (m.insert other value₂).insert name value₁ := by
  refine ext_get? fun n => ?_
  simp only [get?_insert]
  split
  · rename_i hother
    rw [if_neg fun hname => hne (hname.symm.trans hother)]
  · rfl

/-- A name of no value has what it had. -/
theorem get?_fill_of_notMem (m : NameMap α) {values : List α} (h : name ∉ values.map nameOf) :
    (m.fill nameOf values).get? name = m.get? name := by
  induction values generalizing m with
  | nil => rfl
  | cons value rest ih =>
    rw [List.map_cons, List.mem_cons, not_or] at h
    exact (ih (m.insert (nameOf value) value) h.2).trans (m.get?_insert_of_ne value h.1)

/-- **Declarations can be put in in any order.** -/
theorem fill_perm (m : NameMap α) {values values' : List α} (h : values.Perm values')
    (hnames : (values.map nameOf).Nodup) : m.fill nameOf values = m.fill nameOf values' := by
  refine h.foldl_eq' (fun first hfirst second hsecond m => ?_) m
  -- values of one name are one value
  by_cases hname : nameOf first = nameOf second
  · rw [List.inj_on_of_nodup_map hnames hfirst hsecond hname]
  · exact m.insert_comm hname first second

end NameMap

/-! ### Registering all declarations of a kind -/

/-- Declarations with new names are registered, all in the map of their kind. What the registry has
of the other kinds is in `withMap`. -/
theorem Registry.foldlM_register {α : Type} (nameOf : α → String) (withMap : NameMap α → Registry)
    {register : Registry → α → Except CatalogError Registry}
    (hregister : ∀ m value, (withMap m).declares (nameOf value) = false →
      register (withMap m) value = .ok (withMap (m.insert (nameOf value) value)))
    (hother : ∀ m value name, name ≠ nameOf value → (withMap m).declares name = false →
      (withMap (m.insert (nameOf value) value)).declares name = false)
    (m : NameMap α) {values : List α} (hnames : (values.map nameOf).Nodup)
    (hnew : ∀ value ∈ values, (withMap m).declares (nameOf value) = false) :
    values.foldlM register (withMap m) = .ok (withMap (m.fill nameOf values)) := by
  induction values generalizing m with
  | nil => rfl
  | cons value rest ih =>
    obtain ⟨hvalue, hrest⟩ := List.nodup_cons.1 hnames
    obtain ⟨hfirst, hothers⟩ := List.forall_mem_cons.1 hnew
    rw [List.foldlM_cons, hregister m value hfirst]
    refine ih (m.insert (nameOf value) value) hrest fun later hlater => ?_
    refine hother m value (nameOf later) (fun hname => hvalue ?_) (hothers later hlater)
    exact List.mem_map.2 ⟨later, hlater, hname⟩

namespace HostCatalog

variable {c : HostCatalog}

/-- The declarations of a catalog by kind and name. -/
def declared (c : HostCatalog) : Registry where
  hostTypes := .fill HostType.name .empty c.hostTypes
  structuralTypes := .fill StructuralType.name .empty c.structuralTypes
  enumTypes := .fill EnumType.name .empty c.enumTypes

/-- **A catalog without repeated names has a registry, which holds its declarations.** -/
theorem toRegistry_of_nodup (h : c.typeNames.Nodup) : c.toRegistry = .ok c.declared := by
  rw [typeNames, List.nodup_append'] at h
  obtain ⟨hbefore, henums, hapart⟩ := h
  obtain ⟨hhosts, hstructurals, hdisjoint⟩ := List.nodup_append'.1 hbefore
  let hosts : NameMap HostType := .fill HostType.name .empty c.hostTypes
  let structurals : NameMap StructuralType := .fill StructuralType.name .empty c.structuralTypes
  have hhost : ∀ name, name ∉ c.hostTypes.map (·.name) → hosts.get? name = none :=
    fun name hname => NameMap.get?_fill_of_notMem .empty hname
  have hstructural : ∀ name, name ∉ c.structuralTypes.map (·.name) → structurals.get? name = none :=
    fun name hname => NameMap.get?_fill_of_notMem .empty hname
  -- one kind after the other: the maps that are filled before do not have the names of the next
  -- kind
  have hfirst : c.hostTypes.foldlM Registry.registerHost .empty = .ok { hostTypes := hosts } := by
    refine Registry.foldlM_register HostType.name (fun m => { hostTypes := m })
      (fun m t hnew => ?_) (fun m t name hne hnew => ?_)
      .empty hhosts fun t ht => rfl
    · rw [Registry.registerHost, hnew]
      rfl
    · rw [Registry.declares_eq_false_iff] at hnew ⊢
      exact ⟨(m.get?_insert_of_ne t hne).trans hnew.1, hnew.2⟩
  have hsecond : c.structuralTypes.foldlM Registry.registerStructural { hostTypes := hosts }
      = .ok { hostTypes := hosts, structuralTypes := structurals } := by
    refine Registry.foldlM_register StructuralType.name
      (fun m => { hostTypes := hosts, structuralTypes := m }) (fun m t hnew => ?_)
      (fun m t name hne hnew => ?_) .empty hstructurals fun t ht => ?_
    · rw [Registry.registerStructural, hnew]
      rfl
    · rw [Registry.declares_eq_false_iff] at hnew ⊢
      exact ⟨hnew.1, (m.get?_insert_of_ne t hne).trans hnew.2.1, hnew.2.2⟩
    · have hname : t.name ∈ c.structuralTypes.map (·.name) := List.mem_map.2 ⟨t, ht, rfl⟩
      exact Registry.declares_eq_false_iff.2
        ⟨hhost t.name fun hmem => hdisjoint hmem hname, rfl, rfl⟩
  have hthird : c.enumTypes.foldlM Registry.registerEnum
      { hostTypes := hosts, structuralTypes := structurals } = .ok c.declared := by
    refine Registry.foldlM_register EnumType.name
      (fun m => { hostTypes := hosts, structuralTypes := structurals, enumTypes := m })
      (fun m t hnew => ?_) (fun m t name hne hnew => ?_) .empty henums fun t ht => ?_
    · rw [Registry.registerEnum, hnew]
      rfl
    · rw [Registry.declares_eq_false_iff] at hnew ⊢
      exact ⟨hnew.1, hnew.2.1, (m.get?_insert_of_ne t hne).trans hnew.2.2⟩
    · have hname : t.name ∈ c.enumTypes.map (·.name) := List.mem_map.2 ⟨t, ht, rfl⟩
      exact Registry.declares_eq_false_iff.2
        ⟨hhost t.name fun hmem => hapart (List.mem_append_left _ hmem) hname,
          hstructural t.name fun hmem => hapart (List.mem_append_right _ hmem) hname, rfl⟩
  rw [toRegistry, hfirst]
  change (c.structuralTypes.foldlM Registry.registerStructural { hostTypes := hosts } >>= _) = _
  rw [hsecond]
  exact hthird

/-! ### Valid catalogs -/

/-- Names that pass the check are all different, and different from those seen before. -/
theorem nodup_of_checkNames {seen names : List String} (h : checkNames seen names = .ok ()) :
    names.Nodup ∧ ∀ name ∈ names, name ∉ seen := by
  induction names generalizing seen with
  | nil => exact ⟨.nil, List.forall_mem_nil _⟩
  | cons name rest ih =>
    rw [checkNames] at h
    split at h
    · cases h
    · split at h
      · cases h
      · rename_i hseen
        -- the rest was checked against this name as well
        obtain ⟨hrest, hothers⟩ := ih h
        refine ⟨List.nodup_cons.2 ⟨fun hmem => ?_, hrest⟩, List.forall_mem_cons.2 ⟨hseen, ?_⟩⟩
        · exact hothers name hmem List.mem_cons_self
        · exact fun other hother hmem => hothers other hother (List.mem_cons_of_mem _ hmem)

/-- In a valid catalog no two types have the same name, whatever their kinds. -/
theorem nodup_typeNames_of_validate (h : c.validate = .ok ()) : c.typeNames.Nodup := by
  rw [validate] at h
  cases hnames : checkNames [] c.typeNames with
  | error e =>
    rw [hnames] at h
    cases h
  | ok _ => exact (nodup_of_checkNames hnames).1

/-- Names that pass the check are declared. -/
theorem mem_of_checkDeclared {declared names : List String}
    (h : checkDeclared declared names = .ok ()) :
    ∀ name ∈ names, name ∈ declared := by
  induction names with
  | nil => exact List.forall_mem_nil _
  | cons name rest ih =>
    rw [checkDeclared] at h
    split at h
    · rename_i hname
      exact List.forall_mem_cons.2 ⟨hname, ih h⟩
    · cases h

/-- All types that a valid catalog registers are structural types that it declares. -/
theorem mem_structuralTypes_of_validate (h : c.validate = .ok ()) :
    ∀ name ∈ registeredTypes c.registration, name ∈ c.structuralTypes.map (·.name) := by
  rw [validate] at h
  cases hnames : checkNames [] c.typeNames with
  | error e =>
    rw [hnames] at h
    cases h
  | ok _ =>
    rw [hnames] at h
    cases hhosts : checkHosts c.hostTypes with
    | error e =>
      rw [hhosts] at h
      cases h
    | ok _ =>
      rw [hhosts] at h
      exact mem_of_checkDeclared h

end HostCatalog

end FacetModel
