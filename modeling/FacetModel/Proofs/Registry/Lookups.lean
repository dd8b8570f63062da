import FacetModel.Proofs.Catalog.Registry
import Mathlib

/-!
# What is found in a registry

Types are looked up by kind and name (`Registry.find?`). After some registrations, just those types
are found with which one of them succeeded (`Registry.find?_registerAll_iff`), so what is found once
is found ever after. A registration fails exactly if one that succeeded has taken its name, for a
type of whatever kind (`Registry.register_registerAll_eq_error_iff`).

The registry of a catalog is what the registrations of its declarations lead to. No two names of a
valid catalog are the same, so each of them succeeds, and each type is found in its own kind
(`Registry.registerAll_exact`).
-/

namespace FacetModel

/-- The kinds of declared types. -/
inductive TypeKind where
  | host
  | structural
  | enum
deriving DecidableEq, Repr

namespace TypeDeclaration

/-- The kind of the declared type. -/
def kind : TypeDeclaration → TypeKind
  | .host _ => .host
  | .structural _ => .structural
  | .enum _ => .enum

/-- The name of the declared type. -/
def name : TypeDeclaration → String
  | .host t => t.name
  | .structural t => t.name
  | .enum t => t.name

end TypeDeclaration

namespace Registry

/-- The type of a kind and a name. -/
def find? (r : Registry) (kind : TypeKind) (name : String) : Option TypeDeclaration :=
  match kind with
  | .host => (r.host? name).map .host
  | .structural => (r.structural? name).map .structural
  | .enum => (r.enum? name).map .enum

/-- The declarations among some whose registration succeeds, if they are registered one after the
other. -/
def accepted (r : Registry) : List TypeDeclaration → List TypeDeclaration
  | [] => []
  | d :: rest =>
    match r.register d with
    | .ok next => d :: accepted next rest
    | .error _ => accepted r rest

variable {r next : Registry} {d found : TypeDeclaration} {kind : TypeKind} {name : String}
  {declarations : List TypeDeclaration}

/-! ### One registration -/

/-- A name is declared if a type of some kind is found. -/
theorem declares_iff : r.declares name = true ↔ ∃ kind found, r.find? kind name = some found := by
  constructor
  · intro h
    rw [declares, Bool.or_eq_true, Bool.or_eq_true] at h
    rcases h with (hhost | hstructural) | henum
    · obtain ⟨t, ht⟩ := Option.isSome_iff_exists.1 hhost
      exact ⟨.host, .host t, congrArg (Option.map TypeDeclaration.host) ht⟩
    · obtain ⟨t, ht⟩ := Option.isSome_iff_exists.1 hstructural
      exact ⟨.structural, .structural t, congrArg (Option.map TypeDeclaration.structural) ht⟩
    · obtain ⟨t, ht⟩ := Option.isSome_iff_exists.1 henum
      exact ⟨.enum, .enum t, congrArg (Option.map TypeDeclaration.enum) ht⟩
  · rintro ⟨kind, found, h⟩
    by_contra hnone
    obtain ⟨hhost, hstructural, henum⟩ := declares_eq_false_iff.1 (Bool.eq_false_iff.2 hnone)
    cases kind with
    | host => simp [find?, host?, hhost] at h
    | structural => simp [find?, structural?, hstructural] at h
    | enum => simp [find?, enum?, henum] at h

/-- A registration fails only because its name is taken, by a type of whatever kind. -/
theorem register_eq_error_iff {e : CatalogError} :
    r.register d = .error e ↔ e = .duplicateDeclaration d.name ∧ r.declares d.name = true := by
  cases d with
  | host t =>
    rw [register, registerHost, TypeDeclaration.name]
    cases r.declares t.name <;> simp [eq_comm]
  | structural t =>
    rw [register, registerStructural, TypeDeclaration.name]
    cases r.declares t.name <;> simp [eq_comm]
  | enum t =>
    rw [register, registerEnum, TypeDeclaration.name]
    cases r.declares t.name <;> simp [eq_comm]

/-- A registered type is found by its kind and name, and all others as before. -/
theorem find?_register (h : r.register d = .ok next) (kind : TypeKind) (name : String) :
    next.find? kind name = if kind = d.kind ∧ name = d.name then some d else r.find? kind name := by
  cases d with
  | host t =>
    rw [register, registerHost] at h
    split at h
    · cases h
    · cases h
      cases kind with
      | host =>
        by_cases hname : name = t.name <;>
          simp [find?, host?, NameMap.get?_insert, TypeDeclaration.kind, TypeDeclaration.name,
            hname]
      | structural => rfl
      | enum => rfl
  | structural t =>
    rw [register, registerStructural] at h
    split at h
    · cases h
    · cases h
      cases kind with
      | host => rfl
      | structural =>
        by_cases hname : name = t.name <;>
          simp [find?, structural?, NameMap.get?_insert, TypeDeclaration.kind, TypeDeclaration.name,
            hname]
      | enum => rfl
  | enum t =>
    rw [register, registerEnum] at h
    split at h
    · cases h
    · cases h
      cases kind with
      | host => rfl
      | structural => rfl
      | enum =>
        by_cases hname : name = t.name <;>
          simp [find?, enum?, NameMap.get?_insert, TypeDeclaration.kind, TypeDeclaration.name,
            hname]

/-- What is found after a registration is the type that was registered, or was found before. -/
theorem find?_register_iff (h : r.register d = .ok next) :
    next.find? kind name = some found ↔
      r.find? kind name = some found ∨ found = d ∧ d.kind = kind ∧ d.name = name := by
  rw [find?_register h]
  split
  · rename_i hsame
    obtain ⟨rfl, rfl⟩ := hsame
    -- the name was free, so nothing was found before
    have hfree : r.find? d.kind d.name ≠ some found := by
      intro hfound
      have herror := register_eq_error_iff.2 ⟨rfl, declares_iff.2 ⟨_, _, hfound⟩⟩
      cases h.symm.trans herror
    simp [hfree, eq_comm]
  · rename_i hother
    refine (or_iff_left ?_).symm
    rintro ⟨-, rfl, rfl⟩
    exact hother ⟨rfl, rfl⟩

/-! ### Registrations one after the other -/

/-- A registration that succeeds goes before the others. -/
theorem registerAll_cons_of_ok (h : r.register d = .ok next) (rest : List TypeDeclaration) :
    r.registerAll (d :: rest) = next.registerAll rest ∧
      r.accepted (d :: rest) = d :: next.accepted rest := by
  rw [registerAll, List.foldl_cons, accepted, h]
  exact ⟨rfl, rfl⟩

/-- A registration that fails is passed over. -/
theorem registerAll_cons_of_error {e : CatalogError} (h : r.register d = .error e)
    (rest : List TypeDeclaration) :
    r.registerAll (d :: rest) = r.registerAll rest ∧
      r.accepted (d :: rest) = r.accepted rest := by
  rw [registerAll, List.foldl_cons, accepted, h]
  exact ⟨rfl, rfl⟩

/-- **What is found after some registrations** was found before, or is the type of one that
succeeded. -/
theorem find?_registerAll_iff :
    (r.registerAll declarations).find? kind name = some found ↔
      r.find? kind name = some found ∨
        found ∈ r.accepted declarations ∧ found.kind = kind ∧ found.name = name := by
  induction declarations generalizing r with
  | nil => simp [registerAll, accepted]
  | cons d rest ih =>
    cases hd : r.register d with
    | error e =>
      obtain ⟨hall, haccepted⟩ := registerAll_cons_of_error hd rest
      rw [hall, haccepted]
      exact ih
    | ok next =>
      obtain ⟨hall, haccepted⟩ := registerAll_cons_of_ok hd rest
      rw [hall, haccepted, ih, find?_register_iff hd, List.mem_cons, or_assoc]
      refine or_congr_right ?_
      constructor
      · rintro (⟨rfl, hsame⟩ | ⟨hmem, hsame⟩)
        · exact ⟨.inl rfl, hsame⟩
        · exact ⟨.inr hmem, hsame⟩
      · rintro ⟨rfl | hmem, hsame⟩
        · exact .inl ⟨rfl, hsame⟩
        · exact .inr ⟨hmem, hsame⟩

theorem find?_empty (kind : TypeKind) (name : String) : Registry.empty.find? kind name = none := by
  cases kind <;> rfl

/-- In a registry that was filled by registrations, one for each accepted declaration is found. -/
theorem find?_registerAll_empty_iff :
    (Registry.empty.registerAll declarations).find? kind name = some found ↔
      found ∈ Registry.empty.accepted declarations ∧ found.kind = kind ∧ found.name = name := by
  rw [find?_registerAll_iff, find?_empty, or_iff_right (by simp)]

/-- **A registration fails** exactly if one that succeeded has taken the name. -/
theorem register_registerAll_eq_error_iff {e : CatalogError} :
    (Registry.empty.registerAll declarations).register d = .error e ↔
      e = .duplicateDeclaration d.name ∧
        ∃ earlier ∈ Registry.empty.accepted declarations, earlier.name = d.name := by
  rw [register_eq_error_iff, declares_iff]
  refine and_congr_right fun _ => ?_
  simp only [find?_registerAll_empty_iff]
  constructor
  · rintro ⟨_, earlier, hmem, -, hname⟩
    exact ⟨earlier, hmem, hname⟩
  · rintro ⟨earlier, hmem, hname⟩
    exact ⟨earlier.kind, earlier, hmem, rfl, hname⟩

theorem registerAll_append (r : Registry) (declarations later : List TypeDeclaration) :
    r.registerAll (declarations ++ later) = (r.registerAll declarations).registerAll later :=
  List.foldl_append

/-- With unique names, a name is found in one kind. -/
theorem NamesUnique.kind_eq (h : r.NamesUnique) {kind' : TypeKind} {found' : TypeDeclaration}
    (hfound : r.find? kind name = some found) (hfound' : r.find? kind' name = some found') :
    kind = kind' := by
  -- two different kinds would have a name in common
  cases kind <;> cases kind' <;>
    simp only [find?, Option.map_eq_some_iff] at hfound hfound' <;>
    obtain ⟨t, ht, -⟩ := hfound <;> obtain ⟨u, hu, -⟩ := hfound'
  · rfl
  · cases (h.host_structural.eq_none ht).symm.trans hu
  · cases (h.host_enum.eq_none ht).symm.trans hu
  · cases (h.host_structural.symm.eq_none ht).symm.trans hu
  · rfl
  · cases (h.structural_enum.eq_none ht).symm.trans hu
  · cases (h.host_enum.symm.eq_none ht).symm.trans hu
  · cases (h.structural_enum.symm.eq_none ht).symm.trans hu
  · rfl

/-! ### The registry of a catalog -/

/-- If registrations one after the other come to an end, all of them succeed. -/
theorem registerAll_of_foldlM (h : declarations.foldlM register r = .ok next) :
    r.registerAll declarations = next ∧ r.accepted declarations = declarations := by
  induction declarations generalizing r with
  | nil =>
    cases h
    exact ⟨rfl, rfl⟩
  | cons d rest ih =>
    rw [List.foldlM_cons] at h
    cases hd : r.register d with
    | error e =>
      rw [hd] at h
      cases h
    | ok middle =>
      rw [hd] at h
      obtain ⟨hrest, hothers⟩ := ih h
      obtain ⟨hall, haccepted⟩ := registerAll_cons_of_ok hd rest
      rw [hall, haccepted, hrest, hothers]
      exact ⟨rfl, rfl⟩

end Registry

/-- The declarations of a catalog, host types first. -/
def HostCatalog.declarations (c : HostCatalog) : List TypeDeclaration :=
  c.hostTypes.map .host ++ c.structuralTypes.map .structural ++ c.enumTypes.map .enum

namespace Registry

variable {r : Registry} {c : HostCatalog}

/-- A catalog is registered kind by kind, which is one run over all its declarations. -/
theorem toRegistry_eq_foldlM (c : HostCatalog) :
    c.toRegistry = c.declarations.foldlM register .empty := by
  simp only [HostCatalog.declarations, List.foldlM_append, List.foldlM_map, bind_assoc]
  rfl

/-- **The registry of a catalog** has the declarations of the catalog. -/
theorem find?_toRegistry_iff (h : c.toRegistry = .ok r) {kind : TypeKind} {name : String}
    {found : TypeDeclaration} :
    r.find? kind name = some found ↔
      found ∈ c.declarations ∧ found.kind = kind ∧ found.name = name := by
  rw [toRegistry_eq_foldlM] at h
  obtain ⟨rfl, haccepted⟩ := registerAll_of_foldlM h
  rw [find?_registerAll_empty_iff, haccepted]

/-- A structural type of the catalog is found under its name. -/
theorem structural?_of_mem {t : StructuralType} (h : c.toRegistry = .ok r)
    (ht : t ∈ c.structuralTypes) : r.structural? t.name = some t := by
  have hmem : .structural t ∈ c.declarations :=
    List.mem_append_left _ (List.mem_append_right _ (List.mem_map_of_mem ht))
  have hfound := (find?_toRegistry_iff h).2 ⟨hmem, rfl, rfl⟩
  obtain ⟨u, hu, heq⟩ := Option.map_eq_some_iff.1 hfound
  cases heq
  exact hu

/-- **Names are registered once.** After any registrations on the empty registry

* one more fails exactly if one that succeeded has its name, and changes nothing then;
* by a kind and a name just the type is found with which a registration succeeded, later ones do not
  change it, and no name is found in two kinds.

A valid catalog has a registry, to which the registrations of its declarations lead, and each
declared type is found in its own kind and in no other one. -/
theorem registerAll_exact (declarations : List TypeDeclaration) :
    let r := Registry.empty.registerAll declarations
    (∀ d e, r.register d = .error e ↔ e = .duplicateDeclaration d.name ∧
        ∃ earlier ∈ Registry.empty.accepted declarations, earlier.name = d.name) ∧
      (∀ d e, r.register d = .error e → ∀ later,
        Registry.empty.registerAll (declarations ++ d :: later) =
          Registry.empty.registerAll (declarations ++ later)) ∧
      (∀ kind name found, r.find? kind name = some found ↔
        found ∈ Registry.empty.accepted declarations ∧ found.kind = kind ∧ found.name = name) ∧
      (∀ kind name found, r.find? kind name = some found → ∀ later,
        (Registry.empty.registerAll (declarations ++ later)).find? kind name = some found) ∧
      (∀ name kind kind' found found', r.find? kind name = some found →
        r.find? kind' name = some found' → kind = kind') ∧
      ∀ c : HostCatalog, c.validate = .ok () →
        ∃ r, c.toRegistry = .ok r ∧ r = Registry.empty.registerAll c.declarations ∧
          ∀ d ∈ c.declarations, ∀ kind,
            r.find? kind d.name = if kind = d.kind then some d else none := by
  intro r
  refine ⟨fun d e => register_registerAll_eq_error_iff, fun d e hd later => ?_,
    fun kind name found => find?_registerAll_empty_iff, fun kind name found hfound later => ?_,
    fun name kind kind' found found' => (namesUnique_empty.registerAll declarations).kind_eq,
    fun c hvalid => ?_⟩
  · rw [registerAll_append, registerAll_append]
    exact (registerAll_cons_of_error hd later).1
  · rw [registerAll_append]
    exact find?_registerAll_iff.2 (.inl hfound)
  · have hregistry := HostCatalog.toRegistry_of_nodup
      (HostCatalog.nodup_typeNames_of_validate hvalid)
    have hall := registerAll_of_foldlM ((toRegistry_eq_foldlM c).symm.trans hregistry)
    refine ⟨c.declared, hregistry, hall.1.symm, fun d hd kind => ?_⟩
    have hfound : c.declared.find? d.kind d.name = some d :=
      (find?_toRegistry_iff hregistry).2 ⟨hd, rfl, rfl⟩
    split
    · rename_i hkind
      rw [hkind, hfound]
    · rename_i hkind
      -- a type of another kind with the name would make the kinds equal
      refine Option.eq_none_iff_forall_ne_some.2 fun other hother => hkind ?_
      exact (namesUnique_toRegistry hregistry).kind_eq hother hfound

/-- A port with ships and their flags. -/
def portCatalog : HostCatalog where
  hostTypes := [{ name := "Port", namespaceName := "Sea" }]
  structuralTypes := [{ name := "Ship", namespaceName := "Sea", keys := ["Number"] }]
  enumTypes := [{ name := "Flag", namespaceName := "Sea", members := ["Red", "Blue"] }]

/-- Registrations of which two fail: a host type has the name of the first enum type, and the other
enum type that of the structural type. -/
def portDeclarations : List TypeDeclaration :=
  [.host { name := "Port", namespaceName := "Sea" },
   .enum { name := "Port", namespaceName := "Sky" },
   .enum { name := "Ship", namespaceName := "Sea" },
   .structural { name := "Ship", namespaceName := "Sea", keys := ["Number"] }]

/-- The ship of the port is an enum type where this was registered first, and is found as it was
declared in the registry of the catalog. -/
theorem registerAll_exact_port :
    portCatalog.validate = .ok () ∧
      Registry.empty.accepted portDeclarations =
        [.host { name := "Port", namespaceName := "Sea" },
         .enum { name := "Ship", namespaceName := "Sea" }] ∧
      (Registry.empty.registerAll portDeclarations).register
          (.structural { name := "Ship", namespaceName := "Sea" }) =
        .error (.duplicateDeclaration "Ship") ∧
      (Registry.empty.registerAll portDeclarations).find? .enum "Ship" =
        some (.enum { name := "Ship", namespaceName := "Sea" }) ∧
      ∃ r, portCatalog.toRegistry = .ok r ∧
        r.find? .structural "Ship" =
          some (.structural { name := "Ship", namespaceName := "Sea", keys := ["Number"] }) ∧
        r.find? .enum "Ship" = none := by
  have hvalid : portCatalog.validate = .ok () := rfl
  have haccepted : Registry.empty.accepted portDeclarations =
      [.host { name := "Port", namespaceName := "Sea" },
       .enum { name := "Ship", namespaceName := "Sea" }] := by cbv
  obtain ⟨hfails, -, hfound, -, -, hcatalogs⟩ := registerAll_exact portDeclarations
  obtain ⟨r, hregistry, -, hkinds⟩ := hcatalogs portCatalog hvalid
  rw [haccepted] at hfails hfound
  have hship : .structural { name := "Ship", namespaceName := "Sea", keys := ["Number"] } ∈
      portCatalog.declarations := by
    simp [HostCatalog.declarations, portCatalog]
  refine ⟨hvalid, haccepted,
    (hfails _ _).2 ⟨rfl, _, List.mem_cons_of_mem _ List.mem_cons_self, rfl⟩,
    (hfound _ _ _).2 ⟨List.mem_cons_of_mem _ List.mem_cons_self, rfl, rfl⟩, r, hregistry,
    hkinds _ hship .structural, hkinds _ hship .enum⟩

end Registry

end FacetModel
