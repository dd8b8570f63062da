import FacetModel.Proofs.Registry
import Mathlib

/-!
# Walks along the bases of a host type

A walk goes from a host type to its base, from there to the next base, and so on, before it would
come to the root (`Registry.Climbs`). It ends in one of five ways (`Registry.WalkEnds`): at once, if
it begins at the root or at a name that is not declared; and else at a type without a base below the
root, at a base that is missing, or at a type that it has visited.

`Registry.walk?` makes the walk round by round and counts the rounds. It needs no more of them than
there are host types, and comes to what `Registry.hostChain` says (`walk?_size`). That this is the
only way in which a walk can end is due to the bases: each type has at most one, so all walks from a
type visit the same types (`eq_of_isChain_of_stops`).

Of host types a walk sees the bases, and nothing else (`Registry.hostChain_mapHosts`).
-/

namespace FacetModel

namespace Registry

variable {r : Registry} {host root name : String} {t u : HostType} {above path : List HostType}

/-! ### Paths along the bases -/

/-- A host type has another one as its base, and the base is not the root. -/
def IsBase (r : Registry) (root : String) (t u : HostType) : Prop :=
  ∃ base, t.base = some base ∧ base ≠ root ∧ r.host? base = some u

/-- The host types from a name on, each the base of the one before. -/
structure Climbs (r : Registry) (root name : String) (path : List HostType) : Prop where
  first : ∃ t rest, path = t :: rest ∧ r.host? name = some t
  bases : path.IsChain (r.IsBase root)

/-- How a walk from a host type ends. -/
inductive WalkEnds (r : Registry) (host root : String) :
    Except CatalogError (List HostType) → Prop
  /-- The host type is the root, and need not be declared. -/
  | atRoot (hroot : host = root) : WalkEnds r host root (.ok [])
  | undeclared (hne : host ≠ root) (hnone : r.host? host = none) :
      WalkEnds r host root (.error (.hostTypeNotFound host))
  /-- A type without base, or with the root as its base, is reached. -/
  | complete {above : List HostType} {t : HostType} (hne : host ≠ root)
      (hpath : r.Climbs root host (above ++ [t])) (hend : t.base = none ∨ t.base = some root) :
      WalkEnds r host root (.ok (above ++ [t]))
  /-- A type with a base that is not declared is reached. -/
  | baseMissing {above : List HostType} {t : HostType} {base : String} (hne : host ≠ root)
      (hpath : r.Climbs root host (above ++ [t])) (hbase : t.base = some base)
      (hroot : base ≠ root) (hnone : r.host? base = none) :
      WalkEnds r host root (.error (.baseTypeNotFound t.name base))
  /-- A type with a base that was visited is reached, and no type was visited twice before. -/
  | cycle {above : List HostType} {t : HostType} {base : String} (hne : host ≠ root)
      (hpath : r.Climbs root host (above ++ [t]))
      (hnodup : ((above ++ [t]).map (·.name)).Nodup) (hbase : t.base = some base)
      (hroot : base ≠ root) (hmet : base ∈ (above ++ [t]).map (·.name)) :
      WalkEnds r host root (.error (.inheritanceCycle host base))

/-- A type has at most one base type, since it names at most one. -/
theorem IsBase.unique {v : HostType} (hu : r.IsBase root t u) (hv : r.IsBase root t v) : u = v := by
  obtain ⟨base, hbase, -, hu⟩ := hu
  obtain ⟨other, hother, -, hv⟩ := hv
  cases hbase.symm.trans hother
  exact Option.some.inj (hu.symm.trans hv)

/-- Paths from one type that can be followed no further are the same. -/
theorem eq_of_isChain_of_stops {rest other : List HostType}
    (h : (t :: rest).IsChain (r.IsBase root)) (h' : (t :: other).IsChain (r.IsBase root))
    (hstop : ∀ v ∈ (t :: rest).getLast?, ∀ w, ¬ r.IsBase root v w)
    (hstop' : ∀ v ∈ (t :: other).getLast?, ∀ w, ¬ r.IsBase root v w) : rest = other := by
  induction rest generalizing t other with
  | nil =>
    cases other with
    | nil => rfl
    | cons v other => exact absurd (List.isChain_cons_cons.1 h').1 (hstop t rfl v)
  | cons u rest ih =>
    obtain ⟨hu, h⟩ := List.isChain_cons_cons.1 h
    cases other with
    | nil => exact absurd hu (hstop' t rfl u)
    | cons v other =>
      obtain ⟨hv, h'⟩ := List.isChain_cons_cons.1 h'
      -- both paths go on, and to the same type, as there is one base only
      cases hu.unique hv
      rw [List.getLast?_cons_cons] at hstop hstop'
      rw [ih h h' hstop hstop']

/-- A path that can be followed no further visits no type twice. -/
theorem nodup_of_stops (h : path.IsChain (r.IsBase root))
    (hstop : ∀ v ∈ path.getLast?, ∀ w, ¬ r.IsBase root v w) : path.Nodup := by
  induction path with
  | nil => exact List.nodup_nil
  | cons t rest ih =>
    have hrest : rest.Nodup := by
      refine ih h.tail fun v hv => hstop v ?_
      rw [List.getLast?_cons, Option.mem_def.1 hv]
      rfl
    refine List.nodup_cons.2 ⟨fun hmem => ?_, hrest⟩
    -- the path from where the type comes again would be the whole path
    obtain ⟨between, after, rfl⟩ := List.append_of_mem hmem
    have hagain : (t :: after).IsChain (r.IsBase root) :=
      (List.isChain_append.1 h.tail).2.1
    have hsame : between ++ t :: after = after := by
      refine eq_of_isChain_of_stops h hagain hstop fun v hv => hstop v ?_
      rw [← List.cons_append, List.getLast?_append, Option.mem_def.1 hv]
      rfl
    have hlength := congrArg List.length hsame
    rw [List.length_append, List.length_cons] at hlength
    omega

/-! ### The types on a path -/

/-- Every type on a path is the one that its name is declared with. -/
theorem Climbs.declared (hnamed : r.hostTypes.Named HostType.name) (h : r.Climbs root name path) :
    ∀ t ∈ path, r.host? t.name = some t := by
  refine List.IsChain.induction _ path h.bases (fun t u hbase _ => ?_) fun hne => ?_
  · obtain ⟨base, -, -, hu⟩ := hbase
    rw [hnamed base u hu]
    exact hu
  · obtain ⟨t, rest, rfl, ht⟩ := h.first
    rw [List.head_cons, hnamed name t ht]
    exact ht

/-- Types on a path have different names if they are different. -/
theorem Climbs.nodup_names (hnamed : r.hostTypes.Named HostType.name)
    (h : r.Climbs root name path) (hnodup : path.Nodup) : (path.map (·.name)).Nodup := by
  refine hnodup.map_on fun t ht u hu heq => Option.some.inj ?_
  rw [← h.declared hnamed t ht, ← h.declared hnamed u hu]
  exact congrArg r.host? heq

/-- A path does not come to the root. -/
theorem Climbs.root_notMem (hnamed : r.hostTypes.Named HostType.name)
    (h : r.Climbs root name path) (hne : name ≠ root) : root ∉ path.map (·.name) := by
  have hall : ∀ t ∈ path, t.name ≠ root := by
    refine List.IsChain.induction _ path h.bases (fun t u hbase _ => ?_) fun hnil => ?_
    · obtain ⟨base, -, hroot, hu⟩ := hbase
      rw [hnamed base u hu]
      exact hroot
    · obtain ⟨t, rest, rfl, ht⟩ := h.first
      rw [List.head_cons, hnamed name t ht]
      exact hne
  rintro hmem
  obtain ⟨t, ht, heq⟩ := List.mem_map.1 hmem
  exact hall t ht heq

/-- A path goes on with the base of its last type. -/
theorem Climbs.concat (h : r.Climbs root name (above ++ [t])) (hbase : r.IsBase root t u) :
    r.Climbs root name (above ++ [t] ++ [u]) where
  first := by
    obtain ⟨v, rest, heq, hv⟩ := h.first
    exact ⟨v, rest ++ [u], by rw [heq, List.cons_append], hv⟩
  bases := by
    refine List.isChain_append.2 ⟨h.bases, List.isChain_singleton u, fun v hv w hw => ?_⟩
    rw [List.getLast?_concat, Option.mem_some_iff] at hv
    rw [List.head?_cons, Option.mem_some_iff] at hw
    exact hv ▸ hw ▸ hbase

theorem climbs_singleton (ht : r.host? name = some t) : r.Climbs root name [t] :=
  ⟨⟨t, [], rfl, ht⟩, List.isChain_singleton t⟩

/-- A path of several types goes on from the base of its first one, which is not the root. -/
theorem Climbs.of_cons (hnamed : r.hostTypes.Named HostType.name) {rest : List HostType}
    (h : r.Climbs root name (t :: u :: rest)) :
    name = t.name ∧ r.host? name = some t ∧
      ∃ base, t.base = some base ∧ base ≠ root ∧ r.Climbs root base (u :: rest) := by
  obtain ⟨v, others, heq, ht⟩ := h.first
  cases heq
  obtain ⟨⟨base, hbase, hroot, hu⟩, hrest⟩ := List.isChain_cons_cons.1 h.bases
  exact ⟨(hnamed name t ht).symm, ht, base, hbase, hroot, ⟨u, rest, rfl, hu⟩, hrest⟩

/-! ### One round of a walk -/

theorem chainFrom_of_mem {met : List String} (hmem : name ∈ met) :
    r.chainFrom host root met name = .error (.inheritanceCycle host name) := by
  rw [chainFrom, dif_pos hmem]

/-- The walk cannot start from a name without a type. -/
theorem chainFrom_of_undeclared (hnone : r.host? name = none) :
    r.chainFrom host root [] name = .error (.hostTypeNotFound name) := by
  rw [chainFrom, dif_neg List.not_mem_nil]
  split
  · rfl
  · rename_i hsome
    cases hnone.symm.trans hsome

/-- A base without a type is told together with the type whose base it is. -/
theorem chainFrom_of_missing {previous : String} {met : List String} (hmem : name ∉ previous :: met)
    (hnone : r.host? name = none) :
    r.chainFrom host root (previous :: met) name = .error (.baseTypeNotFound previous name) := by
  rw [chainFrom, dif_neg hmem]
  split
  · rfl
  · rename_i hsome
    cases hnone.symm.trans hsome

/-- A type that was not met is taken, and the walk stops at it or goes on with its base. -/
theorem chainFrom_of_host {met : List String} (hmem : name ∉ met) (ht : r.host? name = some t) :
    r.chainFrom host root met name =
      match t.base with
      | none => .ok [t]
      | some base =>
        if base = root then .ok [t]
        else (r.chainFrom host root (name :: met) base).map (t :: ·) := by
  rw [chainFrom, dif_neg hmem]
  split
  · rename_i hnone
    cases hnone.symm.trans ht
  · rename_i hsome
    cases ht.symm.trans hsome
    cases t.base with
    | none => rfl
    | some base =>
      dsimp only
      split
      · rfl
      · cases r.chainFrom host root (name :: met) base <;> rfl

/-- Along a path of different types, the walk comes to the last one with the others behind it. -/
theorem chainFrom_of_climbs (hnamed : r.hostTypes.Named HostType.name) {met : List String}
    (hpath : r.Climbs root name (above ++ [t])) (hnodup : ((above ++ [t]).map (·.name)).Nodup)
    (hmet : ∀ v ∈ above ++ [t], v.name ∉ met) :
    r.chainFrom host root met name =
      (r.chainFrom host root ((above.map (·.name)).reverse ++ met) t.name).map (above ++ ·) := by
  induction above generalizing met name with
  | nil =>
    obtain ⟨v, rest, heq, ht⟩ := hpath.first
    cases heq
    rw [hnamed name t ht, List.map_nil, List.reverse_nil, List.nil_append]
    cases r.chainFrom host root met name <;> rfl
  | cons v above ih =>
    -- there is a next type, whose name is the base of this one
    obtain ⟨u, rest, hrest⟩ : ∃ u rest, above ++ [t] = u :: rest :=
      List.exists_cons_of_ne_nil (List.append_ne_nil_of_right_ne_nil above nofun)
    rw [List.cons_append, hrest] at hpath
    obtain ⟨rfl, hv, base, hbase, hroot, hnext⟩ := hpath.of_cons hnamed
    rw [← hrest] at hnext
    obtain ⟨hfresh, hnodup⟩ := List.nodup_cons.1 hnodup
    obtain ⟨hmem, hmet⟩ := List.forall_mem_cons.1 hmet
    rw [chainFrom_of_host hmem hv, hbase]
    dsimp only
    rw [if_neg hroot, ih hnext hnodup fun w hw => ?_]
    · rw [List.map_cons, List.reverse_cons, List.append_assoc, List.singleton_append]
      cases r.chainFrom host root ((above.map (·.name)).reverse ++ v.name :: met) t.name <;> rfl
    · rw [List.mem_cons, not_or]
      exact ⟨fun heq => hfresh (List.mem_map.2 ⟨w, hw, heq⟩), hmet w hw⟩

/-! ### Ways to end -/

/-- A path that can be followed no further has different names. -/
theorem Climbs.nodup_of_stops (hnamed : r.hostTypes.Named HostType.name)
    (hpath : r.Climbs root name (above ++ [t])) (hstop : ∀ u, ¬ r.IsBase root t u) :
    ((above ++ [t]).map (·.name)).Nodup := by
  refine hpath.nodup_names hnamed (Registry.nodup_of_stops hpath.bases fun v hv => ?_)
  rw [List.getLast?_concat, Option.mem_some_iff] at hv
  exact hv ▸ hstop

/-- The walk follows every path of different types. -/
theorem hostChain_of_climbs (hnamed : r.hostTypes.Named HostType.name) (hne : host ≠ root)
    (hpath : r.Climbs root host (above ++ [t])) (hnodup : ((above ++ [t]).map (·.name)).Nodup) :
    r.hostChain host root =
      match t.base with
      | none => .ok (above ++ [t])
      | some base =>
        if base = root then .ok (above ++ [t])
        else (r.chainFrom host root ((above ++ [t]).map (·.name)).reverse base).map
          (above ++ [t] ++ ·) := by
  have ht : r.host? t.name = some t :=
    hpath.declared hnamed t (List.mem_append_right above (List.mem_singleton_self t))
  have hfresh : t.name ∉ (above.map (·.name)).reverse := by
    rw [List.map_append, List.map_singleton] at hnodup
    rw [List.mem_reverse]
    exact fun hmem => (List.nodup_append.1 hnodup).2.2 _ hmem _ (List.mem_singleton_self _) rfl
  rw [hostChain, if_neg hne, chainFrom_of_climbs hnamed hpath hnodup fun _ _ => List.not_mem_nil,
    List.append_nil, chainFrom_of_host hfresh ht, List.map_append, List.map_singleton,
    List.reverse_concat]
  cases t.base with
  | none => rfl
  | some base =>
    dsimp only
    split
    · rfl
    · cases r.chainFrom host root (t.name :: (above.map (·.name)).reverse) base with
      | error e => rfl
      | ok chain => exact congrArg Except.ok (List.append_cons above t chain)

/-- A walk comes to what it is seen to end with. -/
theorem hostChain_of_walkEnds (hnamed : r.hostTypes.Named HostType.name)
    {outcome : Except CatalogError (List HostType)} (h : r.WalkEnds host root outcome) :
    r.hostChain host root = outcome := by
  cases h with
  | atRoot hroot => rw [hostChain, if_pos hroot]
  | undeclared hne hnone =>
    rw [hostChain, if_neg hne, chainFrom_of_undeclared hnone]
  | @complete above t hne hpath hend =>
    -- the last type has no base that the walk could go on with, so the path has different names
    have hstop : ∀ u, ¬ r.IsBase root t u := by
      rintro u ⟨base, hbase, hroot, -⟩
      rcases hend with hend | hend
      · cases hbase.symm.trans hend
      · exact hroot (Option.some.inj (hbase.symm.trans hend))
    rw [hostChain_of_climbs hnamed hne hpath (hpath.nodup_of_stops hnamed hstop)]
    rcases hend with hend | hend
    · rw [hend]
    · rw [hend]
      exact if_pos rfl
  | @baseMissing above t base hne hpath hbase hroot hnone =>
    have hstop : ∀ u, ¬ r.IsBase root t u := by
      rintro u ⟨base, hbase', -, hu⟩
      cases hbase.symm.trans hbase'
      cases hnone.symm.trans hu
    rw [hostChain_of_climbs hnamed hne hpath (hpath.nodup_of_stops hnamed hstop), hbase]
    dsimp only
    rw [if_neg hroot, List.map_append, List.map_singleton, List.reverse_concat,
      chainFrom_of_missing _ hnone]
    · rfl
    · -- all types on the path are declared
      rw [← List.reverse_concat, List.mem_reverse, ← List.map_singleton, ← List.map_append]
      intro hmem
      obtain ⟨v, hv, rfl⟩ := List.mem_map.1 hmem
      cases hnone.symm.trans (hpath.declared hnamed v hv)
  | cycle hne hpath hnodup hbase hroot hmet =>
    rw [hostChain_of_climbs hnamed hne hpath hnodup, hbase]
    dsimp only
    rw [if_neg hroot, chainFrom_of_mem (List.mem_reverse.2 hmet)]
    rfl

/-! ### Walks round by round -/

/-- The walk on from a type with others behind it, if it ends within so many rounds. Each round
takes note of one type. -/
def walkOn? (r : Registry) (host root : String) :
    Nat → List HostType → HostType → Option (Except CatalogError (List HostType))
  | 0, _, _ => none
  | rounds + 1, above, t =>
    let path := above ++ [t]
    match t.base with
    | none => some (.ok path)
    | some base =>
      if base = root then some (.ok path)
      else if base ∈ path.map (·.name) then some (.error (.inheritanceCycle host base))
      else
        match r.host? base with
        | none => some (.error (.baseTypeNotFound t.name base))
        | some u => walkOn? r host root rounds path u

/-- The walk from a host type, if it ends within so many rounds. -/
def walk? (r : Registry) (host root : String) (rounds : Nat) :
    Option (Except CatalogError (List HostType)) :=
  if host = root then some (.ok [])
  else
    match r.host? host with
    | none => some (.error (.hostTypeNotFound host))
    | some t => r.walkOn? host root rounds [] t

/-- If a walk ends, it does so in one of the ways. -/
theorem walkEnds_of_walkOn? {rounds : Nat} {outcome : Except CatalogError (List HostType)}
    (hne : host ≠ root) (hpath : r.Climbs root host (above ++ [t]))
    (hnodup : ((above ++ [t]).map (·.name)).Nodup) (hnamed : r.hostTypes.Named HostType.name)
    (h : r.walkOn? host root rounds above t = some outcome) : r.WalkEnds host root outcome := by
  induction rounds generalizing above t with
  | zero => cases h
  | succ rounds ih =>
    rw [walkOn?] at h
    cases hbase : t.base with
    | none =>
      simp only [hbase] at h
      cases h
      exact .complete hne hpath (.inl hbase)
    | some base =>
      simp only [hbase] at h
      split at h
      · rename_i hroot
        cases h
        exact .complete hne hpath (.inr (hroot ▸ hbase))
      · rename_i hroot
        split at h
        · rename_i hmet
          cases h
          exact .cycle hne hpath hnodup hbase hroot hmet
        · rename_i hnew
          split at h
          · rename_i hnone
            cases h
            exact .baseMissing hne hpath hbase hroot hnone
          · rename_i u hu
            -- the base is a new name, so the longer path still has different ones
            refine ih (hpath.concat ⟨base, hbase, hroot, hu⟩) ?_ h
            rw [List.map_append, List.map_singleton, hnamed base u hu]
            exact (List.perm_append_singleton base _).nodup_iff.2 (List.nodup_cons.2 ⟨hnew, hnodup⟩)

/-- A walk ends before it has taken more rounds than there are types it has not visited. -/
theorem exists_walkOn? (hnamed : r.hostTypes.Named HostType.name) {rounds : Nat}
    (ht : r.host? t.name = some t) (hnew : t.name ∉ above.map (·.name))
    (hrounds : r.hostTypes.unseen (above.map (·.name)).reverse ≤ rounds) :
    ∃ outcome, r.walkOn? host root rounds above t = some outcome := by
  have hless : r.hostTypes.unseen (t.name :: (above.map (·.name)).reverse) <
      r.hostTypes.unseen (above.map (·.name)).reverse :=
    NameMap.unseen_cons_lt ht (by rwa [List.mem_reverse])
  induction rounds generalizing above t with
  | zero => omega
  | succ rounds ih =>
    rw [walkOn?]
    cases t.base with
    | none => exact ⟨_, rfl⟩
    | some base =>
      dsimp only
      split
      · exact ⟨_, rfl⟩
      · split
        · exact ⟨_, rfl⟩
        · rename_i hmet
          split
          · exact ⟨_, rfl⟩
          · rename_i u hu
            obtain rfl : u.name = base := hnamed base u hu
            -- the names that were met are listed from the last one back
            have hseen : ((above ++ [t]).map (·.name)).reverse =
                t.name :: (above.map (·.name)).reverse := by
              rw [List.map_append, List.map_singleton, List.reverse_concat]
            refine ih hu hmet (by rw [hseen]; omega) ?_
            exact NameMap.unseen_cons_lt hu (by rwa [List.mem_reverse])

/-- **A walk ends** after at most as many rounds as there are host types, with the chain. -/
theorem walk?_size (hnamed : r.hostTypes.Named HostType.name) (host root : String) :
    r.walk? host root r.hostTypes.size = some (r.hostChain host root) ∧
      r.WalkEnds host root (r.hostChain host root) := by
  obtain ⟨outcome, hwalk, hends⟩ : ∃ outcome,
      r.walk? host root r.hostTypes.size = some outcome ∧ r.WalkEnds host root outcome := by
    rw [walk?]
    by_cases hroot : host = root
    · rw [if_pos hroot]
      exact ⟨_, rfl, .atRoot hroot⟩
    rw [if_neg hroot]
    cases ht : r.host? host with
    | none => exact ⟨_, rfl, .undeclared hroot ht⟩
    | some t =>
      obtain rfl : t.name = host := hnamed host t ht
      have hpath : r.Climbs root t.name ([] ++ [t]) := climbs_singleton ht
      obtain ⟨outcome, hwalk⟩ : ∃ outcome,
          r.walkOn? t.name root r.hostTypes.size [] t = some outcome :=
        exists_walkOn? hnamed ht List.not_mem_nil r.hostTypes.unseen_nil_le
      exact ⟨outcome, hwalk,
        walkEnds_of_walkOn? hroot hpath (List.nodup_singleton t.name) hnamed hwalk⟩
  rw [hostChain_of_walkEnds hnamed hends]
  exact ⟨hwalk, hends⟩

/-- The types of a chain have different names, and none is the root. -/
theorem nodup_of_hostChain (hnamed : r.hostTypes.Named HostType.name)
    (h : r.hostChain host root = .ok path) :
    (path.map (·.name)).Nodup ∧ root ∉ path.map (·.name) := by
  have hends := (r.walk?_size hnamed host root).2
  rw [h] at hends
  cases hends with
  | atRoot hroot => exact ⟨List.nodup_nil, List.not_mem_nil⟩
  | @complete above t hne hpath hend =>
    refine ⟨hpath.nodup_of_stops hnamed fun u hu => ?_, hpath.root_notMem hnamed hne⟩
    obtain ⟨base, hbase, hroot, -⟩ := hu
    rcases hend with hend | hend
    · cases hbase.symm.trans hend
    · exact hroot (Option.some.inj (hbase.symm.trans hend))

/-- **Every hierarchy is classified.** In a registry that was filled by registrations, the walk
along the bases of a host type ends after at most as many rounds as there are host types. It has a
result exactly if it is seen to end with it, and there is just one. The types of a chain have
different names, and none is the root. -/
theorem hostChain_classified (declarations : List TypeDeclaration) (host root : String) :
    let r := Registry.empty.registerAll declarations
    r.walk? host root r.hostTypes.size = some (r.hostChain host root) ∧
      (∀ outcome, r.hostChain host root = outcome ↔ r.WalkEnds host root outcome) ∧
      ∀ chain, r.hostChain host root = .ok chain →
        (chain.map (·.name)).Nodup ∧ root ∉ chain.map (·.name) := by
  intro r
  have hnamed : r.hostTypes.Named HostType.name :=
    (namesUnique_empty.registerAll declarations).hosts
  obtain ⟨hwalk, hends⟩ := r.walk?_size hnamed host root
  exact ⟨hwalk, fun outcome => ⟨fun heq => heq ▸ hends, hostChain_of_walkEnds hnamed⟩,
    fun chain => nodup_of_hostChain hnamed⟩

/-- A walk that runs into a cycle behind its first type. -/
example : (Registry.empty.registerAll
    [.host { name := "Annex", namespaceName := "Test", base := some "House" },
     .host { name := "House", namespaceName := "Test", base := some "Garden" },
     .host { name := "Garden", namespaceName := "Test", base := some "House" }]).hostChain "Annex"
        "Root"
      = .error (.inheritanceCycle "Annex" "House") := by
  cbv

/-! ### What a walk sees -/

/-- The registry with each host type changed. -/
def mapHosts (r : Registry) (f : HostType → HostType) : Registry :=
  { r with hostTypes := r.hostTypes.map f }

/-- The walk reads nothing of the types but their bases, so it goes the same way when other parts of
them are changed. -/
theorem chainFrom_mapHosts {f : HostType → HostType} (hf : ∀ t, (f t).base = t.base)
    (r : Registry) (host root : String) (met : List String) (name : String) :
    (r.mapHosts f).chainFrom host root met name =
      (r.chainFrom host root met name).map (List.map f) := by
  have hundeclared : ∀ {name}, r.host? name = none → (r.mapHosts f).host? name = none :=
    fun hnone => (NameMap.get?_map f r.hostTypes _).trans (congrArg (Option.map f) hnone)
  have hdeclared : ∀ {name t}, r.host? name = some t → (r.mapHosts f).host? name = some (f t) :=
    fun ht => (NameMap.get?_map f r.hostTypes _).trans (congrArg (Option.map f) ht)
  induction met, name using chainFrom.induct r host root with
  | case1 met name hmem =>
    rw [chainFrom_of_mem hmem, chainFrom_of_mem hmem]
    rfl
  | case2 name hnone =>
    rw [chainFrom_of_undeclared hnone, chainFrom_of_undeclared (hundeclared hnone)]
    rfl
  | case3 name hnone previous met hmem =>
    rw [chainFrom_of_missing hmem hnone, chainFrom_of_missing hmem (hundeclared hnone)]
    rfl
  | case4 met name hmem t ht hbase =>
    rw [chainFrom_of_host hmem ht, chainFrom_of_host hmem (hdeclared ht), hf, hbase]
    rfl
  | case5 met name hmem t ht hbase =>
    rw [chainFrom_of_host hmem ht, chainFrom_of_host hmem (hdeclared ht), hf, hbase]
    dsimp only
    rw [if_pos rfl, if_pos rfl]
    rfl
  | case6 met name hmem t ht base hbase hroot chain hchain ih =>
    rw [chainFrom_of_host hmem ht, chainFrom_of_host hmem (hdeclared ht), hf, hbase]
    dsimp only
    rw [if_neg hroot, if_neg hroot, ih, hchain]
    rfl
  | case7 met name hmem t ht base hbase hroot e hfails ih =>
    rw [chainFrom_of_host hmem ht, chainFrom_of_host hmem (hdeclared ht), hf, hbase]
    dsimp only
    rw [if_neg hroot, if_neg hroot, ih, hfails]
    rfl

/-- A walk sees the bases of host types and nothing else of them. -/
theorem hostChain_mapHosts {f : HostType → HostType} (hf : ∀ t, (f t).base = t.base)
    (r : Registry) (host root : String) :
    (r.mapHosts f).hostChain host root = (r.hostChain host root).map (List.map f) := by
  rw [hostChain, hostChain]
  split
  · rfl
  · exact chainFrom_mapHosts hf r host root [] host

end Registry

end FacetModel
