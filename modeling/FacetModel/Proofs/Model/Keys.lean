import FacetModel.Proofs.Model.Lineage
import FacetModel.Proofs.Store.Submission

/-!
# Keys along base types

The key of a type is the list of keys of the nearest type along its base types that has any. So keys
that are set for a type (`Model.setKeys`) become the key of the types that are of it, apart from
those between which and it there are other keys already (`Model.KeysBelow`), and change no other key
(`keyProperties_setKeys`). A type is of all types in its lineage and of no others, also where base
types lead in a circle (`mem_lineage_iff`).

A model accepts no change that another one with the same entity sets rejects exactly if its keys
contain those of the other one (`forall_validate_imp_iff`).
-/

namespace FacetModel

/-- The type with other keys, if it has a name. -/
def ModelType.setKeysOf (name : String) (keys : List String) (t : ModelType) : ModelType :=
  if t.name = name then { t with keys } else t

namespace ModelType

variable {t : ModelType} {name : String} {keys : List String}

@[simp] theorem name_setKeysOf : (t.setKeysOf name keys).name = t.name := by
  rw [setKeysOf]
  split <;> rfl

@[simp] theorem baseType_setKeysOf : (t.setKeysOf name keys).baseType = t.baseType := by
  rw [setKeysOf]
  split <;> rfl

theorem setKeysOf_of_ne (h : t.name ≠ name) : t.setKeysOf name keys = t := if_neg h

theorem keys_setKeysOf (h : t.name = name) : (t.setKeysOf name keys).keys = keys := by
  rw [setKeysOf, if_pos h]

theorem ownKeys?_eq_none_iff : t.ownKeys? = none ↔ t.keys = [] := by
  rw [ownKeys?]
  split
  case isTrue h => exact iff_of_true rfl (List.isEmpty_iff.1 h)
  case isFalse h => exact iff_of_false (by simp) fun heq => h (List.isEmpty_iff.2 heq)

theorem ownKeys?_of_ne_nil (h : t.keys ≠ []) : t.ownKeys? = some t.keys :=
  if_neg fun heq => h (List.isEmpty_iff.1 heq)

end ModelType

namespace Model

variable {m : Model} {name other : String}

/-! ### Lineages and base types -/

/-- Only a type of the model has a base type. -/
theorem isSome_findType?_of_hasBase {base : String} (h : m.HasBase name base) :
    (m.findType? name).isSome := by
  obtain ⟨t, ht, rfl, -⟩ := h
  exact List.find?_isSome.2 ⟨t, ht, beq_self_eq_true _⟩

/-- Where types have different names, the base type of a name is that of the type found under it. -/
theorem baseType_of_hasBase (hnames : (m.types.map (·.name)).Nodup) {t : ModelType} {base : String}
    (ht : m.findType? name = some t) (h : m.HasBase name base) : t.baseType = some base := by
  obtain ⟨other, hother, rfl, hbase⟩ := h
  have hfind : m.findType? other.name = some other := find?_of_nodup ModelType.name hnames hother
  cases ht.symm.trans hfind
  exact hbase

/-- A walk upwards meets only types that the first one is of. -/
theorem isA_of_mem_lineageFrom {met : List String} {t : ModelType}
    (h : t ∈ m.lineageFrom met name) : m.IsA name t.name := by
  induction met, name using lineageFrom.induct m with
  | case1 met name hmem =>
    rw [lineageFrom_of_mem hmem] at h
    cases h
  | case2 met name hmem ht =>
    rw [lineageFrom_of_none hmem ht] at h
    cases h
  | case3 met name hmem first ht hbase =>
    rw [lineageFrom_of_some hmem ht, hbase] at h
    rw [List.mem_singleton.1 h, name_of_findType? ht]
    exact .refl
  | case4 met name hmem first ht base hbase ih =>
    rw [lineageFrom_of_some hmem ht, hbase] at h
    rcases List.mem_cons.1 h with rfl | h
    · rw [name_of_findType? ht]
      exact .refl
    -- the first type is of its base type, and that is of all that follow
    · exact (ih h).head (hasBase_of_findType? ht hbase)

/-- The names that were met, and those along the lineage from a name. -/
def metAlong (m : Model) (met : List String) (name : String) : List String :=
  met ++ (m.lineageFrom met name).map (·.name)

/-- A type that is met counts among the names met, as the walk goes on from its base type. -/
theorem metAlong_of_some {met : List String} (hmem : name ∉ met) {t : ModelType}
    (ht : m.findType? name = some t) {n : String} :
    n ∈ m.metAlong met name ↔
      n ∈ (t.baseType.map (m.metAlong (name :: met))).getD (name :: met) := by
  rw [metAlong, lineageFrom_of_some hmem ht, List.map_cons, name_of_findType? ht]
  cases t.baseType with
  | none => simp [or_comm]
  | some base => simp [metAlong, or_left_comm]

/-- The walk upwards: if the types that were met have their base types among these, apart from one
whose base type comes next, then all have in the end. -/
theorem mem_metAlong_of_hasBase (hnames : (m.types.map (·.name)).Nodup) {met : List String}
    (hmet : ∀ n ∈ met, ∀ base, m.HasBase n base → base ∈ met ∨ base = name) {n base : String}
    (hn : n ∈ m.metAlong met name) (hbase : m.HasBase n base)
    (hsome : (m.findType? base).isSome) : base ∈ m.metAlong met name := by
  induction met, name using lineageFrom.induct m with
  | case1 met name hmem =>
    rw [metAlong, lineageFrom_of_mem hmem, List.map_nil, List.append_nil] at hn ⊢
    exact (hmet n hn base hbase).elim id fun heq => heq ▸ hmem
  | case2 met name hmem ht =>
    rw [metAlong, lineageFrom_of_none hmem ht, List.map_nil, List.append_nil] at hn ⊢
    refine (hmet n hn base hbase).resolve_right fun heq => ?_
    rw [heq, ht] at hsome
    cases hsome
  | case3 met name hmem t ht hnone =>
    rw [metAlong_of_some hmem ht, hnone] at hn ⊢
    rcases List.mem_cons.1 hn with rfl | hn
    · cases hnone.symm.trans (baseType_of_hasBase hnames ht hbase)
    · exact List.mem_cons.2 (hmet n hn base hbase).symm
  | case4 met name hmem t ht next hnext ih =>
    rw [metAlong_of_some hmem ht, hnext] at hn ⊢
    -- the type that is met now has the next one as its base type, and is the only exception again
    have hmet' : ∀ n ∈ name :: met, ∀ base, m.HasBase n base →
        base ∈ name :: met ∨ base = next := by
      intro n hn base hbase
      rcases List.mem_cons.1 hn with rfl | hn
      · have heq := baseType_of_hasBase hnames ht hbase
        exact .inr (Option.some.inj (heq.symm.trans hnext))
      · exact .inl (List.mem_cons.2 (hmet n hn base hbase).symm)
    exact ih hmet' hn

/-- **Types above a type** are those of its lineage. -/
theorem mem_lineage_iff (hnames : (m.types.map (·.name)).Nodup)
    (hsome : (m.findType? other).isSome) :
    (∃ t ∈ m.lineage name, t.name = other) ↔ m.IsA name other := by
  constructor
  · rintro ⟨t, ht, rfl⟩
    exact isA_of_mem_lineageFrom ht
  · intro h
    -- nothing was met to start with, so what was met in the end is the lineage
    have hmem : other ∈ m.metAlong [] name := by
      induction h with
      | refl =>
        obtain ⟨t, ht⟩ := Option.isSome_iff_exists.1 hsome
        rw [metAlong, lineageFrom_of_some List.not_mem_nil ht, List.map_cons, name_of_findType? ht]
        exact List.mem_cons_self
      | tail _ hbase ih =>
        have hbelow := ih (isSome_findType?_of_hasBase hbase)
        exact mem_metAlong_of_hasBase hnames (List.forall_mem_nil _) hbelow hbase hsome
    exact List.mem_map.1 hmem

/-! ### Keys of one type -/

/-- The model with other keys for a type. -/
def setKeys (m : Model) (type : String) (keys : List String) : Model :=
  { m with types := m.types.map (·.setKeysOf type keys) }

/-- A type from a name up to a base type, the latter left out, has keys. -/
def KeysBelow (m : Model) (name base : String) : Prop :=
  ∃ t ∈ (m.lineage name).takeWhile (·.name ≠ base), t.keys ≠ []

/-- No types lie below a type on the way from itself. -/
theorem not_keysBelow_self : ¬ m.KeysBelow name name := by
  rw [KeysBelow, lineage]
  cases ht : m.findType? name with
  | none =>
    rw [lineageFrom_of_none List.not_mem_nil ht]
    simp
  | some t =>
    rw [lineageFrom_of_some List.not_mem_nil ht,
      List.takeWhile_cons_of_neg (by simpa using name_of_findType? ht)]
    simp

variable {type : String} {keys : List String}

/-- Types are found as before, one of them with its new keys. -/
theorem findType?_setKeys :
    (m.setKeys type keys).findType? name = (m.findType? name).map (·.setKeysOf type keys) := by
  rw [findType?, setKeys, List.find?_map]
  congr 2
  funext t
  rw [Function.comp_apply, ModelType.name_setKeysOf]

theorem findType?_setKeys_of_some {t : ModelType} (ht : m.findType? name = some t) :
    (m.setKeys type keys).findType? name = some (t.setKeysOf type keys) := by
  rw [findType?_setKeys, ht, Option.map_some]

/-- Keys have no part in how the walk goes, so the lineages stay the same but for the keys. -/
theorem lineageFrom_setKeys (met : List String) (name : String) :
    (m.setKeys type keys).lineageFrom met name =
      (m.lineageFrom met name).map (·.setKeysOf type keys) := by
  induction met, name using lineageFrom.induct m with
  | case1 met name hmem => rw [lineageFrom_of_mem hmem, lineageFrom_of_mem hmem, List.map_nil]
  | case2 met name hmem ht =>
    have hnone : (m.setKeys type keys).findType? name = none := by
      rw [findType?_setKeys, ht, Option.map_none]
    rw [lineageFrom_of_none hmem ht, lineageFrom_of_none hmem hnone, List.map_nil]
  | case3 met name hmem t ht hbase =>
    rw [lineageFrom_of_some hmem ht, lineageFrom_of_some hmem (findType?_setKeys_of_some ht),
      ModelType.baseType_setKeysOf, hbase]
    rfl
  | case4 met name hmem t ht base hbase ih =>
    rw [lineageFrom_of_some hmem ht, lineageFrom_of_some hmem (findType?_setKeys_of_some ht),
      ModelType.baseType_setKeysOf, hbase, Option.map_some, Option.getD_some, ih]
    rfl

theorem lineage_setKeys (name : String) :
    (m.setKeys type keys).lineage name = (m.lineage name).map (·.setKeysOf type keys) :=
  lineageFrom_setKeys [] name

/-- Along types that lead to the one whose keys are set, those before it come first. -/
theorem findSome?_map_setKeysOf {types : List ModelType} (h : ∃ t ∈ types, t.name = type)
    (hkeys : keys ≠ []) :
    (types.map (·.setKeysOf type keys)).findSome? ModelType.ownKeys? =
      ((types.takeWhile (·.name ≠ type)).findSome? ModelType.ownKeys?).or (some keys) := by
  induction types with
  | nil => simp at h
  | cons t rest ih =>
    rw [List.map_cons, findSome?_cons_eq_or]
    by_cases hname : t.name = type
    · have hown : (t.setKeysOf type keys).ownKeys? = some keys := by
        rw [ModelType.ownKeys?_of_ne_nil, ModelType.keys_setKeysOf hname]
        rwa [ModelType.keys_setKeysOf hname]
      rw [hown, List.takeWhile_cons_of_neg (by simpa using hname)]
      rfl
    -- the type whose keys are set is one of the others
    · obtain ⟨u, hu, heq⟩ := h
      have hrest := ih ⟨u, (List.mem_cons.1 hu).resolve_left fun h => hname (h ▸ heq), heq⟩
      rw [List.takeWhile_cons_of_pos (by simpa using hname), findSome?_cons_eq_or, hrest,
        ModelType.setKeysOf_of_ne hname, Option.or_assoc]

/-- No keys are found exactly among types without keys. -/
theorem findSome?_ownKeys?_eq_none_iff {types : List ModelType} :
    types.findSome? ModelType.ownKeys? = none ↔ ¬ ∃ t ∈ types, t.keys ≠ [] := by
  simp [List.findSome?_eq_none_iff, ModelType.ownKeys?_eq_none_iff]

/-- **Keys that are set** for a type are the key of the types that are of it, unless these have keys
below it. -/
theorem keyProperties_setKeys (h : ∃ t ∈ m.lineage name, t.name = type) (hkeys : keys ≠ []) :
    (m.KeysBelow name type → (m.setKeys type keys).keyProperties name = m.keyProperties name) ∧
      (¬ m.KeysBelow name type → (m.setKeys type keys).keyProperties name = keys) := by
  have hset : (m.setKeys type keys).keyProperties name =
      ((((m.lineage name).takeWhile (·.name ≠ type)).findSome? ModelType.ownKeys?).or
        (some keys)).getD [] := by
    rw [keyProperties_eq, lineage_setKeys, findSome?_map_setKeysOf h hkeys]
  rw [hset]
  constructor
  · intro hbelow
    have hsome := mt findSome?_ownKeys?_eq_none_iff.1 (not_not.2 hbelow)
    obtain ⟨found, hfound⟩ := Option.ne_none_iff_exists'.1 hsome
    -- what is found below the type is found first in the whole lineage
    have hsplit := List.takeWhile_append_dropWhile (p := (·.name ≠ type)) (l := m.lineage name)
    rw [keyProperties_eq, ← hsplit, List.findSome?_append, hsplit, hfound]
    rfl
  · intro hbelow
    rw [findSome?_ownKeys?_eq_none_iff.2 hbelow]
    rfl

/-- The keys of a type are not those of types that are not of it. -/
theorem keyProperties_setKeys_of_not_isA (h : ¬ m.IsA name type) :
    (m.setKeys type keys).keyProperties name = m.keyProperties name := by
  have hsame : (m.lineage name).map (·.setKeysOf type keys) = m.lineage name := by
    have hother : ∀ t ∈ m.lineage name, t.setKeysOf type keys = t := by
      intro t ht
      have hname : t.name ≠ type := fun heq => h (heq ▸ isA_of_mem_lineageFrom ht)
      exact ModelType.setKeysOf_of_ne hname
    exact (List.map_congr_left hother).trans (List.map_id _)
  rw [keyProperties_eq, lineage_setKeys, hsame, keyProperties_eq]

/-! ### Walks that find keys -/

/-- A walk that looks for keys ends at the type whose keys are set, or before. -/
theorem endsWith_setKeys (h : ∃ t ∈ m.lineage name, t.name = type) (hkeys : keys ≠ []) :
    (m.setKeys type keys).EndsWith ModelType.ownKeys? name
      (some ((m.setKeys type keys).keyProperties name)) := by
  have hfound : (((m.setKeys type keys).lineage name).findSome? ModelType.ownKeys?).isSome := by
    rw [lineage_setKeys, findSome?_map_setKeysOf h hkeys, Option.isSome_or]
    exact Bool.or_true _
  obtain ⟨found, hfound⟩ := Option.isSome_iff_exists.1 hfound
  rw [keyProperties_eq, hfound]
  exact .of_findSome? hfound

end Model

/-! ### What a change has to carry -/

/-- An update with a value for some keys and for nothing else. -/
def Change.updateOf (set : String) (keys : List String) : Change :=
  { entitySet := set, operation := .update, key := keys.map fun k => (k, .scalar .null) }

/-- The update carries just the keys that it was made for. -/
theorem Change.carries_updateOf_iff {set k : String} {keys : List String} :
    (updateOf set keys).carries k ↔ k ∈ keys := by
  have hnames : (updateOf set keys).key.map (·.1) = keys := by
    rw [updateOf, List.map_map]
    exact List.map_id keys
  have hcarries : (updateOf set keys).carries k = (updateOf set keys).key.contains k :=
    Bool.or_false _
  rw [hcarries, Members.contains, Option.isSome_iff_ne_none, ne_eq, Members.get?_eq_none_iff,
    not_not, hnames]

namespace Model

variable {m m' : Model}

theorem keysOfSet_eq {set : String} {s : EntitySet} (hs : m.findEntitySet? set = some s) :
    m.keysOfSet set = m.keyProperties s.elementType := by
  rw [keysOfSet, hs]
  rfl

/-- **No more is accepted** by a model than by another one with the same entity sets exactly if its
keys contain those of the other one. -/
theorem forall_validate_imp_iff (hsets : m'.entitySets = m.entitySets) :
    (∀ c : Change, c.validate m' = .ok () → c.validate m = .ok ()) ↔
      ∀ set s, m.findEntitySet? set = some s →
        m.keyProperties s.elementType ⊆ m'.keyProperties s.elementType := by
  have hfind (set : String) : m'.findEntitySet? set = m.findEntitySet? set := by
    rw [findEntitySet?, hsets, findEntitySet?]
  simp only [Change.validate_eq_ok_iff, hfind]
  constructor
  · intro hall set s hs k hk
    -- the other model accepts an update that carries just the keys it asks for
    have hkeys' := keysOfSet_eq ((hfind set).trans hs)
    have hsome : (m.findEntitySet? set).isSome := by rw [hs]; rfl
    obtain ⟨-, hcarries⟩ := hall (.updateOf set (m'.keyProperties s.elementType))
      ⟨hsome, fun k hk => Change.carries_updateOf_iff.2 (hkeys' ▸ hk)⟩
    exact Change.carries_updateOf_iff.1 (hcarries k ((keysOfSet_eq hs).symm ▸ hk))
  · rintro hall c ⟨hsome, hcarries⟩
    refine ⟨hsome, fun k hk => ?_⟩
    obtain ⟨s, hs⟩ := Option.isSome_iff_exists.1 hsome
    rw [keysOfSet_eq hs] at hk
    rw [keysOfSet_eq ((hfind _).trans hs)] at hcarries
    exact hcarries k (hall _ s hs hk)

end Model

end FacetModel
