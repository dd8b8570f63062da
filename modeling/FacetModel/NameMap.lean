/-!
# Finite maps keyed by names

`NameMap α` is a finite map from names to values, kept in increasing order of its names. The order
is part of the type, so two maps with the same values under the same names are the same map
(`NameMap.ext_get?`), in whatever order they were filled, and listing a map is listing it by name.

Names are compared character by character, which is also the order of their encoded bytes.
-/

namespace FacetModel

/-- A finite map from names to values, in increasing order of the names. -/
structure NameMap (α : Type) where
  /-- The names with their values, by name. -/
  entries : List (String × α)
  /-- Each name stands before all later ones. -/
  sorted : entries.Pairwise fun a b => a.1 < b.1
deriving DecidableEq

namespace NameMap

variable {α β : Type}

/-! ### Construction and lookup -/

/-- The map without names. -/
def empty : NameMap α := ⟨[], .nil⟩

instance : Inhabited (NameMap α) := ⟨empty⟩

instance [Repr α] : Repr (NameMap α) := ⟨fun m => reprPrec m.entries⟩

/-- The value under a name. -/
def get? (m : NameMap α) (name : String) : Option α := m.entries.lookup name

/-- Whether the map has a value under a name. -/
def contains (m : NameMap α) (name : String) : Bool := (m.get? name).isSome

/-- The names, in increasing order. -/
def names (m : NameMap α) : List String := m.entries.map (·.1)

/-- The values, in the order of their names. -/
def values (m : NameMap α) : List α := m.entries.map (·.2)

/-- How many names the map has. -/
def size (m : NameMap α) : Nat := m.entries.length

/-- Puts a value at the place of its name, over the value that stood there. -/
def insertEntry (name : String) (value : α) : List (String × α) → List (String × α)
  | [] => [(name, value)]
  | (other, old) :: rest =>
    if name < other then (name, value) :: (other, old) :: rest
    else if name = other then (name, value) :: rest
    else (other, old) :: insertEntry name value rest

theorem mem_insertEntry {name : String} {value : α} {e : String × α} {l : List (String × α)}
    (h : e ∈ insertEntry name value l) : e = (name, value) ∨ e ∈ l := by
  induction l with
  | nil => simpa [insertEntry] using h
  | cons a rest ih =>
    obtain ⟨other, old⟩ := a
    simp only [insertEntry] at h
    split at h
    · simpa using h
    · split at h
      · rcases List.mem_cons.1 h with h | h
        · exact .inl h
        · exact .inr (List.mem_cons_of_mem _ h)
      · rcases List.mem_cons.1 h with h | h
        · exact .inr (h ▸ List.mem_cons_self)
        · exact (ih h).imp_right (List.mem_cons_of_mem _)

theorem pairwise_insertEntry (name : String) (value : α) {l : List (String × α)}
    (h : l.Pairwise fun a b => a.1 < b.1) :
    (insertEntry name value l).Pairwise fun a b => a.1 < b.1 := by
  induction l with
  | nil => simp [insertEntry]
  | cons a rest ih =>
    obtain ⟨other, old⟩ := a
    obtain ⟨hhead, htail⟩ := List.pairwise_cons.1 h
    simp only [insertEntry]
    split
    case isTrue hlt =>
      refine List.pairwise_cons.2 ⟨fun e he => ?_, h⟩
      rcases List.mem_cons.1 he with rfl | he
      · exact hlt
      · exact String.lt_trans hlt (hhead e he)
    case isFalse hlt =>
      split
      case isTrue heq => exact List.pairwise_cons.2 ⟨fun e he => heq ▸ hhead e he, htail⟩
      case isFalse hne =>
        refine List.pairwise_cons.2 ⟨fun e he => ?_, ih htail⟩
        rcases mem_insertEntry he with rfl | he
        · rcases Std.lt_trichotomy other name with h | h | h
          · exact h
          · exact absurd h.symm hne
          · exact absurd h hlt
        · exact hhead e he

/-- The map with a value under a name, in place of the one it had. -/
def insert (m : NameMap α) (name : String) (value : α) : NameMap α :=
  ⟨insertEntry name value m.entries, pairwise_insertEntry name value m.sorted⟩

/-- The map of a list of names with values, where the last value of a name counts. -/
def ofList (l : List (String × α)) : NameMap α :=
  l.foldl (fun m e => m.insert e.1 e.2) empty

/-- The same names, each value changed by `f`. -/
def map (f : α → β) (m : NameMap α) : NameMap β :=
  ⟨m.entries.map fun e => (e.1, f e.2), by
    rw [List.pairwise_map]
    exact m.sorted⟩

/-- The names and values that pass a test. -/
def filter (p : String → α → Bool) (m : NameMap α) : NameMap α :=
  ⟨m.entries.filter fun e => p e.1 e.2, m.sorted.filter _⟩

/-- The map with the value under one name changed by `f`; a name without value stays without. -/
def modify (m : NameMap α) (name : String) (f : α → α) : NameMap α :=
  match m.get? name with
  | some value => m.insert name (f value)
  | none => m

/-! ### The lookup view -/

/-- Looking up in a list that starts with an entry, as a test on its name. -/
theorem lookup_cons_ite (name key : String) (value : α) (rest : List (String × α)) :
    List.lookup name ((key, value) :: rest)
      = if name = key then some value else rest.lookup name := by
  rw [List.lookup_cons]
  by_cases h : name = key
  · simp [h]
  · simp [h, beq_eq_false_iff_ne.2 h]

theorem lookup_insertEntry (name other : String) (value : α) (l : List (String × α)) :
    (insertEntry name value l).lookup other
      = if other = name then some value else l.lookup other := by
  induction l with
  | nil => simp [insertEntry, lookup_cons_ite]
  | cons a rest ih =>
    obtain ⟨key, old⟩ := a
    simp only [insertEntry]
    split
    case isTrue => simp only [lookup_cons_ite]
    case isFalse =>
      split
      case isTrue heq => subst heq; simp only [lookup_cons_ite]; split <;> rfl
      case isFalse hne =>
        simp only [lookup_cons_ite, ih]
        by_cases hk : other = key
        · subst hk; simp [Ne.symm hne]
        · simp [hk]

@[simp] theorem get?_empty (name : String) : (empty : NameMap α).get? name = none := rfl

/-- Looking up in a filled map: the new value under its name, the old ones elsewhere. -/
theorem get?_insert (m : NameMap α) (name other : String) (value : α) :
    (m.insert name value).get? other = if other = name then some value else m.get? other :=
  lookup_insertEntry name other value m.entries

@[simp] theorem get?_insert_self (m : NameMap α) (name : String) (value : α) :
    (m.insert name value).get? name = some value := by simp [get?_insert]

theorem get?_insert_of_ne (m : NameMap α) {name other : String} (value : α) (h : other ≠ name) :
    (m.insert name value).get? other = m.get? other := by simp [get?_insert, h]

theorem get?_map (f : α → β) (m : NameMap α) (name : String) :
    (m.map f).get? name = (m.get? name).map f := by
  obtain ⟨l, h⟩ := m
  simp only [get?, map]
  clear h
  induction l with
  | nil => rfl
  | cons a rest ih =>
    obtain ⟨key, old⟩ := a
    simp only [List.map_cons, List.lookup_cons, ih]
    cases name == key <;> rfl

/-- A name has its value exactly when the two stand together in the list of entries. -/
theorem get?_eq_some_iff (m : NameMap α) (name : String) (value : α) :
    m.get? name = some value ↔ (name, value) ∈ m.entries := by
  obtain ⟨l, h⟩ := m
  simp only [get?]
  induction l with
  | nil => simp
  | cons a rest ih =>
    obtain ⟨key, old⟩ := a
    obtain ⟨hhead, htail⟩ := List.pairwise_cons.1 h
    rw [List.lookup_cons]
    by_cases hk : name = key
    · subst hk
      have : ∀ v, (name, v) ∉ rest := fun v hv => String.lt_irrefl name (hhead _ hv)
      simp [this, eq_comm]
    · have : (name == key) = false := by simpa using hk
      simp [this, hk, ih htail]

theorem get?_filter (p : String → α → Bool) (m : NameMap α) (name : String) :
    (m.filter p).get? name = (m.get? name).filter (p name) := by
  refine Option.ext fun value => ?_
  rw [Option.filter_eq_some_iff, get?_eq_some_iff, get?_eq_some_iff]
  exact List.mem_filter

/-- No name is listed twice. -/
theorem nodup_names (m : NameMap α) : m.names.Nodup := by
  rw [names, List.Nodup, List.pairwise_map]
  refine m.sorted.imp fun {a b} h => ?_
  intro heq
  rw [heq] at h
  exact String.lt_irrefl _ h

theorem mem_names {m : NameMap α} {name : String} {value : α} (h : m.get? name = some value) :
    name ∈ m.names :=
  List.mem_map.2 ⟨_, (m.get?_eq_some_iff name value).1 h, rfl⟩

theorem mem_names_iff (m : NameMap α) (name : String) :
    name ∈ m.names ↔ ∃ value, m.get? name = some value := by
  constructor
  · intro h
    obtain ⟨⟨key, value⟩, he, rfl⟩ := List.mem_map.1 h
    exact ⟨value, (m.get?_eq_some_iff _ _).2 he⟩
  · exact fun ⟨_, h⟩ => mem_names h

theorem lookup_eq_none_of_lt {name : String} {l : List (String × α)}
    (h : ∀ e ∈ l, name < e.1) : l.lookup name = none := by
  induction l with
  | nil => rfl
  | cons a rest ih =>
    obtain ⟨key, old⟩ := a
    have hne : name ≠ key := fun heq => String.lt_irrefl _ (heq ▸ h _ List.mem_cons_self)
    rw [lookup_cons_ite, if_neg hne, ih fun e he => h e (List.mem_cons_of_mem _ he)]

theorem eq_of_lookup_eq {l₁ l₂ : List (String × α)}
    (h₁ : l₁.Pairwise fun a b => a.1 < b.1) (h₂ : l₂.Pairwise fun a b => a.1 < b.1)
    (h : ∀ name, l₁.lookup name = l₂.lookup name) : l₁ = l₂ := by
  induction l₁ generalizing l₂ with
  | nil =>
    cases l₂ with
    | nil => rfl
    | cons b r₂ => obtain ⟨k₂, v₂⟩ := b; have := h k₂; simp at this
  | cons a r₁ ih =>
    obtain ⟨k₁, v₁⟩ := a
    cases l₂ with
    | nil => have := h k₁; simp at this
    | cons b r₂ =>
      obtain ⟨k₂, v₂⟩ := b
      obtain ⟨hh₁, ht₁⟩ := List.pairwise_cons.1 h₁
      obtain ⟨hh₂, ht₂⟩ := List.pairwise_cons.1 h₂
      have hk : k₁ = k₂ := by
        rcases Std.lt_trichotomy k₁ k₂ with hlt | heq | hgt
        · have hnone : List.lookup k₁ ((k₂, v₂) :: r₂) = none := lookup_eq_none_of_lt fun e he => by
            rcases List.mem_cons.1 he with rfl | he
            · exact hlt
            · exact String.lt_trans hlt (hh₂ e he)
          have := h k₁
          rw [hnone, lookup_cons_ite, if_pos rfl] at this
          cases this
        · exact heq
        · have hnone : List.lookup k₂ ((k₁, v₁) :: r₁) = none := lookup_eq_none_of_lt fun e he => by
            rcases List.mem_cons.1 he with rfl | he
            · exact hgt
            · exact String.lt_trans hgt (hh₁ e he)
          have := h k₂
          rw [hnone, lookup_cons_ite, if_pos rfl] at this
          cases this
      subst hk
      have hv : v₁ = v₂ := by
        have := h k₁
        simpa [lookup_cons_ite] using this
      subst hv
      congr 1
      refine ih ht₁ ht₂ fun name => ?_
      by_cases hn : name = k₁
      · subst hn
        rw [lookup_eq_none_of_lt hh₁, lookup_eq_none_of_lt hh₂]
      · have := h name
        rwa [lookup_cons_ite, lookup_cons_ite, if_neg hn, if_neg hn] at this

/-- Maps with the same value under every name are the same map. -/
@[ext] theorem ext_get? {m n : NameMap α} (h : ∀ name, m.get? name = n.get? name) : m = n := by
  obtain ⟨l₁, h₁⟩ := m
  obtain ⟨l₂, h₂⟩ := n
  have : l₁ = l₂ := eq_of_lookup_eq h₁ h₂ h
  subst this
  rfl

end NameMap

end FacetModel
