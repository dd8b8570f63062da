/-!
# Documents as trees

`Tree σ` is a document of lists and objects over the scalars `σ` of some notation. The members of
an object keep the order in which they are written. `Members.get?` finds the first member of a
name, and `Members.set` replaces it where it stands or appends a new one, so a name that is set
again keeps its place.
-/

namespace FacetModel

/-- A document of lists and objects over scalars. -/
inductive Tree (σ : Type) where
  | scalar (value : σ)
  | list (items : List (Tree σ))
  | object (members : List (String × Tree σ))
deriving Inhabited

/-- The members of an object, in the order in which they are written. -/
abbrev Members (σ : Type) := List (String × Tree σ)

namespace Members

variable {σ : Type}

/-- The first member of a name. -/
def get? (ms : Members σ) (name : String) : Option (Tree σ) := ms.lookup name

/-- Whether there is a member of a name. -/
def contains (ms : Members σ) (name : String) : Bool := (ms.get? name).isSome

/-- Puts a value where the name stands, or at the end. -/
def set (ms : Members σ) (name : String) (value : Tree σ) : Members σ :=
  match ms with
  | [] => [(name, value)]
  | (key, old) :: rest =>
    if name = key then (key, value) :: rest else (key, old) :: set rest name value

/-- Sets one member after the other. -/
def setAll (ms : Members σ) (changes : Members σ) : Members σ :=
  changes.foldl (fun ms m => ms.set m.1 m.2) ms

theorem get?_cons (key name : String) (value : Tree σ) (rest : Members σ) :
    get? ((key, value) :: rest) name = if name = key then some value else rest.get? name := by
  rw [get?, List.lookup_cons]
  by_cases h : name = key
  · simp [h]
  · simp [h, beq_eq_false_iff_ne.2 h, get?]

theorem get?_set (ms : Members σ) (name other : String) (value : Tree σ) :
    (ms.set name value).get? other = if other = name then some value else ms.get? other := by
  induction ms with
  | nil => rw [set, get?_cons]
  | cons m rest ih =>
    obtain ⟨key, old⟩ := m
    simp only [set]
    split
    case isTrue heq => subst heq; simp only [get?_cons]; split <;> rfl
    case isFalse hne =>
      simp only [get?_cons, ih]
      by_cases hk : other = key
      · subst hk; simp [Ne.symm hne]
      · simp [hk]

end Members

namespace Tree

variable {σ : Type}

mutual

/-- The document in which a member that is written twice has its last value at its first
place. -/
def merged : Tree σ → Tree σ
  | .scalar value => .scalar value
  | .list items => .list (mergedItems items)
  | .object members => .object (mergedMembers [] members)

/-- `merged` on each item of a list. -/
def mergedItems : List (Tree σ) → List (Tree σ)
  | [] => []
  | t :: rest => merged t :: mergedItems rest

/-- `merged` on each member of an object, set one after the other. -/
def mergedMembers (done : Members σ) : List (String × Tree σ) → Members σ
  | [] => done
  | (name, t) :: rest => mergedMembers (done.set name (merged t)) rest

end

mutual

/-- The document with each scalar changed by `f`, if `f` gives a scalar for all of them. -/
def mapScalars? {τ : Type} (f : σ → Option τ) : Tree σ → Option (Tree τ)
  | .scalar value => (f value).map .scalar
  | .list items => (mapItems? f items).map .list
  | .object members => (mapMembers? f members).map .object

/-- `mapScalars?` on each item of a list. -/
def mapItems? {τ : Type} (f : σ → Option τ) : List (Tree σ) → Option (List (Tree τ))
  | [] => some []
  | t :: rest => do return (← mapScalars? f t) :: (← mapItems? f rest)

/-- `mapScalars?` on each member of an object. -/
def mapMembers? {τ : Type} (f : σ → Option τ) :
    List (String × Tree σ) → Option (List (String × Tree τ))
  | [] => some []
  | (name, t) :: rest => do return (name, ← mapScalars? f t) :: (← mapMembers? f rest)

end

end Tree

end FacetModel
