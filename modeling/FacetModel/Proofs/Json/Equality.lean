import FacetModel.Json
import Mathlib.Data.List.Forall2

/-!
# Equality of JSON values

`Json.same` compares objects by the first members of their names, so it is equality of what
`Members.get?` shows, in whatever order (`Json.same_object_iff`). It is an equivalence:
`Json.same_refl`, `Json.same_symm` and `Json.same_trans` are inductions over the tree, by
`Tree.induction`.
-/

namespace FacetModel

/-! ### Members of objects -/

namespace Members

variable {σ : Type}

/-- What is found under a name is one of the members. -/
theorem mem_of_get? {ms : Members σ} {name : String} {t : Tree σ} (h : ms.get? name = some t) :
    (name, t) ∈ ms := by
  induction ms with
  | nil => cases h
  | cons m rest ih =>
    obtain ⟨key, value⟩ := m
    rw [get?_cons] at h
    split at h
    case isTrue heq => rw [heq, ← Option.some.inj h]; exact List.mem_cons_self
    case isFalse => exact List.mem_cons_of_mem _ (ih h)

/-- Where each name stands once, every member is found under its name. -/
theorem get?_of_mem {ms : Members σ} (hms : (ms.map (·.1)).Nodup) {name : String} {t : Tree σ}
    (h : (name, t) ∈ ms) : ms.get? name = some t := by
  induction ms with
  | nil => cases h
  | cons m rest ih =>
    obtain ⟨key, value⟩ := m
    obtain ⟨hkey, hrest⟩ := List.nodup_cons.1 hms
    rw [get?_cons]
    rcases List.mem_cons.1 h with heq | hmem
    · cases heq
      rw [if_pos rfl]
    · have hne : name ≠ key := by
        rintro rfl
        exact hkey (List.mem_map.2 ⟨_, hmem, rfl⟩)
      rw [if_neg hne]
      exact ih hrest hmem

theorem contains_iff {ms : Members σ} {name : String} :
    ms.contains name ↔ ∃ t, ms.get? name = some t := by
  rw [contains, Option.isSome_iff_exists]

/-- A name has no value exactly if no member has it. -/
theorem get?_eq_none_iff {ms : Members σ} {name : String} :
    ms.get? name = none ↔ name ∉ ms.map (·.1) := by
  induction ms with
  | nil => exact ⟨fun _ => List.not_mem_nil, fun _ => rfl⟩
  | cons m rest ih =>
    obtain ⟨key, value⟩ := m
    rw [get?_cons, List.map_cons, List.mem_cons, not_or]
    by_cases heq : name = key
    · rw [if_pos heq]
      exact ⟨fun h => (by cases h), fun h => absurd heq h.1⟩
    · rw [if_neg heq, ih]
      exact ⟨fun h => ⟨heq, h⟩, fun h => h.2⟩

/-- Looking up in two lists of members, the first one before the second. -/
theorem get?_append (ms ns : Members σ) (name : String) :
    get? (ms ++ ns) name = (ms.get? name).or (ns.get? name) := by
  rw [get?, List.lookup_append]
  rfl

/-- The value of a name among the members whose names pass a test. -/
theorem get?_filter (p : String → Bool) (ms : Members σ) (name : String) :
    get? (ms.filter fun m => p m.1) name = if p name then ms.get? name else none := by
  induction ms with
  | nil => exact (ite_self none).symm
  | cons m rest ih =>
    obtain ⟨key, value⟩ := m
    rw [List.filter_cons]
    by_cases heq : name = key
    · subst heq
      cases hp : p name with
      | false => rw [if_neg Bool.false_ne_true, ih, hp]; rfl
      | true => rw [if_pos rfl, if_pos rfl, get?_cons, get?_cons, if_pos rfl, if_pos rfl]
    · rw [get?_cons, if_neg heq]
      split
      · rw [get?_cons, if_neg heq, ih]
      · exact ih

/-- What is set all together wins over what stood there. -/
theorem get?_setAll (ms : Members σ) {changes : Members σ} (h : (changes.map (·.1)).Nodup)
    (name : String) : (ms.setAll changes).get? name = (changes.get? name).or (ms.get? name) := by
  induction changes generalizing ms with
  | nil => rfl
  | cons m rest ih =>
    obtain ⟨key, value⟩ := m
    obtain ⟨hkey, hrest⟩ := List.nodup_cons.1 h
    have hstep : ms.setAll ((key, value) :: rest) = (ms.set key value).setAll rest := rfl
    rw [hstep, ih _ hrest, get?_set, get?_cons]
    by_cases heq : name = key
    · rw [if_pos heq, if_pos heq, heq, get?_eq_none_iff.2 hkey]
      rfl
    · rw [if_neg heq, if_neg heq]

end Members

/-! ### Induction over documents -/

/-- Induction over a document, where all items and all members may be assumed. -/
theorem Tree.induction {σ : Type} {motive : Tree σ → Prop}
    (scalar : ∀ value, motive (.scalar value))
    (list : ∀ items, (∀ t ∈ items, motive t) → motive (.list items))
    (object : ∀ members, (∀ m ∈ members, motive m.2) → motive (.object members))
    (t : Tree σ) : motive t := by
  cases t with
  | scalar value => exact scalar value
  | list items => exact list items fun t ht => Tree.induction scalar list object t
  | object members => exact object members fun m hm => Tree.induction scalar list object m.2
termination_by sizeOf t
decreasing_by
  · have := List.sizeOf_lt_of_mem ht
    simp only [Tree.list.sizeOf_spec]
    omega
  · have := List.sizeOf_lt_of_mem hm
    obtain ⟨name, value⟩ := m
    simp only [Tree.object.sizeOf_spec, Prod.mk.sizeOf_spec] at *
    omega

namespace Json

/-! ### Equality in parts -/

/-- Lists are equal item by item, and so have the same length. -/
theorem sameItems_iff (xs ys : List Json) :
    sameItems xs ys ↔ List.Forall₂ (fun x y => same x y = true) xs ys := by
  induction xs generalizing ys with
  | nil => cases ys <;> simp [sameItems]
  | cons x xs ih => cases ys <;> simp [sameItems, ih]

/-- The names that were not seen before have equal values on the other side. -/
theorem sameMembers_iff (ms ns : List (String × Json)) (seen : List String) :
    sameMembers ms ns seen ↔ ∀ name ∉ seen, ∀ x, Members.get? ms name = some x →
      ∃ y, Members.get? ns name = some y ∧ same x y := by
  induction ms generalizing seen with
  | nil =>
    refine ⟨fun _ name _ x hx => ?_, fun _ => rfl⟩
    cases hx
  | cons m rest ih =>
    obtain ⟨key, value⟩ := m
    -- the name of the first member counts as seen in the rest
    rw [sameMembers, Bool.and_eq_true, Bool.or_eq_true, ih, List.contains_iff_mem]
    constructor
    · rintro ⟨hkey, hrest⟩ name hname x hx
      rw [Members.get?_cons] at hx
      split at hx
      case isTrue heq =>
        cases hx
        rw [heq] at hname ⊢
        cases hget : Members.get? ns key with
        | none =>
          rw [hget] at hkey
          cases hkey.resolve_left hname
        | some y =>
          rw [hget] at hkey
          exact ⟨y, rfl, hkey.resolve_left hname⟩
      case isFalse hne => exact hrest name (by simp [hne, hname]) x hx
    · intro h
      refine ⟨?_, fun name hname x hx => ?_⟩
      · by_cases hkey : key ∈ seen
        · exact .inl hkey
        · obtain ⟨y, hy, hsame⟩ := h key hkey value (by rw [Members.get?_cons, if_pos rfl])
          rw [hy]
          exact .inr hsame
      · obtain ⟨hne, hseen⟩ := not_or.1 (List.mem_cons.not.1 hname)
        exact h name hseen x (by rw [Members.get?_cons, if_neg hne, hx])

theorem same_scalar_iff {a : Scalar} {j : Json} :
    same (.scalar a) j ↔ ∃ b, j = .scalar b ∧ a.same b := by
  cases j <;> simp [same]

theorem same_list_iff {xs : List Json} {j : Json} :
    same (.list xs) j ↔ ∃ ys, j = .list ys ∧ List.Forall₂ (fun x y => same x y = true) xs ys := by
  cases j <;> simp [same, sameItems_iff]

/-- Objects are equal exactly if the values of one have equal ones under their names in the other,
which has no further names. -/
theorem same_object_iff {ms : List (String × Json)} {j : Json} :
    same (.object ms) j ↔ ∃ ns, j = .object ns ∧
      (∀ name x, Members.get? ms name = some x → ∃ y, Members.get? ns name = some y ∧ same x y) ∧
      ∀ name y, Members.get? ns name = some y → ∃ x, Members.get? ms name = some x := by
  constructor
  · intro h
    obtain ⟨ns, rfl⟩ : ∃ ns, j = .object ns := by cases j <;> first | cases h | exact ⟨_, rfl⟩
    rw [same, Bool.and_eq_true, sameMembers_iff, List.all_eq_true] at h
    refine ⟨ns, rfl, fun name => h.1 name List.not_mem_nil, fun name y hy => ?_⟩
    exact Members.contains_iff.1 (h.2 _ (Members.mem_of_get? hy))
  · rintro ⟨ns, rfl, hvalues, hnames⟩
    rw [same, Bool.and_eq_true, sameMembers_iff, List.all_eq_true]
    refine ⟨fun name _ => hvalues name, fun n hn => Members.contains_iff.2 ?_⟩
    cases hget : Members.get? ns n.1 with
    | none => exact absurd (List.mem_map.2 ⟨n, hn, rfl⟩) (Members.get?_eq_none_iff.1 hget)
    | some y => exact hnames n.1 y hget

/-! ### An equivalence -/

theorem Scalar.same_refl (a : Scalar) : a.same a := by
  cases a with
  | null => rfl
  | bool value => exact beq_self_eq_true value
  | num value => exact Number.same_refl value
  | str value => exact beq_self_eq_true value

theorem Scalar.same_comm (a b : Scalar) : a.same b = b.same a := by
  cases a <;> cases b <;> simp [Scalar.same, Bool.beq_comm, Number.same_comm]

/-- Only scalars of one kind are equal, so three equal ones are of one kind. -/
theorem Scalar.same_trans {a b c : Scalar} (hab : a.same b) (hbc : b.same c) : a.same c := by
  cases a <;> cases b <;> simp only [Scalar.same, Bool.false_eq_true] at hab <;>
    cases c <;> simp only [Scalar.same, Bool.false_eq_true] at hbc
  case null.null.null => rfl
  case bool.bool.bool => rw [eq_of_beq hab]; exact hbc
  case num.num.num => exact Number.same_trans hab hbc
  case str.str.str => rw [eq_of_beq hab]; exact hbc

/-- Every value equals itself, also an object that repeats a name: only the first member of a name
is looked at. -/
theorem same_refl (a : Json) : a.same a := by
  induction a using Tree.induction with
  | scalar value => exact Scalar.same_refl value
  | list items ih =>
    rw [same, sameItems_iff, List.forall₂_same]
    exact ih
  | object members ih =>
    refine same_object_iff.2 ⟨members, rfl, fun name x hx => ?_, fun name y hy => ⟨y, hy⟩⟩
    exact ⟨x, hx, ih _ (Members.mem_of_get? hx)⟩

/-- Equality of values is symmetric, by induction on the first value. -/
theorem same_symm {a b : Json} (h : a.same b) : b.same a := by
  induction a using Tree.induction generalizing b with
  | scalar value =>
    obtain ⟨other, rfl, hother⟩ := same_scalar_iff.1 h
    rw [same, Scalar.same_comm]
    exact hother
  | list items ih =>
    obtain ⟨others, rfl, hitems⟩ := same_list_iff.1 h
    rw [same, sameItems_iff]
    -- the items are paired, and the induction on the pairs needs the hypothesis for their first
    -- ones
    clear h
    induction hitems with
    | nil => exact .nil
    | cons hxy _ ihrest =>
      refine .cons (ih _ List.mem_cons_self hxy) (ihrest fun t ht => ?_)
      exact ih t (List.mem_cons_of_mem _ ht)
  | object members ih =>
    obtain ⟨others, rfl, hvalues, hnames⟩ := same_object_iff.1 h
    refine same_object_iff.2 ⟨members, rfl, fun name y hy => ?_, fun name x hx => ?_⟩
    · -- the induction hypothesis is about the values on the first side, so the name is looked up
      -- there and back
      obtain ⟨x, hx⟩ := hnames name y hy
      obtain ⟨y', hy', hxy⟩ := hvalues name x hx
      rw [hy] at hy'
      cases hy'
      exact ⟨x, hx, ih _ (Members.mem_of_get? hx) hxy⟩
    · obtain ⟨y, hy, -⟩ := hvalues name x hx
      exact ⟨y, hy⟩

/-- Equality of values is transitive, by induction on the first value. -/
theorem same_trans {a b c : Json} (hab : a.same b) (hbc : b.same c) : a.same c := by
  induction a using Tree.induction generalizing b c with
  | scalar value =>
    obtain ⟨other, rfl, hother⟩ := same_scalar_iff.1 hab
    obtain ⟨third, rfl, hthird⟩ := same_scalar_iff.1 hbc
    exact same_scalar_iff.2 ⟨third, rfl, Scalar.same_trans hother hthird⟩
  | list items ih =>
    obtain ⟨others, rfl, hothers⟩ := same_list_iff.1 hab
    obtain ⟨thirds, rfl, hthirds⟩ := same_list_iff.1 hbc
    refine same_list_iff.2 ⟨thirds, rfl, ?_⟩
    clear hab hbc
    induction hothers generalizing thirds with
    | nil =>
      cases hthirds
      exact .nil
    | cons hxy _ ihrest =>
      obtain _ | ⟨hyz, hrest⟩ := hthirds
      refine .cons (ih _ List.mem_cons_self hxy hyz) (ihrest (fun t ht => ?_) _ hrest)
      exact ih t (List.mem_cons_of_mem _ ht)
  | object members ih =>
    obtain ⟨others, rfl, hothers, hback⟩ := same_object_iff.1 hab
    obtain ⟨thirds, rfl, hthirds, hback'⟩ := same_object_iff.1 hbc
    refine same_object_iff.2 ⟨thirds, rfl, fun name x hx => ?_, fun name z hz => ?_⟩
    · obtain ⟨y, hy, hxy⟩ := hothers name x hx
      obtain ⟨z, hz, hyz⟩ := hthirds name y hy
      exact ⟨z, hz, ih _ (Members.mem_of_get? hx) hxy hyz⟩
    · obtain ⟨y, hy⟩ := hback' name z hz
      -- a name of the third object is one of the second, and so of the first
      exact hback name y hy

end Json

end FacetModel
