/-!
# Counting what remains

A search that never looks twice at the same element of a finite list ends, because fewer and fewer
elements remain. `length_filter_lt` is the step of such arguments.
-/

namespace FacetModel

variable {α : Type}

/-- Fewer elements pass a stronger test. -/
theorem length_filter_le {l : List α} {p q : α → Bool} (h : ∀ a ∈ l, p a → q a) :
    (l.filter p).length ≤ (l.filter q).length := by
  rw [← List.countP_eq_length_filter, ← List.countP_eq_length_filter]
  exact List.countP_mono_left h

/-- Strictly fewer elements pass a stronger test that one of them fails. -/
theorem length_filter_lt {l : List α} {p q : α → Bool} {a : α} (h : ∀ a ∈ l, p a → q a)
    (ha : a ∈ l) (hq : q a = true) (hp : p a = false) :
    (l.filter p).length < (l.filter q).length := by
  obtain ⟨before, after, rfl⟩ := List.append_of_mem ha
  have hbefore := length_filter_le (l := before) (p := p) (q := q)
    fun b hb => h b (List.mem_append_left _ hb)
  have hafter := length_filter_le (l := after) (p := p) (q := q)
    fun b hb => h b (List.mem_append_right _ (List.mem_cons_of_mem _ hb))
  simp only [List.filter_append, List.filter_cons, hp, hq, List.length_append, ↓reduceIte,
    Bool.false_eq_true, List.length_cons]
  omega

/-- A sublist of a list without repetitions and the elements outside of it make up the list. -/
theorem length_filter_add_sublist [DecidableEq α] {l s : List α} (hs : s.Sublist l)
    (hl : l.Nodup) : (l.filter (· ∉ s)).length + s.length = l.length := by
  induction hs with
  | slnil => rfl
  | @cons s l a hs ih =>
    obtain ⟨ha, hl⟩ := List.nodup_cons.1 hl
    have : a ∉ s := fun h => ha (hs.subset h)
    simp only [List.filter_cons, this, not_false_eq_true, decide_true, ↓reduceIte,
      List.length_cons, ← ih hl]
    omega
  | @cons_cons s l a hs ih =>
    obtain ⟨ha, hl⟩ := List.nodup_cons.1 hl
    have : l.filter (· ∉ a :: s) = l.filter (· ∉ s) :=
      List.filter_congr fun b hb => by
        have : b ≠ a := fun h => ha (h ▸ hb)
        simp [this]
    simp only [List.filter_cons, List.mem_cons_self, not_true_eq_false, decide_false,
      Bool.false_eq_true, ↓reduceIte, this, List.length_cons, ← ih hl]
    omega

end FacetModel
