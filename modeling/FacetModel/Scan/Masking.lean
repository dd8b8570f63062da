/-!
# Masking

Of several declarations with one name the first one counts and masks the others.
`firstByName` keeps, in order, the first element of each name.
-/

namespace FacetModel

variable {α β : Type}

/-- The first element of each name that is not among the names seen before. -/
def firstByNameFrom (name : α → String) (seen : List String) : List α → List α
  | [] => []
  | a :: rest =>
    if name a ∈ seen then firstByNameFrom name seen rest
    else a :: firstByNameFrom name (name a :: seen) rest

/-- The first element of each name. -/
def firstByName (name : α → String) (l : List α) : List α := firstByNameFrom name [] l

theorem firstByNameFrom_sublist (name : α → String) (seen : List String) (l : List α) :
    (firstByNameFrom name seen l).Sublist l := by
  induction l generalizing seen with
  | nil => exact .slnil
  | cons a rest ih =>
    simp only [firstByNameFrom]
    split
    · exact (ih seen).cons a
    · exact (ih _).cons_cons a

theorem not_mem_of_mem_firstByNameFrom {name : α → String} {seen : List String} {l : List α} {a : α}
    (h : a ∈ firstByNameFrom name seen l) : name a ∉ seen := by
  induction l generalizing seen with
  | nil => simp [firstByNameFrom] at h
  | cons b rest ih =>
    simp only [firstByNameFrom] at h
    split at h
    case isTrue => exact ih h
    case isFalse hb =>
      rcases List.mem_cons.1 h with rfl | h
      · exact hb
      · exact fun hs => ih h (List.mem_cons_of_mem _ hs)

/-- No name is kept twice. -/
theorem nodup_firstByNameFrom (name : α → String) (seen : List String) (l : List α) :
    ((firstByNameFrom name seen l).map name).Nodup := by
  induction l generalizing seen with
  | nil => simp [firstByNameFrom]
  | cons a rest ih =>
    simp only [firstByNameFrom]
    split
    · exact ih seen
    · refine List.nodup_cons.2 ⟨fun h => ?_, ih _⟩
      obtain ⟨b, hb, heq⟩ := List.mem_map.1 h
      exact not_mem_of_mem_firstByNameFrom hb (heq ▸ List.mem_cons_self)

/-- What is kept is the first element of its name. -/
theorem mem_firstByNameFrom_iff {name : α → String} {seen : List String} {l : List α} {a : α} :
    a ∈ firstByNameFrom name seen l ↔ name a ∉ seen ∧ l.find? (name · == name a) = some a := by
  induction l generalizing seen with
  | nil => simp [firstByNameFrom]
  | cons b rest ih =>
    rw [firstByNameFrom, List.find?_cons]
    split
    case isTrue hseen =>
      rw [ih]
      refine and_congr_right fun ha => ?_
      have hne : (name b == name a) = false := beq_false_of_ne fun heq => ha (heq ▸ hseen)
      rw [hne]
    case isFalse hseen =>
      rw [List.mem_cons, ih, List.mem_cons, not_or]
      by_cases heq : name b = name a
      · rw [heq, beq_self_eq_true]
        rw [heq] at hseen
        simp [hseen, eq_comm]
      · have hne : a ≠ b := fun hab => heq (congrArg name hab.symm)
        rw [beq_false_of_ne heq]
        simp [hne, Ne.symm heq]

/-- Elements that pass a test are kept in the order in which their names come first among them. -/
theorem pairwise_findIdx_firstByNameFrom (name : α → String) (p : α → Bool) (seen : List String)
    (l : List α) :
    (firstByNameFrom name seen (l.filter p)).Pairwise fun a b =>
      l.findIdx (fun c => p c && name c == name a) <
        l.findIdx (fun c => p c && name c == name b) := by
  induction l generalizing seen with
  | nil => exact .nil
  | cons c rest ih =>
    -- the names of all that is kept of the rest come first behind an element that masks none
    have hshift : ∀ {seen : List String},
        (∀ a ∈ firstByNameFrom name seen (rest.filter p), (p c && name c == name a) = false) →
        (firstByNameFrom name seen (rest.filter p)).Pairwise fun a b =>
          (c :: rest).findIdx (fun c => p c && name c == name a) <
            (c :: rest).findIdx (fun c => p c && name c == name b) := by
      intro seen hother
      refine (ih seen).imp_of_mem fun ha hb hlt => ?_
      rw [List.findIdx_cons, List.findIdx_cons, hother _ ha, hother _ hb]
      exact Nat.succ_lt_succ hlt
    rw [List.filter_cons]
    split
    case isFalse hp => exact hshift fun a _ => by rw [Bool.eq_false_iff.2 hp, Bool.false_and]
    case isTrue hp =>
      have hother : ∀ {seen : List String}, name c ∈ seen →
          ∀ a ∈ firstByNameFrom name seen (rest.filter p), (p c && name c == name a) = false := by
        intro seen hseen a ha
        rw [hp, Bool.true_and]
        exact beq_false_of_ne fun heq => not_mem_of_mem_firstByNameFrom ha (heq ▸ hseen)
      rw [firstByNameFrom]
      split
      case isTrue hseen => exact hshift (hother hseen)
      case isFalse =>
        have hbehind : ∀ a ∈ firstByNameFrom name (name c :: seen) (rest.filter p),
            (p c && name c == name a) = false := hother List.mem_cons_self
        refine List.pairwise_cons.2 ⟨fun b hb => ?_, hshift hbehind⟩
        rw [List.findIdx_cons, List.findIdx_cons, hbehind b hb, hp]
        simp

/-! ### Names seen before -/

/-- The names that are kept are those that were not seen before. -/
theorem mem_map_firstByNameFrom (name : α → String) (seen : List String) (l : List α)
    (n : String) :
    n ∈ (firstByNameFrom name seen l).map name ↔ n ∈ l.map name ∧ n ∉ seen := by
  induction l generalizing seen with
  | nil => simp [firstByNameFrom]
  | cons a rest ih =>
    rw [firstByNameFrom]
    split
    case isTrue hseen =>
      rw [ih, List.map_cons, List.mem_cons]
      exact and_congr_left fun hn => (or_iff_right fun heq : n = name a => hn (heq ▸ hseen)).symm
    case isFalse hseen =>
      rw [List.map_cons, List.mem_cons, ih, List.map_cons, List.mem_cons]
      by_cases heq : n = name a
      · simp [heq, hseen]
      · simp [heq]

/-- What counts of the names seen before is which these are. -/
theorem firstByNameFrom_congr (name : α → String) {seen seen' : List String}
    (h : ∀ n, n ∈ seen ↔ n ∈ seen') (l : List α) :
    firstByNameFrom name seen l = firstByNameFrom name seen' l := by
  induction l generalizing seen seen' with
  | nil => rfl
  | cons a rest ih =>
    have hcons : ∀ n, n ∈ name a :: seen ↔ n ∈ name a :: seen' := fun n => by
      rw [List.mem_cons, List.mem_cons, h n]
    simp only [firstByNameFrom, h (name a), ih h, ih hcons]

/-- All names of a first part, also the masked ones, are seen before the second part. -/
theorem firstByNameFrom_append (name : α → String) (seen : List String) (l more : List α) :
    firstByNameFrom name seen (l ++ more) =
      firstByNameFrom name seen l ++ firstByNameFrom name (l.map name ++ seen) more := by
  induction l generalizing seen with
  | nil => rfl
  | cons a rest ih =>
    rw [List.cons_append, firstByNameFrom, firstByNameFrom]
    split
    case isTrue ha =>
      have hseen : ∀ n, n ∈ rest.map name ++ seen ↔ n ∈ (a :: rest).map name ++ seen := fun n => by
        rw [List.map_cons, List.cons_append, List.mem_cons]
        exact ⟨.inr, fun hn => hn.elim (· ▸ List.mem_append_right _ ha) id⟩
      rw [ih, firstByNameFrom_congr name hseen more]
    case isFalse =>
      have hseen : ∀ n, n ∈ rest.map name ++ name a :: seen ↔ n ∈ (a :: rest).map name ++ seen :=
        fun n => List.perm_middle.mem_iff
      rw [ih, List.cons_append, firstByNameFrom_congr name hseen more]

theorem firstByNameFrom_map (name : β → String) (f : α → β) (seen : List String) (l : List α) :
    firstByNameFrom name seen (l.map f) = (firstByNameFrom (fun a => name (f a)) seen l).map f := by
  induction l generalizing seen with
  | nil => rfl
  | cons a rest ih =>
    simp only [List.map_cons, firstByNameFrom, ih]
    split
    · rfl
    · rfl

/-- Names that are seen before are those that are left out in the end. -/
theorem filterMap_firstByNameFrom (name : α → String) (f : α → Option β) (seen more : List String)
    (l : List α) :
    (firstByNameFrom name (seen ++ more) l).filterMap f =
      (firstByNameFrom name seen l).filterMap fun a => if name a ∈ more then none else f a := by
  induction l generalizing seen with
  | nil => rfl
  | cons a rest ih =>
    simp only [firstByNameFrom, List.mem_append]
    by_cases hseen : name a ∈ seen
    · rw [if_pos (.inl hseen), if_pos hseen, ih]
    by_cases hmore : name a ∈ more
    · have hknown : ∀ n, n ∈ seen ++ more ↔ n ∈ name a :: seen ++ more := fun n => by
        rw [List.cons_append, List.mem_cons]
        exact ⟨.inr, fun hn => hn.elim (· ▸ List.mem_append_right _ hmore) id⟩
      rw [if_pos (.inr hmore), if_neg hseen, firstByNameFrom_congr name hknown, ih,
        List.filterMap_cons, if_pos hmore]
    · rw [if_neg (not_or_intro hseen hmore), if_neg hseen, List.filterMap_cons, List.filterMap_cons,
        if_neg hmore, ← List.cons_append, ih]

theorem filter_firstByNameFrom (name : α → String) (seen more : List String) (l : List α) :
    (firstByNameFrom name seen l).filter (fun a => name a ∉ more) =
      firstByNameFrom name (seen ++ more) l := by
  have h := filterMap_firstByNameFrom name some seen more l
  rw [List.filterMap_some] at h
  rw [h, ← List.filterMap_eq_filter]
  refine congrArg (List.filterMap · _) (funext fun a => ?_)
  by_cases hmore : name a ∈ more <;> simp [hmore]

/-- Names that are seen before might as well be left out before. -/
theorem firstByNameFrom_append_seen (name : α → String) (seen more : List String) (l : List α) :
    firstByNameFrom name (seen ++ more) l =
      firstByNameFrom name seen (l.filter fun a => name a ∉ more) := by
  induction l generalizing seen with
  | nil => rfl
  | cons a rest ih =>
    rw [firstByNameFrom]
    by_cases hmore : name a ∈ more
    · rw [if_pos (List.mem_append_right seen hmore), List.filter_cons_of_neg (by simpa using hmore),
        ih]
    · have hseen : name a ∈ seen ++ more ↔ name a ∈ seen := by
        rw [List.mem_append, or_iff_left hmore]
      rw [List.filter_cons_of_pos (by simpa using hmore), firstByNameFrom, ih, ← List.cons_append,
        ih]
      simp only [hseen]

/-- Nothing is lost by names that come again, exactly if what comes again counts for nothing. -/
theorem filterMap_firstByNameFrom_eq_iff (name : α → String) (f : α → Option β)
    (seen : List String) (l : List α) :
    (firstByNameFrom name seen l).filterMap f = l.filterMap f ↔
      (∀ a ∈ l, (f a).isSome → name a ∉ seen) ∧
        l.Pairwise fun first a => (f a).isSome → name first ≠ name a := by
  induction l generalizing seen with
  | nil => simp [firstByNameFrom]
  | cons a rest ih =>
    rw [firstByNameFrom, List.forall_mem_cons, List.pairwise_cons]
    split
    case isTrue hseen =>
      have hlater : (∀ b ∈ rest, (f b).isSome → name b ∉ seen) →
          ∀ b ∈ rest, (f b).isSome → name a ≠ name b :=
        fun h b hb hcounts heq => h b hb hcounts (heq ▸ hseen)
      cases hf : f a with
      | none =>
        rw [List.filterMap_cons_none hf, ih]
        exact ⟨fun ⟨hnew, hrest⟩ => ⟨⟨nofun, hnew⟩, hlater hnew, hrest⟩,
          fun ⟨⟨_, hnew⟩, _, hrest⟩ => ⟨hnew, hrest⟩⟩
      | some x =>
        -- the masked element counts, and what is left is too short
        have hshort := ((firstByNameFrom_sublist name seen rest).filterMap f).length_le
        refine iff_of_false (fun heq => ?_) fun h => h.1.1 rfl hseen
        rw [heq, List.filterMap_cons_some hf, List.length_cons] at hshort
        omega
    case isFalse hseen =>
      have hfirst : (a :: firstByNameFrom name (name a :: seen) rest).filterMap f =
            (a :: rest).filterMap f ↔
          (firstByNameFrom name (name a :: seen) rest).filterMap f = rest.filterMap f := by
        cases hf : f a with
        | none => rw [List.filterMap_cons_none hf, List.filterMap_cons_none hf]
        | some x => rw [List.filterMap_cons_some hf, List.filterMap_cons_some hf, List.cons_inj_right]
      rw [hfirst, ih]
      simp only [List.mem_cons, not_or]
      grind

end FacetModel
