import FacetModel.Proofs.Builder.Inheritance

/-!
# Ancestors and descendants

Base types lead from a type to others, step by step (`Builder.above?`), and may lead back to a type
that was met. `Builder.ancestors` lists all that is met, each type where it is met first
(`Builder.getElem?_ancestors_iff`); `Builder.derivedTypes` lists the types from which a type is met.
So one is an ancestor of the other just if the latter is a descendant of the former, although one
list comes from a walk and the other from a search with a queue
(`Builder.Reachable.ancestors_derivedTypes_dual`).

Both end after a number of rounds that the number of registered types bounds
(`Builder.walkUp?_size`, `Builder.searchDown?_size`): each round comes to a type that was not met
before.
-/

namespace FacetModel

namespace Builder

variable {b : Builder} {name other root : String}

/-! ### Steps along base types -/

/-- The type that is met after so many steps along base types. -/
def above? (b : Builder) : Nat → String → Option String
  | 0, name => some name
  | steps + 1, name => (b.baseTypeOf? name).bind (above? b steps)

/-- A type is met after so many steps along base types, and not after fewer. -/
def AtDistance (b : Builder) (steps : Nat) (name other : String) : Prop :=
  b.above? steps name = some other ∧ ∀ fewer < steps, b.above? fewer name ≠ some other

theorem above?_of_hasBase {base : String} (h : b.HasBase name base) (steps : Nat) :
    b.above? (steps + 1) name = b.above? steps base := by
  rw [above?, h, Option.bind_some]

/-- A type is what is met from it after some number of steps. -/
theorem isA_iff_exists_above? : b.IsA name other ↔ ∃ steps, b.above? steps name = some other := by
  constructor
  · intro h
    induction h using Relation.ReflTransGen.head_induction_on with
    | refl => exact ⟨0, rfl⟩
    | head hbase _ ih =>
      obtain ⟨steps, hsteps⟩ := ih
      exact ⟨steps + 1, (above?_of_hasBase hbase steps).trans hsteps⟩
  · rintro ⟨steps, hsteps⟩
    induction steps generalizing name with
    | zero =>
      cases hsteps
      exact .refl
    | succ steps ih =>
      obtain ⟨base, hbase, hrest⟩ := Option.bind_eq_some_iff.1 hsteps
      exact (ih hrest).head hbase

theorem AtDistance.isA {steps : Nat} (h : b.AtDistance steps name other) : b.IsA name other :=
  isA_iff_exists_above?.2 ⟨steps, h.1⟩

/-- Types are met first after one number of steps only. -/
theorem AtDistance.unique {steps more : Nat} (h : b.AtDistance steps name other)
    (h' : b.AtDistance more name other) : steps = more := by
  rcases Nat.lt_trichotomy steps more with hlt | heq | hgt
  · exact absurd h.1 (h'.2 steps hlt)
  · exact heq
  · exact absurd h'.1 (h.2 more hgt)

/-! ### The list of ancestors -/

/-- Each type on the way upwards is the base type of the one before. -/
theorem isChain_ancestorsFrom (b : Builder) (met : List String) (name : String) :
    (name :: b.ancestorsFrom met name).IsChain b.HasBase := by
  induction met, name using ancestorsFrom.induct b with
  | case1 met name hnone =>
    rw [ancestorsFrom_of_none hnone]
    exact List.isChain_singleton name
  | case2 met name base hbase hmem =>
    rw [ancestorsFrom_of_some hbase, if_pos hmem]
    exact List.isChain_singleton name
  | case3 met name base hbase hmem ih =>
    rw [ancestorsFrom_of_some hbase, if_neg hmem]
    exact List.isChain_cons_cons.2 ⟨hbase, ih⟩

/-- Along a chain of base types, a type stands where it is met. -/
theorem above?_of_isChain {rest : List String} {steps : Nat}
    (h : (name :: rest).IsChain b.HasBase) (hother : (name :: rest)[steps]? = some other) :
    b.above? steps name = some other := by
  induction rest generalizing name steps with
  | nil =>
    cases steps with
    | zero => exact hother
    | succ steps => simp at hother
  | cons base rest ih =>
    obtain ⟨hbase, hrest⟩ := List.isChain_cons_cons.1 h
    cases steps with
    | zero => exact hother
    | succ steps =>
      rw [List.getElem?_cons_succ] at hother
      rw [above?_of_hasBase hbase]
      exact ih hrest hother

/-- The walk upwards lists no type twice, and none that was met before. -/
theorem nodup_ancestorsFrom (b : Builder) (met : List String) (name : String) :
    (b.ancestorsFrom met name).Nodup ∧ ∀ n ∈ b.ancestorsFrom met name, n ∉ met := by
  induction met, name using ancestorsFrom.induct b with
  | case1 met name hnone =>
    rw [ancestorsFrom_of_none hnone]
    exact ⟨List.nodup_nil, List.forall_mem_nil _⟩
  | case2 met name base hbase hmem =>
    rw [ancestorsFrom_of_some hbase, if_pos hmem]
    exact ⟨List.nodup_nil, List.forall_mem_nil _⟩
  | case3 met name base hbase hmem ih =>
    rw [ancestorsFrom_of_some hbase, if_neg hmem]
    obtain ⟨hnodup, hnew⟩ := ih
    refine ⟨List.nodup_cons.2 ⟨fun hbase => ?_, hnodup⟩, List.forall_mem_cons.2 ⟨hmem, ?_⟩⟩
    · exact hnew base hbase List.mem_cons_self
    · exact fun n hn hmet => hnew n hn (List.mem_cons_of_mem base hmet)

theorem nodup_ancestors (b : Builder) (name : String) : (name :: b.ancestors name).Nodup := by
  obtain ⟨hnodup, hnew⟩ := b.nodup_ancestorsFrom [name] name
  exact List.nodup_cons.2 ⟨fun hname => hnew name hname List.mem_cons_self, hnodup⟩

/-- **Ancestors come nearest first**: each type stands where it is met first. -/
theorem getElem?_ancestors_iff {steps : Nat} :
    (name :: b.ancestors name)[steps]? = some other ↔ b.AtDistance steps name other := by
  have hchain := b.isChain_ancestorsFrom [name] name
  have hdistance : ∀ {steps}, (name :: b.ancestors name)[steps]? = some other →
      b.AtDistance steps name other := by
    refine fun {steps} h => ⟨above?_of_isChain hchain h, fun fewer hfewer hmet => ?_⟩
    obtain ⟨hlength, -⟩ := List.getElem?_eq_some_iff.1 h
    -- the type that stands where the fewer steps lead is met there
    have hthere : (name :: b.ancestors name)[fewer]? = some other := by
      have hget := List.getElem?_eq_getElem (Nat.lt_trans hfewer hlength)
      rw [hget, ← above?_of_isChain hchain hget, hmet]
    have hdistinct := List.nodup_iff_getElem?_ne_getElem?.1 (b.nodup_ancestors name)
    exact hdistinct fewer steps hfewer hlength (hthere.trans h.symm)
  refine ⟨hdistance, fun h => ?_⟩
  obtain ⟨there, hthere⟩ := List.mem_iff_getElem?.1
    (List.mem_cons.2 (isA_iff_mem_ancestors.1 h.isA))
  rwa [h.unique (hdistance hthere)]

/-- Ancestors are the other types that a type is. -/
theorem mem_ancestors_iff : other ∈ b.ancestors name ↔ other ≠ name ∧ b.IsA name other := by
  rw [isA_iff_mem_ancestors]
  constructor
  · intro h
    refine ⟨?_, .inr h⟩
    rintro rfl
    exact (List.nodup_cons.1 (b.nodup_ancestors other)).1 h
  · rintro ⟨hne, h⟩
    exact h.resolve_left hne

/-! ### The list of descendants -/

theorem nodup_childrenOf (b : Builder) (base : String) : (b.childrenOf base).Nodup :=
  b.types.nodup_names.sublist (b.childrenOf_sublist base)

/-- The search downwards finds no type twice, and not the one that it began with. -/
theorem nodup_derivedFrom {found : List String} (h : (root :: found).Nodup) (queue : List String) :
    (root :: b.derivedFrom root found queue).Nodup := by
  induction found, queue using derivedFrom.induct b root with
  | case1 found =>
    rw [derivedFrom]
    exact h
  | case2 found parent queue children ih =>
    rw [derivedFrom]
    refine ih ?_
    rw [← List.cons_append]
    refine List.nodup_append.2 ⟨h, ?_, ?_⟩
    · exact (b.nodup_childrenOf parent).sublist List.filter_sublist
    · intro n hn child hchild heq
      have hnew := of_decide_eq_true (List.mem_filter.1 hchild).2
      rcases List.mem_cons.1 (heq ▸ hn) with hroot | hfound
      · exact hnew.1 hroot
      · exact hnew.2 hfound

theorem nodup_derivedTypes (b : Builder) (name : String) : (name :: b.derivedTypes name).Nodup :=
  nodup_derivedFrom (List.nodup_singleton name) [name]

/-- Descendants are the other types that are of a type. -/
theorem mem_derivedTypes_iff : other ∈ b.derivedTypes name ↔ other ≠ name ∧ b.IsA other name := by
  rw [isA_iff_mem_derivedTypes]
  constructor
  · intro h
    refine ⟨?_, .inr h⟩
    rintro rfl
    exact (List.nodup_cons.1 (b.nodup_derivedTypes other)).1 h
  · rintro ⟨hne, h⟩
    exact h.resolve_left hne

theorem isStructuralType_of_hasBase {base : String} (h : b.HasBase name base) :
    b.isStructuralType name = true := by
  obtain ⟨p, hp, -⟩ := hasBase_iff.1 h
  exact isStructuralType_iff.2 ⟨p, hp⟩

/-- From a type that is not registered, only that type itself is met. -/
theorem IsA.isStructuralType (h : b.IsA name other) (hne : name ≠ other) :
    b.isStructuralType name = true := by
  rcases h.cases_head with heq | ⟨base, hbase, -⟩
  · exact absurd heq hne
  · exact isStructuralType_of_hasBase hbase

/-- What is met from another type is registered, since base types are. -/
theorem Reachable.isStructuralType_of_isA (h : b.Reachable) (hother : b.IsA name other)
    (hne : name ≠ other) : b.isStructuralType other = true := by
  rcases hother.cases_tail with heq | ⟨below, -, hbase⟩
  · exact absurd heq.symm hne
  · exact h.isStructuralType_of_hasBase hbase

/-! ### Rounds -/

/-- The walk upwards from a type, with the types that are listed so far and the one that comes next,
if it is over after so many rounds. -/
def walkUp? (b : Builder) (name : String) :
    Nat → List String → Option String → Option (List String)
  | _, listed, none => some listed
  | 0, _, some _ => none
  | rounds + 1, listed, some base =>
    if base = name ∨ base ∈ listed then some listed
    else walkUp? b name rounds (listed ++ [base]) (b.baseTypeOf? base)

/-- What is found and what waits after one more child is looked at. -/
def takeChild (root : String) (state : List String × List String) (child : String) :
    List String × List String :=
  if child ≠ root ∧ child ∉ state.1 then (state.1 ++ [child], child :: state.2) else state

/-- The search downwards from a type, with the types that are found so far and those that wait, if
it is over after so many rounds. The type that has waited longest stands last. -/
def searchDown? (b : Builder) (root : String) :
    Nat → List String → List String → Option (List String)
  | 0, found, waiting => if waiting = [] then some found else none
  | rounds + 1, found, waiting =>
    match waiting.getLast? with
    | none => some found
    | some parent =>
      let (found, waiting) := (b.childrenOf parent).foldl (takeChild root) (found, waiting.dropLast)
      searchDown? b root rounds found waiting

theorem baseTypeOf?_of_none (h : b.types.get? name = none) : b.baseTypeOf? name = none := by
  rw [baseTypeOf?, h, Option.bind_none]

/-- A walk is over when all registered types were met, if not before. -/
theorem walkUp?_eq {met listed : List String} {rounds : Nat}
    (hmet : ∀ n, n ∈ met ↔ n = root ∨ n ∈ listed) (hrounds : b.types.unseen met < rounds) :
    b.walkUp? root rounds listed (b.baseTypeOf? name) =
      some (listed ++ b.ancestorsFrom met name) := by
  induction met, name using ancestorsFrom.induct b generalizing listed rounds with
  | case1 met name hnone =>
    rw [hnone, walkUp?, ancestorsFrom_of_none hnone, List.append_nil]
  | case2 met name base hbase hmem =>
    cases rounds with
    | zero => cases hrounds
    | succ rounds =>
      rw [hbase, walkUp?, if_pos ((hmet base).1 hmem), ancestorsFrom_of_some hbase, if_pos hmem,
        List.append_nil]
  | case3 met name base hbase hmem ih =>
    cases rounds with
    | zero => cases hrounds
    | succ rounds =>
      have hmet' : ∀ n, n ∈ base :: met ↔ n = root ∨ n ∈ listed ++ [base] := by
        intro n
        rw [List.mem_cons, hmet n, List.mem_append, List.mem_singleton, or_comm, or_assoc]
      rw [hbase, walkUp?, if_neg (mt (hmet base).2 hmem), ancestorsFrom_of_some hbase, if_neg hmem,
        List.append_cons listed base (b.ancestorsFrom (base :: met) base)]
      -- a registered type is one less to meet, and any other has no base type to go on to
      cases hget : b.types.get? base with
      | some p =>
        have hfewer := NameMap.unseen_cons_lt hget hmem
        exact ih hmet' (by omega)
      | none =>
        have hnone := baseTypeOf?_of_none hget
        rw [hnone, walkUp?, ancestorsFrom_of_none hnone, List.append_nil]

/-- **The walk upwards ends** after at most as many rounds as there are registered types. -/
theorem walkUp?_size (b : Builder) (name : String) :
    b.walkUp? name b.types.size [] (b.baseTypeOf? name) = some (b.ancestors name) := by
  cases hget : b.types.get? name with
  | some p =>
    refine walkUp?_eq (by simp) (Nat.lt_of_lt_of_le ?_ b.types.unseen_nil_le)
    exact NameMap.unseen_cons_lt hget List.not_mem_nil
  | none =>
    have hnone := baseTypeOf?_of_none hget
    rw [hnone, walkUp?, ancestors, ancestorsFrom_of_none hnone]

/-- Children that are looked at one by one: the new ones are found and come to wait. -/
theorem foldl_takeChild {children : List String} (h : children.Nodup)
    (found waiting : List String) :
    children.foldl (takeChild root) (found, waiting) =
      (found ++ children.filter (fun child => child ≠ root ∧ child ∉ found),
        (children.filter fun child => child ≠ root ∧ child ∉ found).reverse ++ waiting) := by
  induction children generalizing found waiting with
  | nil => simp
  | cons child rest ih =>
    obtain ⟨hfresh, hrest⟩ := List.nodup_cons.1 h
    rw [List.foldl_cons, takeChild]
    split
    · rename_i hnew
      -- the child that is found now is not among the later ones
      have hsame : rest.filter (fun c => c ≠ root ∧ c ∉ found ++ [child]) =
          rest.filter fun c => c ≠ root ∧ c ∉ found :=
        List.filter_congr fun c hc => by
          have hne : c ≠ child := fun heq => hfresh (heq ▸ hc)
          simp [hne]
      rw [ih hrest, hsame,
        List.filter_cons_of_pos (p := fun c => c ≠ root ∧ c ∉ found) (decide_eq_true hnew),
        List.reverse_cons, List.append_assoc, List.append_assoc]
      rfl
    · rename_i hold
      rw [ih hrest, List.filter_cons_of_neg (p := fun c => c ≠ root ∧ c ∉ found)]
      exact mt of_decide_eq_true hold

/-- A search is over when all types that are found have waited. -/
theorem searchDown?_eq {found queue : List String} {rounds : Nat}
    (hrounds : b.types.unseen found + queue.length ≤ rounds) :
    b.searchDown? root rounds found queue.reverse = some (b.derivedFrom root found queue) := by
  induction found, queue using derivedFrom.induct b root generalizing rounds with
  | case1 found =>
    rw [derivedFrom]
    cases rounds <;> rfl
  | case2 found parent queue children =>
    rename_i ih
    rw [List.length_cons] at hrounds
    cases rounds with
    | zero => omega
    | succ rounds =>
      -- children come to wait when they are found, so what is unseen or waits becomes less in each
      -- round
      have hless : b.types.unseen (found ++ children) + children.length ≤ b.types.unseen found :=
        b.unseen_newChildren root parent found
      have hrest : b.types.unseen (found ++ children) + (queue ++ children).length ≤ rounds := by
        rw [List.length_append]
        omega
      rw [derivedFrom, ← ih hrest, searchDown?, List.getLast?_reverse, List.head?_cons]
      dsimp only
      rw [List.dropLast_reverse, List.tail_cons, foldl_takeChild (b.nodup_childrenOf parent),
        List.reverse_append]
      rfl

/-- **The search downwards ends** after at most one round more than there are registered types. -/
theorem searchDown?_size (b : Builder) (name : String) :
    b.searchDown? name (b.types.size + 1) [] [name] = some (b.derivedTypes name) := by
  have hrounds : b.types.unseen [] + [name].length ≤ b.types.size + 1 :=
    Nat.add_le_add_right b.types.unseen_nil_le 1
  exact searchDown?_eq hrounds

/-! ### Ancestors and descendants -/

/-- A list of all types that are met from a type: the type itself is left out, each other type comes
once, and the nearest comes first. -/
structure ListsAbove (b : Builder) (name : String) (types : List String) : Prop where
  nodup : (name :: types).Nodup
  mem_iff : ∀ other, other ∈ types ↔ other ≠ name ∧ ∃ steps, b.above? steps name = some other
  nearest : ∀ steps other, types[steps]? = some other ↔ b.AtDistance (steps + 1) name other
  registered : ∀ other ∈ types, b.isStructuralType other = true

/-- A list of all registered types from which a type is met: the type itself is left out, and each
other type comes once. -/
structure ListsBelow (b : Builder) (name : String) (types : List String) : Prop where
  nodup : (name :: types).Nodup
  mem_iff : ∀ other, other ∈ types ↔
    b.isStructuralType other = true ∧ other ≠ name ∧ ∃ steps, b.above? steps other = some name

/-- The walk upwards lists all that is met, the nearest first. -/
theorem Reachable.listsAbove_ancestors (h : b.Reachable) (name : String) :
    b.ListsAbove name (b.ancestors name) where
  nodup := b.nodup_ancestors name
  mem_iff other := by rw [mem_ancestors_iff, isA_iff_exists_above?]
  nearest steps other := by rw [← getElem?_ancestors_iff, List.getElem?_cons_succ]
  registered other hother := by
    obtain ⟨hne, hisA⟩ := mem_ancestors_iff.1 hother
    exact h.isStructuralType_of_isA hisA hne.symm

/-- The search downwards lists all types from which a type is met. -/
theorem listsBelow_derivedTypes (b : Builder) (name : String) :
    b.ListsBelow name (b.derivedTypes name) where
  nodup := b.nodup_derivedTypes name
  mem_iff other := by
    rw [mem_derivedTypes_iff, ← isA_iff_exists_above?]
    exact ⟨fun h => ⟨h.2.isStructuralType h.1, h⟩, And.right⟩

/-- **Ancestors and descendants are exact and dual**, also where base types lead back to a type that
was met. The walk upwards and the search downwards end, and list the types that are met from a type
and those from which it is met. -/
theorem Reachable.ancestors_derivedTypes_dual (h : b.Reachable) :
    (∀ name,
      b.walkUp? name b.types.size [] (b.baseTypeOf? name) = some (b.ancestors name) ∧
      b.ListsAbove name (b.ancestors name) ∧
      b.searchDown? name (b.types.size + 1) [] [name] = some (b.derivedTypes name) ∧
      b.ListsBelow name (b.derivedTypes name)) ∧
    ∀ name other, name ≠ other → (other ∈ b.ancestors name ↔ name ∈ b.derivedTypes other) := by
  refine ⟨fun name => ⟨b.walkUp?_size name, h.listsAbove_ancestors name, b.searchDown?_size name,
    b.listsBelow_derivedTypes name⟩, fun name other hne => ?_⟩
  rw [mem_ancestors_iff, mem_derivedTypes_iff]
  exact and_congr_left' (iff_of_true hne.symm hne)

/-- Two posts that are each the base type of the other, and a hut whose base type is one of them. -/
def postCatalog : HostCatalog where
  structuralTypes :=
    [{ name := "Hut", namespaceName := "Trail", base := some "North" },
     { name := "North", namespaceName := "Trail", base := some "South" },
     { name := "South", namespaceName := "Trail", base := some "North" }]

/-- A builder with a hut and two posts. -/
def postBuilder : Builder :=
  meetAll { registry := postCatalog.toRegistry.toOption.getD .empty, namespaceName := "Trail",
            containerName := "Container" }
    [.structuralType "Hut"]

/-- The way from a hut leads into a circle; the hut is below both posts. -/
theorem ancestors_derivedTypes_dual_post :
    postBuilder.Reachable ∧ postBuilder.ancestors "Hut" = ["North", "South"] ∧
      postBuilder.AtDistance 2 "Hut" "South" ∧ "Hut" ∈ postBuilder.derivedTypes "South" ∧
      "North" ∈ postBuilder.derivedTypes "South" ∧ "South" ∈ postBuilder.derivedTypes "North" := by
  have h : postBuilder.Reachable := (Reachable.start _ _ _).meetAll _
  have hhut : postBuilder.ancestors "Hut" = ["North", "South"] := by cbv
  have hnorth : postBuilder.ancestors "North" = ["South"] := by cbv
  have hsouth : postBuilder.ancestors "South" = ["North"] := by cbv
  obtain ⟨hlists, hdual⟩ := h.ancestors_derivedTypes_dual
  obtain ⟨-, habove, -, -⟩ := hlists "Hut"
  refine ⟨h, hhut, (habove.nearest 1 "South").1 (by rw [hhut]; rfl), ?_, ?_, ?_⟩
  · exact (hdual "Hut" "South" (by decide)).1 (by simp [hhut])
  · exact (hdual "North" "South" (by decide)).1 (by simp [hnorth])
  · exact (hdual "South" "North" (by decide)).1 (by simp [hsouth])

end Builder

end FacetModel
