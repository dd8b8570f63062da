import FacetModel.Proofs.Builder.Ancestry
import Mathlib.Data.List.Shortlex

/-!
# The order of descendants

Where no base types lead back to a type, one way leads down from a type to each of its descendants
(`Builder.descent`). `Builder.derivedTypes` lists the descendants by the length of this way and, for
ways of one length, by the names along it from above (`Builder.Acyclic.sorted_derivedTypes`). The
reason is that the search appends the children of a type when it comes to this type, and that it
comes to types in the order in which they were found (`Builder.Arranged`).

So descendants at one distance come by their own names only if children of different types come in
the order of the names of these types (`Builder.Acyclic.inNameOrder_iff`).
-/

namespace FacetModel

/-! ### Sorted lists -/

section Concat

variable {α : Type} {r : α → α → Prop} {s t : List α} {a c : α}

/-- Lists of one length with one more element each compare as before, and by these elements if they
were the same. -/
theorem lex_concat_iff (h : s.length = t.length) :
    List.Lex r (s ++ [a]) (t ++ [c]) ↔ List.Lex r s t ∨ s = t ∧ r a c := by
  induction s generalizing t with
  | nil =>
    cases List.length_eq_zero_iff.1 h.symm
    simp
  | cons first s ih =>
    cases t with
    | nil => cases h
    | cons other t =>
      rw [List.cons_append, List.cons_append, List.cons_lex_cons_iff, List.cons_lex_cons_iff,
        ih (Nat.succ.inj h), List.cons.injEq]
      tauto

/-- Lists with one more element each compare as before, and by these elements if they were the
same. -/
theorem shortlex_concat_iff :
    List.Shortlex r (s ++ [a]) (t ++ [c]) ↔ List.Shortlex r s t ∨ s = t ∧ r a c := by
  simp only [List.shortlex_def, List.length_append, List.length_singleton,
    Nat.add_lt_add_iff_right, Nat.add_right_cancel_iff]
  by_cases h : s.length = t.length
  · simp [h, lex_concat_iff h]
  · have hne : s ≠ t := fun heq => h (congrArg List.length heq)
    simp [h, hne]

end Concat

/-- In a list that is sorted in two ways, two elements are in order in both ways. -/
theorem rel_or_rel_of_pairwise {α : Type} {r s : α → α → Prop} {l : List α} (hr : l.Pairwise r)
    (hs : l.Pairwise s) {a c : α} (ha : a ∈ l) (hc : c ∈ l) (hne : a ≠ c) :
    r a c ∧ s a c ∨ r c a ∧ s c a := by
  obtain ⟨i, hi, rfl⟩ := List.getElem_of_mem ha
  obtain ⟨j, hj, rfl⟩ := List.getElem_of_mem hc
  rw [List.pairwise_iff_getElem] at hr hs
  rcases Nat.lt_trichotomy i j with hlt | rfl | hlt
  · exact .inl ⟨hr i j hi hj hlt, hs i j hi hj hlt⟩
  · exact absurd rfl hne
  · exact .inr ⟨hr j i hj hi hlt, hs j i hj hi hlt⟩

namespace Builder

variable {b : Builder} {root name base : String}

theorem Acyclic.not_isA (h : b.Acyclic) (hbase : b.HasBase name base) : ¬ b.IsA base name :=
  fun hback => h name (.head' hbase hback)

theorem Acyclic.ne_of_hasBase (h : b.Acyclic) (hbase : b.HasBase name base)
    (hroot : b.IsA base root) : name ≠ root :=
  fun heq => h.not_isA hbase (heq ▸ hroot)

/-! ### The way down to a descendant -/

/-- The names of the types on the way down from a type to one of its descendants, which comes last.
-/
def descent (b : Builder) (root name : String) : List String :=
  ((name :: b.ancestors name).takeWhile (· ≠ root)).reverse

/-- Names lead down from a type, each that of a type whose base type is the one before. -/
structure LeadsDown (b : Builder) (root : String) (path : List String) (name : String) : Prop where
  chain : (root :: path).IsChain fun base child => b.HasBase child base
  last : (root :: path).getLast? = some name

theorem atDistance_zero (b : Builder) (name : String) : b.AtDistance 0 name name :=
  ⟨rfl, fun _ hfewer => absurd hfewer (Nat.not_lt_zero _)⟩

/-- A type is one step further away than its base type. -/
theorem AtDistance.succ {steps : Nat} (h : b.AtDistance steps base root)
    (hbase : b.HasBase name base) (hne : name ≠ root) : b.AtDistance (steps + 1) name root := by
  refine ⟨(above?_of_hasBase hbase steps).trans h.1, fun fewer hfewer hmet => ?_⟩
  cases fewer with
  | zero => exact hne (Option.some.inj hmet)
  | succ fewer =>
    rw [above?_of_hasBase hbase] at hmet
    exact h.2 fewer (Nat.lt_of_succ_lt_succ hfewer) hmet

/-- Without circles, the ancestors of a type are its base type and the ancestors of this. -/
theorem Acyclic.ancestors_of_hasBase (h : b.Acyclic) (hbase : b.HasBase name base) :
    b.ancestors name = base :: b.ancestors base := by
  refine List.ext_getElem? fun steps => Option.ext fun other => ?_
  -- both lists are compared by the distance at which they have a type
  rw [getElem?_ancestors_iff, ← List.getElem?_cons_succ, getElem?_ancestors_iff]
  constructor
  · rintro ⟨hmet, hfewer⟩
    rw [above?_of_hasBase hbase] at hmet
    refine ⟨hmet, fun fewer hless => ?_⟩
    rw [← above?_of_hasBase hbase]
    exact hfewer (fewer + 1) (Nat.succ_lt_succ hless)
  · exact fun hdistance => hdistance.succ hbase (h.ne_of_hasBase hbase hdistance.isA)

theorem descent_self (b : Builder) (root : String) : b.descent root root = [] := by
  rw [descent, List.takeWhile_cons_of_neg (by simp), List.reverse_nil]

/-- The way down to a type goes by its base type. -/
theorem Acyclic.descent_of_hasBase (h : b.Acyclic) (hbase : b.HasBase name base)
    (hroot : b.IsA base root) : b.descent root name = b.descent root base ++ [name] := by
  have hne := h.ne_of_hasBase hbase hroot
  rw [descent, List.takeWhile_cons_of_pos (by simpa using hne), h.ancestors_of_hasBase hbase,
    List.reverse_cons]
  rfl

/-- The way down to a descendant leads there, each type being a child of the one before. -/
theorem Acyclic.leadsDown_descent (h : b.Acyclic) (hroot : b.IsA name root) :
    b.LeadsDown root (b.descent root name) name := by
  induction hroot using Relation.ReflTransGen.head_induction_on with
  | refl =>
    rw [descent_self]
    exact ⟨List.isChain_singleton root, rfl⟩
  | @head name base hbase hroot ih =>
    rw [h.descent_of_hasBase hbase hroot]
    refine ⟨?_, ?_⟩ <;> rw [← List.cons_append]
    · refine List.isChain_append.2 ⟨ih.chain, List.isChain_singleton name, fun v hv w hw => ?_⟩
      rw [ih.last, Option.mem_some_iff] at hv
      rw [List.head?_cons, Option.mem_some_iff] at hw
      exact hv ▸ hw ▸ hbase
    · exact List.getLast?_concat

/-- The way down to a descendant is as long as the descendant is away. -/
theorem Acyclic.atDistance_descent (h : b.Acyclic) (hroot : b.IsA name root) :
    b.AtDistance (b.descent root name).length name root := by
  induction hroot using Relation.ReflTransGen.head_induction_on with
  | refl =>
    rw [descent_self]
    exact b.atDistance_zero root
  | @head name base hbase hroot ih =>
    rw [h.descent_of_hasBase hbase hroot, List.length_append]
    exact ih.succ hbase (h.ne_of_hasBase hbase hroot)

/-! ### The search downwards -/

/-- One way down comes before another one: it is shorter, or it is as long and its names come
first. -/
def Before (b : Builder) (root name other : String) : Prop :=
  List.Shortlex (· < ·) (b.descent root name) (b.descent root other)

/-- The types that the search has come to and those that wait: all are descendants of the root in
order, and the base types of all but the root were come to. -/
structure Arranged (b : Builder) (root : String) (done queue : List String) : Prop where
  sorted : (done ++ queue).Pairwise (b.Before root)
  isA : ∀ n ∈ done ++ queue, b.IsA n root
  base : ∀ n ∈ done ++ queue, n = root ∨ ∃ base ∈ done, b.HasBase n base

theorem arranged_root (b : Builder) (root : String) : b.Arranged root [] [root] where
  sorted := List.pairwise_singleton _ _
  isA := List.forall_mem_singleton.2 .refl
  base := List.forall_mem_singleton.2 (.inl rfl)

theorem pairwise_childrenOf (b : Builder) (base : String) :
    (b.childrenOf base).Pairwise (· < ·) := by
  rw [childrenOf, List.pairwise_map]
  exact b.types.sorted.filter _

/-- Children of the type that the search comes to are put behind all others. -/
theorem Arranged.step (h : b.Acyclic) {done queue children : List String} {parent : String}
    (harranged : b.Arranged root done (parent :: queue))
    (hchildren : children.Sublist (b.childrenOf parent)) :
    b.Arranged root (done ++ [parent]) (queue ++ children) := by
  obtain ⟨hsorted, hisA, hbase⟩ := harranged
  have hsplit : (done ++ [parent]) ++ (queue ++ children) =
      (done ++ parent :: queue) ++ children := by simp
  have hparent : b.IsA parent root := hisA parent (by simp)
  have hbaseOf : ∀ child ∈ children, b.HasBase child parent := fun child hchild =>
    hasBase_of_mem_childrenOf (hchildren.subset hchild)
  have hdescent : ∀ child ∈ children, b.descent root child = b.descent root parent ++ [child] :=
    fun child hchild => h.descent_of_hasBase (hbaseOf child hchild) hparent
  refine ⟨?_, ?_, ?_⟩ <;> rw [hsplit]
  · refine List.pairwise_append.2 ⟨hsorted, ?_, fun n hn child hchild => ?_⟩
    · have hnames := (b.pairwise_childrenOf parent).sublist hchildren
      refine hnames.imp_of_mem fun hfirst hsecond hlt => ?_
      rw [Before, hdescent _ hfirst, hdescent _ hsecond]
      exact shortlex_concat_iff.2 (.inr ⟨rfl, hlt⟩)
    · rw [Before, hdescent child hchild]
      rcases hbase n hn with rfl | ⟨base, hdone, hn⟩
      · rw [descent_self]
        exact .of_length_lt (by simp)
      · -- the base type of a type that was found was come to before the parent
        have hbefore := (List.pairwise_append.1 hsorted).2.2 base hdone parent List.mem_cons_self
        have hroot : b.IsA base root := hisA base (List.mem_append_left _ hdone)
        rw [h.descent_of_hasBase hn hroot]
        exact shortlex_concat_iff.2 (.inl hbefore)
  · exact List.forall_mem_append.2 ⟨hisA, fun child hchild => hparent.head (hbaseOf child hchild)⟩
  · refine List.forall_mem_append.2 ⟨fun n hn => ?_, fun child hchild => ?_⟩
    · refine (hbase n hn).imp_right ?_
      rintro ⟨base, hdone, hn⟩
      exact ⟨base, List.mem_append_left _ hdone, hn⟩
    · exact .inr ⟨parent, List.mem_append_right _ List.mem_cons_self, hbaseOf child hchild⟩

/-- The search keeps what it found in order until nothing waits. -/
theorem Acyclic.sorted_derivedFrom (h : b.Acyclic) {done found queue : List String}
    (hfound : root :: found = done ++ queue) (harranged : b.Arranged root done queue) :
    (root :: b.derivedFrom root found queue).Pairwise (b.Before root) := by
  induction found, queue using derivedFrom.induct b root generalizing done with
  | case1 found =>
    rw [derivedFrom, hfound]
    exact harranged.sorted
  | case2 found parent queue children =>
    rename_i ih
    rw [derivedFrom]
    refine ih ?_ (harranged.step h List.filter_sublist)
    rw [← List.cons_append, hfound]
    simp

/-- **Descendants come by their way down**: the shorter way first, and of ways of one length the one
whose names come first. -/
theorem Acyclic.sorted_derivedTypes (h : b.Acyclic) (root : String) :
    (b.derivedTypes root).Pairwise (b.Before root) :=
  (h.sorted_derivedFrom rfl (b.arranged_root root)).of_cons

/-! ### Descendants by name -/

/-- The descendants of a type come by distance and, at one distance, by name. -/
def InNameOrder (b : Builder) (root : String) : Prop :=
  (b.derivedTypes root).Pairwise fun name other => ∀ steps more,
    b.AtDistance steps name root → b.AtDistance more other root →
      steps < more ∨ steps = more ∧ name < other

/-- Children of types at one distance come in the order of the names of these types. -/
def ChildrenFollow (b : Builder) (root : String) : Prop :=
  ∀ steps base other child next, b.AtDistance steps base root → b.AtDistance steps other root →
    base < other → b.HasBase child base → b.HasBase next other → child < next

/-- A type that is some steps away has a base type that is one step less away. -/
theorem AtDistance.exists_base {steps : Nat} (h : b.AtDistance (steps + 1) name root) :
    ∃ base, b.HasBase name base ∧ b.AtDistance steps base root := by
  obtain ⟨base, hbase, hmet⟩ := Option.bind_eq_some_iff.1 h.1
  refine ⟨base, hbase, hmet, fun fewer hfewer hthere => ?_⟩
  exact h.2 (fewer + 1) (Nat.succ_lt_succ hfewer) ((above?_of_hasBase hbase fewer).trans hthere)

/-- Where the children of a level follow its types, so do all descendants at one distance. -/
theorem Acyclic.lt_of_before (h : b.Acyclic) (hfollow : b.ChildrenFollow root) {steps : Nat}
    {name other : String} (hname : b.AtDistance steps name root)
    (hother : b.AtDistance steps other root) (hbefore : b.Before root name other) :
    name < other := by
  induction steps generalizing name other with
  | zero =>
    cases hname.1
    rw [Before, descent_self, Option.some.inj hother.1, descent_self] at hbefore
    exact absurd hbefore List.not_shortlex_nil_right
  | succ steps ih =>
    obtain ⟨base, hbase, hbaseAt⟩ := hname.exists_base
    obtain ⟨next, hnext, hnextAt⟩ := hother.exists_base
    rw [Before, h.descent_of_hasBase hbase hbaseAt.isA,
      h.descent_of_hasBase hnext hnextAt.isA] at hbefore
    -- the ways down differ above the last step, or these are children of one type
    rcases shortlex_concat_iff.1 hbefore with hbases | ⟨-, hlt⟩
    · have hlt : base < next := ih hbaseAt hnextAt hbases
      exact hfollow steps base next name other hbaseAt hnextAt hlt hbase hnext
    · exact hlt

theorem AtDistance.mem_derivedTypes {steps : Nat} (h : b.AtDistance (steps + 1) name root) :
    name ∈ b.derivedTypes root :=
  mem_derivedTypes_iff.2 ⟨fun heq => h.2 0 steps.succ_pos (congrArg some heq), h.isA⟩

/-- Where descendants come by name, those at one distance come by their way down as by name. -/
theorem Acyclic.before_of_lt (h : b.Acyclic) (hnames : b.InNameOrder root) {steps : Nat}
    {name other : String} (hname : b.AtDistance steps name root)
    (hother : b.AtDistance steps other root) (hlt : name < other) : b.Before root name other := by
  cases steps with
  | zero =>
    cases hname.1
    cases hother.1
    exact absurd hlt (String.lt_irrefl _)
  | succ steps =>
    -- one list is sorted in both ways, so these agree on any two of its types
    rcases rel_or_rel_of_pairwise hnames (h.sorted_derivedTypes root) hname.mem_derivedTypes
      hother.mem_derivedTypes (String.ne_of_lt hlt) with ⟨-, hbefore⟩ | ⟨horder, -⟩
    · exact hbefore
    · rcases horder _ _ hother hname with hless | ⟨-, hgt⟩
      · exact absurd hless (Nat.lt_irrefl _)
      · exact absurd hgt (String.lt_asymm hlt)

theorem Before.asymm (h : b.Before root name base) : ¬ b.Before root base name := by
  have hasymm : Std.Asymm (List.Shortlex fun first second : String => first < second) :=
    inferInstance
  exact hasymm.asymm _ _ h

/-- Where descendants come by name, the children of the types at one distance follow these types. -/
theorem Acyclic.childrenFollow (h : b.Acyclic) (hnames : b.InNameOrder root) :
    b.ChildrenFollow root := by
  intro steps base other child next hbase hother hlt hchild hnext
  have hbases : b.Before root base other := h.before_of_lt hnames hbase hother hlt
  rcases Std.lt_trichotomy child next with hchildren | rfl | hchildren
  · exact hchildren
  · cases hchild.symm.trans hnext
    exact absurd hbases hbases.asymm
  · -- the way down to the later name would come first, and so would that to its base type
    have hbefore := h.before_of_lt hnames
      (hother.succ hnext (h.ne_of_hasBase hnext hother.isA))
      (hbase.succ hchild (h.ne_of_hasBase hchild hbase.isA)) hchildren
    rw [Before, h.descent_of_hasBase hchild hbase.isA,
      h.descent_of_hasBase hnext hother.isA] at hbefore
    rcases shortlex_concat_iff.1 hbefore with hback | ⟨hsame, -⟩
    · exact absurd hback hbases.asymm
    · have hself : b.Before root base base := by
        rw [Before, hsame] at hbases
        rwa [Before]
      exact absurd hself hself.asymm

/-- Where the children of the types at one distance follow these types, descendants come by name. -/
theorem Acyclic.inNameOrder (h : b.Acyclic) (hfollow : b.ChildrenFollow root) :
    b.InNameOrder root := by
  have hisA : ∀ name ∈ b.derivedTypes root, b.IsA name root := fun name hname =>
    (mem_derivedTypes_iff.1 hname).2
  refine (h.sorted_derivedTypes root).imp_of_mem
    fun {name other} hname hother hbefore steps more hsteps hmore => ?_
  have hlength := hsteps.unique (h.atDistance_descent (hisA name hname))
  have hlength' := hmore.unique (h.atDistance_descent (hisA other hother))
  rcases List.shortlex_def.1 hbefore with hless | ⟨hsame, -⟩
  · exact .inl (by omega)
  · obtain rfl : steps = more := by omega
    exact .inr ⟨rfl, h.lt_of_before hfollow hsteps hmore hbefore⟩

/-- **Descendants come by their way down, and not always by name.** Where no base types lead back to
a type, the descendants of a type are listed by distance, and at one distance by the names along the
way down. They are listed by distance and name just if the children of the types at each distance
come in the order of the names of these types. -/
theorem Acyclic.inNameOrder_iff (h : b.Acyclic) (root : String) :
    (∀ name ∈ b.derivedTypes root, b.LeadsDown root (b.descent root name) name ∧
      b.AtDistance (b.descent root name).length name root) ∧
    (b.derivedTypes root).Pairwise (b.Before root) ∧
    (b.InNameOrder root ↔ b.ChildrenFollow root) := by
  refine ⟨fun name hname => ?_, h.sorted_derivedTypes root, h.childrenFollow, h.inNameOrder⟩
  have hroot : b.IsA name root := (mem_derivedTypes_iff.1 hname).2
  exact ⟨h.leadsDown_descent hroot, h.atDistance_descent hroot⟩

/-! ### Animals and plants -/

/-- Owls are birds, and trouts are fish. -/
def animalCatalog : HostCatalog where
  structuralTypes :=
    [{ name := "Animal", namespaceName := "Nature" },
     { name := "Bird", namespaceName := "Nature", base := some "Animal" },
     { name := "Fish", namespaceName := "Nature", base := some "Animal" },
     { name := "Owl", namespaceName := "Nature", base := some "Bird" },
     { name := "Trout", namespaceName := "Nature", base := some "Fish" }]

/-- A builder with owls and trouts. -/
def animalBuilder : Builder :=
  meetAll { registry := animalCatalog.toRegistry.toOption.getD .empty, namespaceName := "Nature",
            containerName := "Container" }
    [.structuralType "Trout", .structuralType "Owl"]

/-- Animals come by name: birds before fish, and owls before trouts. -/
theorem inNameOrder_animal :
    animalBuilder.Acyclic ∧
      animalBuilder.derivedTypes "Animal" = ["Bird", "Fish", "Owl", "Trout"] ∧
      animalBuilder.descent "Animal" "Owl" = ["Bird", "Owl"] ∧
      animalBuilder.InNameOrder "Animal" := by
  have hpairs : animalBuilder.basePairs =
      [("Bird", "Animal"), ("Fish", "Animal"), ("Owl", "Bird"), ("Trout", "Fish")] := by cbv
  have hacyclic : animalBuilder.Acyclic := acyclic_of_lt (by rw [hpairs]; decide)
  refine ⟨hacyclic, by cbv, by cbv, (hacyclic.inNameOrder_iff "Animal").2.2.2 ?_⟩
  -- the order of the base types is that of their children wherever they are
  have hfollow : ∀ e ∈ animalBuilder.basePairs, ∀ f ∈ animalBuilder.basePairs,
      e.2 < f.2 → e.1 < f.1 := by
    rw [hpairs]
    decide
  intro _ base other child next _ _ hlt hchild hnext
  exact hfollow _ (hasBase_iff_mem_basePairs.1 hchild) _ (hasBase_iff_mem_basePairs.1 hnext) hlt

/-- Yews are shrubs, and willows are trees. -/
def plantCatalog : HostCatalog where
  structuralTypes :=
    [{ name := "Plant", namespaceName := "Nature" },
     { name := "Shrub", namespaceName := "Nature", base := some "Plant" },
     { name := "Tree", namespaceName := "Nature", base := some "Plant" },
     { name := "Willow", namespaceName := "Nature", base := some "Tree" },
     { name := "Yew", namespaceName := "Nature", base := some "Shrub" }]

/-- A builder with yews and willows. -/
def plantBuilder : Builder :=
  meetAll { registry := plantCatalog.toRegistry.toOption.getD .empty, namespaceName := "Nature",
            containerName := "Container" }
    [.structuralType "Willow", .structuralType "Yew"]

/-- Yews come before willows, which are as far from plants and have the earlier name. -/
theorem not_inNameOrder_plant :
    plantCatalog.validate.isOk = true ∧ plantBuilder.Reachable ∧ plantBuilder.Acyclic ∧
      plantBuilder.isStructuralType "Plant" = true ∧
      plantBuilder.derivedTypes "Plant" = ["Shrub", "Tree", "Yew", "Willow"] ∧
      ¬ plantBuilder.InNameOrder "Plant" := by
  have hpairs : plantBuilder.basePairs =
      [("Shrub", "Plant"), ("Tree", "Plant"), ("Willow", "Tree"), ("Yew", "Shrub")] := by cbv
  have hderived : plantBuilder.derivedTypes "Plant" = ["Shrub", "Tree", "Yew", "Willow"] := by cbv
  have hyew : plantBuilder.AtDistance 2 "Yew" "Plant" := getElem?_ancestors_iff.1 (by cbv)
  have hwillow : plantBuilder.AtDistance 2 "Willow" "Plant" := getElem?_ancestors_iff.1 (by cbv)
  refine ⟨by decide +kernel, (Reachable.start _ _ _).meetAll _,
    acyclic_of_lt (by rw [hpairs]; decide), by cbv, hderived, fun hnames => ?_⟩
  rw [InNameOrder, hderived] at hnames
  have horder := (List.pairwise_cons.1 hnames.of_cons.of_cons).1 "Willow" List.mem_cons_self
  rcases horder 2 2 hyew hwillow with hless | ⟨-, hlt⟩
  · exact absurd hless (Nat.lt_irrefl 2)
  · exact absurd hlt (by decide)

end Builder

end FacetModel
