import FacetModel.Scan.Operations
import Mathlib

/-!
# Masked methods and overloads

A method masks the methods of its name on all less derived host types. Methods of one name that
stand side by side on one type are overloads, and mask nothing on that type. So the operations of a
chain of host types are its marked methods whose names no more derived type declares
(`unmaskedOperations`).

A scan takes the first method of each name on each type (`HostType.withoutOverloads`), and finds the
operations of these (`scanOperations_eq`). It finds all operations exactly if each marked method
that no more derived type masks is the first one of its name on its type (`KeepsOverloads`).
-/

namespace FacetModel

/-- The names of the methods that a host type declares. -/
def HostType.methodNames (t : HostType) : List String := t.methods.map (·.name)

/-- The host type with the first one of its methods of each name. -/
def HostType.withoutOverloads (t : HostType) : HostType :=
  { t with methods := firstByName (·.name) t.methods }

/-- The operation that a method of a host type is marked as, unless its name is masked. -/
def unmaskedOperation? (masked : List String) (declaringType : String) (m : MethodDeclaration) :
    Option ScannedOperation :=
  if m.name ∈ masked then none else ScannedOperation.of? declaringType m

/-- The marked methods of host types, of the most derived type first, whose names neither are masked
nor are declared by a more derived one of the types. -/
def unmaskedOperations (masked : List String) : List HostType → List ScannedOperation
  | [] => []
  | t :: below =>
    t.methods.filterMap (unmaskedOperation? masked t.name)
      ++ unmaskedOperations (t.methodNames ++ masked) below

/-- On each of some host types, a marked method is the first one of its name, unless its name is
masked or is declared by a more derived one of the types. -/
def KeepsOverloads (masked : List String) (chain : List HostType) : Prop :=
  ∀ above t below, chain = above ++ t :: below → t.methods.Pairwise fun first m =>
    m.operation.isSome → m.name ∉ above.flatMap HostType.methodNames ++ masked →
      first.name ≠ m.name

variable {masked masked' : List String} {t : HostType} {chain : List HostType}

/-! ### Masked names -/

/-- A method has an unmasked operation if it is marked and its name is not masked. -/
theorem isSome_unmaskedOperation? {declaringType : String} {m : MethodDeclaration} :
    (unmaskedOperation? masked declaringType m).isSome ↔
      m.operation.isSome ∧ m.name ∉ masked := by
  rw [unmaskedOperation?]
  split
  case isTrue hmasked => simp [hmasked]
  case isFalse hmasked => simp [hmasked, ScannedOperation.of?]

/-- What counts of the masked names is which these are. -/
theorem unmaskedOperations_congr (h : ∀ n, n ∈ masked ↔ n ∈ masked') (chain : List HostType) :
    unmaskedOperations masked chain = unmaskedOperations masked' chain := by
  induction chain generalizing masked masked' with
  | nil => rfl
  | cons t below ih =>
    have hfirst : unmaskedOperation? masked t.name = unmaskedOperation? masked' t.name :=
      funext fun m => by simp only [unmaskedOperation?, h m.name]
    have hbelow : ∀ n, n ∈ t.methodNames ++ masked ↔ n ∈ t.methodNames ++ masked' := fun n => by
      rw [List.mem_append, List.mem_append, h n]
    rw [unmaskedOperations, unmaskedOperations, hfirst, ih hbelow]

/-- Methods that are left out mask no other names. -/
theorem unmaskedOperations_withoutOverloads (t : HostType) (chain : List HostType) :
    unmaskedOperations (t.withoutOverloads.methodNames ++ masked) chain =
      unmaskedOperations (t.methodNames ++ masked) chain := by
  refine unmaskedOperations_congr (fun n => ?_) chain
  rw [List.mem_append, List.mem_append, HostType.methodNames, HostType.withoutOverloads,
    firstByName, mem_map_firstByNameFrom, HostType.methodNames]
  simp

/-! ### What a scan finds -/

/-- On one type, the scan takes the marked ones of the first methods of each name. -/
theorem filterMap_firstByNameFrom_methods (t : HostType) (masked : List String) :
    (firstByNameFrom (·.2.name) masked (t.methods.map fun m => (t.name, m))).filterMap
        (fun m => ScannedOperation.of? m.1 m.2) =
      t.withoutOverloads.methods.filterMap (unmaskedOperation? masked t.name) := by
  rw [firstByNameFrom_map, List.filterMap_map]
  exact filterMap_firstByNameFrom _ (ScannedOperation.of? t.name) [] masked t.methods

/-- Along a chain it takes these from each type, masked by the names of the types before. -/
theorem filterMap_firstByNameFrom_chain (chain : List HostType) (masked : List String) :
    (firstByNameFrom (·.2.name) masked
        (chain.flatMap fun t => t.methods.map fun m => (t.name, m))).filterMap
          (fun m => ScannedOperation.of? m.1 m.2) =
      unmaskedOperations masked (chain.map HostType.withoutOverloads) := by
  induction chain generalizing masked with
  | nil => rfl
  | cons t below ih =>
    have hnames : (t.methods.map fun m => (t.name, m)).map (·.2.name) = t.methodNames :=
      List.map_map
    rw [List.flatMap_cons, firstByNameFrom_append, List.filterMap_append, hnames, ih,
      filterMap_firstByNameFrom_methods, List.map_cons, unmaskedOperations,
      unmaskedOperations_withoutOverloads]
    rfl

/-- **A scan finds** the operations of the first methods of each name on each host type. -/
theorem scanOperations_eq {r : Registry} {host root : String}
    (h : r.hostChain host root = .ok chain) :
    r.scanOperations host root =
      .ok (unmaskedOperations [] (chain.map HostType.withoutOverloads)) := by
  rw [Registry.scanOperations, h]
  exact congrArg Except.ok (filterMap_firstByNameFrom_chain chain [])

/-! ### Overloads that a scan does not find -/

theorem keepsOverloads_nil (masked : List String) : KeepsOverloads masked [] :=
  fun above t below heq => by simp at heq

/-- Along a chain, overloads are kept if they are on the first type and on the others, whose names
are masked by those of the first. -/
theorem keepsOverloads_cons :
    KeepsOverloads masked (t :: chain) ↔
      (t.methods.Pairwise fun first m =>
        (unmaskedOperation? masked t.name m).isSome → first.name ≠ m.name) ∧
      KeepsOverloads (t.methodNames ++ masked) chain := by
  simp only [isSome_unmaskedOperation?, and_imp]
  constructor
  · refine fun h => ⟨h [] t chain rfl, fun above u below heq => ?_⟩
    have hnext := h (t :: above) u below (by rw [heq, List.cons_append])
    simpa only [List.flatMap_cons, List.append_assoc, List.mem_append, or_left_comm] using hnext
  · rintro ⟨hfirst, hrest⟩ above u below heq
    cases above with
    | nil =>
      cases heq
      exact hfirst
    | cons s above =>
      obtain ⟨rfl, rfl⟩ := List.cons.inj heq
      have hnext := hrest above u below rfl
      simpa only [List.flatMap_cons, List.append_assoc, List.mem_append, or_left_comm] using hnext

/-- Lists of parts of two lists are these lists exactly if each part is the whole. -/
theorem append_eq_append_iff_of_sublist {α : Type} {l l' more more' : List α} (h : l.Sublist l')
    (hmore : more.Sublist more') : l ++ more = l' ++ more' ↔ l = l' ∧ more = more' := by
  refine ⟨fun heq => ?_, fun ⟨heq, heq'⟩ => by rw [heq, heq']⟩
  have hlength := congrArg List.length heq
  rw [List.length_append, List.length_append] at hlength
  have hle := hmore.length_le
  -- neither part can be shorter than the whole it stands for
  have hsame : l = l' := h.eq_of_length_le (by omega)
  exact ⟨hsame, List.append_cancel_left (hsame ▸ heq)⟩

/-- Without overloads a type has some of its operations, in their order. -/
theorem filterMap_withoutOverloads_sublist (t : HostType) (masked : List String) :
    (t.withoutOverloads.methods.filterMap
        (unmaskedOperation? masked t.withoutOverloads.name)).Sublist
      (t.methods.filterMap (unmaskedOperation? masked t.name)) :=
  (firstByNameFrom_sublist _ [] t.methods).filterMap _

/-- So has a chain. -/
theorem unmaskedOperations_sublist (masked : List String) (chain : List HostType) :
    (unmaskedOperations masked (chain.map HostType.withoutOverloads)).Sublist
      (unmaskedOperations masked chain) := by
  induction chain generalizing masked with
  | nil => exact .slnil
  | cons t below ih =>
    rw [List.map_cons, unmaskedOperations, unmaskedOperations, unmaskedOperations_withoutOverloads]
    exact (filterMap_withoutOverloads_sublist t masked).append (ih _)

/-- A chain loses no operation exactly if each of its types loses none. -/
theorem unmaskedOperations_withoutOverloads_eq_iff (masked : List String) (chain : List HostType) :
    unmaskedOperations masked (chain.map HostType.withoutOverloads) =
      unmaskedOperations masked chain ↔ KeepsOverloads masked chain := by
  induction chain generalizing masked with
  | nil => exact iff_of_true rfl (keepsOverloads_nil masked)
  | cons t below ih =>
    rw [List.map_cons, unmaskedOperations, unmaskedOperations, unmaskedOperations_withoutOverloads,
      append_eq_append_iff_of_sublist (filterMap_withoutOverloads_sublist t masked)
        (unmaskedOperations_sublist _ below), ih, keepsOverloads_cons]
    refine and_congr_left' ?_
    -- what is left is about the methods of the first type alone
    have hlevel := filterMap_firstByNameFrom_eq_iff (·.name) (unmaskedOperation? masked t.name) []
      t.methods
    simp only [List.not_mem_nil, not_false_eq_true, implies_true, true_and] at hlevel
    exact hlevel

/-- **No operation is lost** exactly if each marked method that no more derived host type masks is
the first one of its name on its type. In any case a scan finds, in order, just the operations of
the first methods of each name on each type. -/
theorem scanOperations_eq_unmasked_iff {r : Registry} {host root : String} {chain : List HostType}
    (h : r.hostChain host root = .ok chain) :
    r.scanOperations host root =
        .ok (unmaskedOperations [] (chain.map HostType.withoutOverloads)) ∧
      (r.scanOperations host root = .ok (unmaskedOperations [] chain) ↔
        KeepsOverloads [] chain) := by
  refine ⟨scanOperations_eq h, ?_⟩
  rw [scanOperations_eq h, Except.ok.injEq]
  exact unmaskedOperations_withoutOverloads_eq_iff [] chain

/-! ### Hosts with overloads -/

/-- A method that is marked as an operation. -/
def markedMethod (name : String) (parameters : List ParameterDeclaration) : MethodDeclaration :=
  { name, parameters, operation := some { isBound := true } }

/-- A type with methods, and one with the same methods and more. -/
def bookingCatalog : HostCatalog where
  hostTypes :=
    [{ name := "Trips", namespaceName := "Test", base := some "Api",
       methods := [markedMethod "Book" [⟨"trip", .reference "Trip"⟩]] },
     { name := "Api", namespaceName := "Test", base := some "ApiBase",
       methods := [markedMethod "Book" [⟨"trip", .reference "Trip"⟩],
         markedMethod "Cancel" [⟨"trip", .reference "Trip"⟩], { name := "Cancel" }] }]

/-- The registry of bookings. -/
def bookingRegistry : Registry := bookingCatalog.toRegistry.toOption.getD .empty

/-- An overload without a marker hides nothing: a scan finds the booking of trips, and the
cancellation that they take from their base type. -/
theorem scanOperations_booking :
    bookingRegistry.hostChain "Trips" "ApiBase" = .ok bookingCatalog.hostTypes ∧
      (bookingRegistry.scanOperations "Trips" "ApiBase").map
        (fun found => found.map fun s => (s.declaringType, s.name))
          = .ok [("Trips", "Book"), ("Api", "Cancel")] := by
  have hchain : bookingRegistry.hostChain "Trips" "ApiBase" = .ok bookingCatalog.hostTypes := by
    cbv
  have hkeeps : KeepsOverloads [] bookingCatalog.hostTypes := by
    rw [bookingCatalog, keepsOverloads_cons, keepsOverloads_cons]
    refine ⟨?_, ?_, keepsOverloads_nil _⟩
    · simp
    · simp [unmaskedOperation?, ScannedOperation.of?, markedMethod, HostType.methodNames]
  refine ⟨hchain, ?_⟩
  rw [(scanOperations_eq_unmasked_iff hchain).2.2 hkeeps]
  cbv

/-- Persons and trips can be rated. -/
def ratingCatalog : HostCatalog where
  hostTypes :=
    [{ name := "Api", namespaceName := "Test", base := some "ApiBase",
       methods := [markedMethod "Rate" [⟨"person", .reference "Person"⟩],
         markedMethod "Rate" [⟨"trip", .reference "Trip"⟩]] }]

/-- The registry of ratings. -/
def ratingRegistry : Registry := ratingCatalog.toRegistry.toOption.getD .empty

/-- The catalog of ratings is accepted, and a scan finds one of its two overloads. -/
theorem not_keepsOverloads_rating :
    ratingCatalog.validate = .ok () ∧ ratingCatalog.toRegistry = .ok ratingRegistry ∧
      ratingRegistry.hostChain "Api" "ApiBase" = .ok ratingCatalog.hostTypes ∧
      (unmaskedOperations [] ratingCatalog.hostTypes).map (fun s => (s.name, s.parameters)) =
        [("Rate", [⟨"person", .reference "Person"⟩]), ("Rate", [⟨"trip", .reference "Trip"⟩])] ∧
      (ratingRegistry.scanOperations "Api" "ApiBase").map
        (fun found => found.map fun s => (s.name, s.parameters)) =
          .ok [("Rate", [⟨"person", .reference "Person"⟩])] := by
  refine ⟨by cbv, by cbv, by cbv, by cbv, by cbv⟩

end FacetModel
