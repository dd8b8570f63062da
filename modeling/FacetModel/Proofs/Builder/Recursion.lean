import FacetModel.Proofs.Builder.Bases

/-!
# Registration by nested calls

A type can be registered by a recursion over its declaration (`Builder.addNested?`): the type is put
in without base type, a nested call brings in the base type, which is recorded once it is there, and
further nested calls bring in what the properties refer to. A call for a registered type ends at
once, whether or not the calls for its neighbours have ended.

Each nested call that does not end at once leaves fewer types to register. So the calls are nested
at most as deep as there are unregistered types, and they bring in what `Builder.register` does
(`Builder.addNested?_eq`): neither is a base type recorded too late, nor does it matter that names
which wait are visited in a call of their own.
-/

namespace FacetModel

namespace Builder

/-! ### Nested calls -/

/-- The builder with a type that has no base type yet. -/
def insertBare (b : Builder) (name : String) (t : StructuralType) : Builder :=
  { b with types := b.types.insert name
            { namespaceName := t.namespaceName, kind := t.kind, baseType := none, keys := t.keys } }

/-- The builder in which a registered type has a base type. -/
def recordBase (b : Builder) (name base : String) : Builder :=
  { b with types := b.types.modify name fun p => { p with baseType := some base } }

section Calls

variable (call : Builder → String → Option (Builder × Bool))

/-- Calls for the base type of a type, which is recorded if it is there in the end. -/
def addBase? (b : Builder) (name : String) (base? : Option String) : Option Builder :=
  match base? with
  | none => some b
  | some base =>
    (call b base).map fun answer => if answer.2 then answer.1.recordBase name base else answer.1

/-- Brings in what a property refers to: an enum type at once, a structural type by a call. -/
def addReference? (b : Builder) (name : String) : Option Builder :=
  if (b.registry.enum? name).isSome then some ((b.addEnumType? name).getD b)
  else if (b.registry.structural? name).isSome then (call b name).map (·.1)
  else some b

end Calls

/-- Registers a type by calls that are nested at most to some depth, and says whether the type is
there in the end. -/
def addNested? : Nat → Builder → String → Option (Builder × Bool)
  | 0, _, _ => none
  | depth + 1, b, name =>
    if b.isStructuralType name then some (b, true)
    else
      match b.registry.structural? name with
      | none => some (b, false)
      | some t =>
        (addBase? (addNested? depth) (b.insertBare name t) name t.base).bind fun b =>
          (t.references.foldlM (addReference? (addNested? depth)) b).map (·, true)

/-! ### Steps that can change places with registrations -/

variable {b : Builder} {name base : String} {t : StructuralType}

theorem isStructuralType_addEnumTypes (b : Builder) (names : List String) (name : String) :
    (b.addEnumTypes names).isStructuralType name = b.isStructuralType name :=
  isStructuralType_congr (addEnumTypes_types b names).1 name

/-- What a type is registered as depends on what is declared and what is registered. -/
theorem pendingOf_congr {b' : Builder} (hregistry : b'.registry = b.registry)
    (hregistered : ∀ name, b'.isStructuralType name = b.isStructuralType name)
    (t : StructuralType) : b'.pendingOf t = b.pendingOf t := by
  have hknows : b'.knows = b.knows := by
    funext name
    rw [knows, knows, hregistry, hregistered]
  rw [pendingOf, pendingOf, hknows]

/-- Enum types can be added before or after a type is put in. -/
theorem insertType_addEnumTypes (b : Builder) (names : List String) (name : String)
    (t : StructuralType) :
    (b.addEnumTypes names).insertType name t = (b.insertType name t).addEnumTypes names := by
  have hpending : (b.addEnumTypes names).pendingOf t = b.pendingOf t :=
    pendingOf_congr (addEnumTypes_types b names).2 (isStructuralType_addEnumTypes b names) t
  refine SameButTypes.ext
    ((b.sameButTypes_addEnumTypes names).trans (sameButTypes_insertType _ name t))
    ((b.sameButTypes_insertType name t).trans (sameButTypes_addEnumTypes _ names))
    (fun other => ?_) fun other => ?_
  · rw [types_insertType, (addEnumTypes_types _ _).1, (addEnumTypes_types _ _).1, types_insertType,
      hpending]
  · simp only [enumTypes_insertType, enumTypes_addEnumTypes, (addEnumTypes_types _ _).2,
      registry_insertType]
    -- either list may be the one that brings in the enum type
    by_cases hnames : other ∈ names <;> by_cases hreferences : other ∈ t.references <;>
      simp [hnames, hreferences]

/-- Enum types can be added before or after types are registered. -/
theorem register_addEnumTypes (b : Builder) (enums names : List String) :
    (b.addEnumTypes enums).register names = (b.register names).addEnumTypes enums :=
  register_comm (·.addEnumTypes enums) (P := fun _ => True)
    (fun b => (addEnumTypes_types b enums).2) (fun b => isStructuralType_addEnumTypes b enums)
    (fun b name t _ _ _ => ⟨trivial, insertType_addEnumTypes b enums name t⟩) trivial names

/-! ### Base types that are recorded later -/

theorem get?_recordBase (b : Builder) (name base other : String) :
    (b.recordBase name base).types.get? other =
      if other = name then (b.types.get? name).map fun p => { p with baseType := some base }
      else b.types.get? other := by
  rw [recordBase, NameMap.modify]
  split
  · rename_i p hp
    rw [NameMap.get?_insert, hp]
    rfl
  · rename_i hnone
    split
    · rename_i hname
      rw [hname, hnone]
      rfl
    · rfl

theorem isStructuralType_recordBase (b : Builder) (name base other : String) :
    (b.recordBase name base).isStructuralType other = b.isStructuralType other := by
  rw [isStructuralType, isStructuralType, NameMap.contains, NameMap.contains, get?_recordBase]
  split
  · rename_i hname
    rw [hname, Option.isSome_map]
  · rfl

/-- A base type can be recorded before or after another type is put in. -/
theorem insertType_recordBase (hb : b.isStructuralType name = true) {other : String}
    (hother : b.isStructuralType other = false) (base : String) (t : StructuralType) :
    (b.recordBase name base).insertType other t = (b.insertType other t).recordBase name base := by
  have hne : other ≠ name := by
    rintro rfl
    cases hb.symm.trans hother
  -- the base type is of a type that is registered already, so the same is known without it
  have hpending : (b.recordBase name base).pendingOf t = b.pendingOf t :=
    pendingOf_congr (by rfl) (isStructuralType_recordBase b name base) t
  have hrecord : ∀ b : Builder, b.SameButTypes (b.recordBase name base) :=
    fun b => ⟨_, b.enumTypes, rfl⟩
  refine SameButTypes.ext ((hrecord b).trans (sameButTypes_insertType _ other t))
    ((b.sameButTypes_insertType other t).trans (hrecord _)) (fun n => ?_) fun n => ?_
  · rw [types_insertType, get?_recordBase, types_insertType, NameMap.get?_insert, get?_recordBase,
      hpending, NameMap.get?_insert_of_ne _ _ hne.symm, NameMap.get?_insert]
    by_cases hn : n = other
    · rw [if_pos hn, if_neg (hn ▸ hne), if_pos hn]
    · rw [if_neg hn, if_neg hn]
  · exact (enumTypes_insertType _ other t n).trans (enumTypes_insertType b other t n).symm

/-- A base type can be recorded before or after other types are registered. -/
theorem register_recordBase (hb : b.isStructuralType name = true) (base : String)
    (names : List String) :
    (b.recordBase name base).register names = (b.register names).recordBase name base := by
  refine register_comm (·.recordBase name base) (P := fun b => b.isStructuralType name = true)
    (fun _ => rfl) (fun b => isStructuralType_recordBase b name base)
    (fun b other t hb hother _ => ⟨?_, ?_⟩) hb names
  · exact isStructuralType_insertType_iff.2 (.inr hb)
  · exact insertType_recordBase hb hother base t

/-! ### How deep the calls are nested -/

/-- The more types are registered, the fewer are left. -/
theorem unregistered_le {b' : Builder} (hregistry : b'.registry = b.registry)
    (h : ∀ name, b.isStructuralType name = true → b'.isStructuralType name = true) :
    b'.unregistered ≤ b.unregistered := by
  rw [unregistered, unregistered, hregistry]
  refine length_filter_le fun name _ hname => ?_
  simp only [decide_eq_true_eq, NameMap.mem_names_iff, ← isStructuralType_iff] at hname ⊢
  exact mt (h name) hname

theorem unregistered_register_le (b : Builder) (names : List String) :
    (b.register names).unregistered ≤ b.unregistered :=
  unregistered_le (b.registeredFrom_register names).registry
    fun _ => isStructuralType_register names

theorem unregistered_addEnumTypes_le (b : Builder) (names : List String) :
    (b.addEnumTypes names).unregistered ≤ b.unregistered :=
  unregistered_le (addEnumTypes_types b names).2
    fun name h => (isStructuralType_addEnumTypes b names name).trans h

theorem isStructuralType_insertBare_iff {other : String} :
    (b.insertBare name t).isStructuralType other = true ↔
      other = name ∨ b.isStructuralType other = true := isStructuralType_insert b name _ other

/-- A nested call, made after its type was put in, has fewer types left to register than the call
that makes it. -/
theorem unregistered_insertBare_lt (ht : b.Missing name t) :
    (b.insertBare name t).unregistered < b.unregistered := by
  refine Nat.lt_of_le_of_lt (unregistered_le ?_ fun other hother => ?_)
    (unregistered_insertType_lt ht.unregistered ht.declared)
  · exact (registry_insertType b name t).symm
  · exact isStructuralType_insertBare_iff.2 (isStructuralType_insertType_iff.1 hother)

/-! ### What nested calls bring in -/

/-- The builder with one more type, whose base type is recorded already. -/
def insertPending (b : Builder) (name : String) (t : StructuralType) : Builder :=
  { b with types := b.types.insert name (b.pendingOf t) }

/-- A type that is put in was known before, being declared, so base types are kept or left out as at
the start. -/
theorem knows_insertBare (ht : b.Missing name t) : (b.insertBare name t).knows = b.knows := by
  funext other
  have hregistry : (b.insertBare name t).registry = b.registry := rfl
  rw [knows, knows, hregistry, Bool.eq_iff_iff, Bool.or_eq_true, Bool.or_eq_true,
    isStructuralType_insertBare_iff]
  constructor
  · rintro (hdeclared | rfl | hregistered)
    · exact .inl hdeclared
    · exact .inl (by rw [ht.declared]; rfl)
    · exact .inr hregistered
  · exact Or.imp_right .inr

/-- After the calls for a base type it is recorded as if that had been done at the start. -/
theorem addBase?_eq {call : Builder → String → Option (Builder × Bool)} (ht : b.Missing name t)
    (hcall : ∀ base, call (b.insertBare name t) base
      = some ((b.insertBare name t).register [base], (b.insertBare name t).knows base)) :
    addBase? call (b.insertBare name t) name t.base
      = some ((b.insertPending name t).register t.base.toList) := by
  rw [knows_insertBare ht] at hcall
  cases hbase : t.base with
  | none =>
    have hpending : b.insertPending name t = b.insertBare name t := by
      rw [insertPending, pendingOf, hbase]
      rfl
    rw [addBase?, Option.toList_none, register_nil, hpending]
  | some base =>
    rw [addBase?, hcall, Option.map_some, Option.toList_some]
    dsimp only
    -- the base type is recorded late, but only if it would have been kept at the start
    cases hknows : b.knows base with
    | false =>
      have hpending : b.insertPending name t = b.insertBare name t := by
        rw [insertPending, pendingOf, hbase, Option.filter_some, hknows]
        rfl
      rw [hpending]
      rfl
    | true =>
      have hpending : b.insertPending name t = (b.insertBare name t).recordBase name base := by
        rw [insertPending, pendingOf, hbase, Option.filter_some, hknows, recordBase, NameMap.modify,
          insertBare, NameMap.get?_insert_self]
        congr 1
        refine NameMap.ext_get? fun other => ?_
        simp only [NameMap.get?_insert]
        split <;> rfl
      rw [hpending, register_recordBase (isStructuralType_insertBare_iff.2 (.inl rfl))]
      rfl

/-- What a property refers to is an enum type that is added or a type that is registered. -/
theorem addReference?_eq {call : Builder → String → Option (Builder × Bool)}
    (hcall : call b name = some (b.register [name], b.knows name)) :
    addReference? call b name
      = some (if (b.registry.enum? name).isSome then b.addEnumTypes [name]
        else b.register [name]) := by
  rw [addReference?]
  split
  · rfl
  · split
    · rw [hcall, Option.map_some]
    · rename_i hundeclared
      rw [Option.not_isSome_iff_eq_none] at hundeclared
      cases hb : b.isStructuralType name with
      | true => rw [register_of_registered hb, register_nil]
      | false => rw [register_of_undeclared hb hundeclared, register_nil]

/-- The calls for all that properties refer to. -/
theorem foldlM_addReference? {call : Builder → String → Option (Builder × Bool)} {depth : Nat}
    (hcall : ∀ b : Builder, b.unregistered < depth → ∀ name,
      call b name = some (b.register [name], b.knows name))
    (hb : b.unregistered < depth) (names : List String) :
    names.foldlM (addReference? call) b
      = some ((b.addEnumTypes names).register
          (names.filter fun name => (b.registry.enum? name).isNone)) := by
  induction names generalizing b with
  | nil => exact congrArg some (register_nil b).symm
  | cons name rest ih =>
    rw [List.foldlM_cons, addReference?_eq (hcall b hb name)]
    cases henum : b.registry.enum? name with
    | some d =>
      have hnext := ih (Nat.lt_of_le_of_lt (unregistered_addEnumTypes_le b [name]) hb)
      rw [(addEnumTypes_types b [name]).2] at hnext
      rw [List.filter_cons_of_neg (by simp [henum])]
      exact hnext
    | none =>
      have hnext := ih (Nat.lt_of_le_of_lt (unregistered_register_le b [name]) hb)
      rw [(b.registeredFrom_register [name]).registry] at hnext
      -- a name of no enum type adds none, so those of the other names can come first
      have hskip : b.addEnumTypes (name :: rest) = b.addEnumTypes rest := by
        have hnone : (b.addEnumType? name).getD b = b := by
          rcases b.addEnumType?_cases name with heq | ⟨d, hd, -⟩
          · exact heq
          · cases henum.symm.trans hd
        rw [addEnumTypes, List.foldl_cons, hnone]
        rfl
      have happend := (b.addEnumTypes rest).register_append [name]
        (rest.filter fun name => (b.registry.enum? name).isNone)
      rw [List.singleton_append, register_addEnumTypes b rest [name]] at happend
      rw [List.filter_cons_of_pos (by simp [henum]), hskip, happend]
      exact hnext

/-- **Nested calls bring in what is registered**, if they may be nested deeper than there are
unregistered types; and they say whether the type is declared or was registered. -/
theorem addNested?_eq {depth : Nat} (hdepth : b.unregistered < depth) (name : String) :
    addNested? depth b name = some (b.register [name], b.knows name) := by
  induction depth generalizing b name with
  | zero => cases hdepth
  | succ depth ih =>
    rw [addNested?]
    split
    · rename_i hb
      rw [register_of_registered hb, register_nil, knows, hb, Bool.or_true]
    · rename_i hb
      have hb := Bool.eq_false_iff.2 hb
      split
      · rename_i hnone
        rw [register_of_undeclared hb hnone, register_nil, knows, hnone, hb]
        rfl
      · rename_i t hdeclared
        have ht : b.Missing name t := ⟨hb, hdeclared⟩
        have hbare : (b.insertBare name t).unregistered < depth :=
          Nat.lt_of_lt_of_le (unregistered_insertBare_lt ht) (Nat.le_of_lt_succ hdepth)
        -- the calls for the references come after that for the base type, which leaves no more to
        -- register
        have hpending : ((b.insertPending name t).register t.base.toList).unregistered < depth := by
          refine Nat.lt_of_le_of_lt (unregistered_register_le _ _)
            (Nat.lt_of_le_of_lt (unregistered_le ?_ fun other hother => ?_) hbare)
          · rfl
          · have hthere := isStructuralType_insertBare_iff.1 hother
            exact (isStructuralType_insert b name _ other).2 hthere
        rw [addBase?_eq ht fun base => ih hbare base, Option.bind_some,
          foldlM_addReference? (fun b hb name => ih hb name) hpending t.references, Option.map_some,
          (registeredFrom_register _ _).registry, ← register_addEnumTypes, ← register_append,
          register_of_declared hb hdeclared, List.append_nil, knows, hdeclared]
        rfl

end Builder

end FacetModel
