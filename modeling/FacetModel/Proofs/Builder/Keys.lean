import FacetModel.Proofs.Builder.Inheritance
import FacetModel.Proofs.Model.Keys

/-!
# Keys that are added to a type

A key that is added to a registered entity type is one more key of this type in the model, and all
other types stay as they are (`Builder.build_addKey?`). If the type had keys, the key of the types
that are of it gets one more property, unless there are keys below it. If it had none, the key that
it had by a name or from a base type is replaced (`Builder.addKey?_adds_iff`).
-/

namespace FacetModel

/-- The keys of a type with one more. -/
def PendingType.keysWith (p : PendingType) (key : String) : List String :=
  if key ∈ p.keys then p.keys else p.keys ++ [key]

/-- A key that is added is among the keys, whether or not it was before. -/
theorem PendingType.mem_keysWith (p : PendingType) (key : String) : key ∈ p.keysWith key := by
  rw [keysWith]
  split
  case isTrue h => exact h
  case isFalse => exact List.mem_append_right _ List.mem_cons_self

theorem PendingType.keysWith_ne_nil (p : PendingType) (key : String) : p.keysWith key ≠ [] :=
  List.ne_nil_of_mem (p.mem_keysWith key)

/-! ### Registered types with other values -/

/-- Inserting under a name that is there replaces the value in its place. -/
theorem NameMap.insertEntry_of_mem {α : Type} {name : String} {l : List (String × α)}
    (h : l.Pairwise fun a b => a.1 < b.1) (hmem : name ∈ l.map (·.1)) (value : α) :
    insertEntry name value l = l.map fun e => if e.1 = name then (name, value) else e := by
  induction l with
  | nil => cases hmem
  | cons e rest ih =>
    obtain ⟨other, old⟩ := e
    obtain ⟨hfirst, hrest⟩ := List.pairwise_cons.1 h
    rw [insertEntry, List.map_cons]
    rcases List.mem_cons.1 hmem with heq | hmem
    · subst heq
      have hkept : rest.map (fun e => if e.1 = name then (name, value) else e) = rest := by
        refine (List.map_congr_left fun e he => ?_).trans (List.map_id rest)
        exact if_neg (String.ne_of_lt (hfirst e he)).symm
      rw [if_neg (String.lt_irrefl name), if_pos rfl, hkept, if_pos rfl]
    · obtain ⟨e, he, rfl⟩ := List.mem_map.1 hmem
      have hlt := hfirst e he
      rw [if_neg (String.lt_asymm hlt), if_neg (String.ne_of_lt hlt).symm,
        if_neg (String.ne_of_lt hlt), ih hrest hmem]

/-- The entries of the map stay in their order then. -/
theorem NameMap.entries_insert {α : Type} {m : NameMap α} {name : String} {old : α}
    (h : m.get? name = some old) (value : α) :
    (m.insert name value).entries =
      m.entries.map fun e => if e.1 = name then (name, value) else e :=
  insertEntry_of_mem m.sorted (mem_names h) value

namespace Builder

variable {b b' : Builder} {name type key : String} {p : PendingType}

theorem SameTypes.isEntityType (h : b.SameTypes b') (name : String) :
    b'.isEntityType name = b.isEntityType name := by
  have hkind := congrArg (Option.any fun q => q.1 == .entity) (h.types name)
  rwa [Option.any_map, Option.any_map] at hkind

theorem SameTypes.contains_enumTypes (h : b.SameTypes b') (name : String) :
    b'.enumTypes.contains name = b.enumTypes.contains name := by
  have hnames := congrArg Option.isSome (h.enumTypes name)
  rwa [Option.isSome_map, Option.isSome_map] at hnames

/-- Types are described alike, whatever the keys of other types are. -/
theorem SameTypes.describe (h : b.SameTypes b') (name : String) (p : PendingType) :
    b'.describe name p = b.describe name p := by
  have hdeclared : b'.declaredProperties name = b.declaredProperties name := by
    rw [declaredProperties, definition?, h.isStructuralType, h.registry]
    rfl
  have hnavigation : b'.navigationOf? = b.navigationOf? := by
    funext q
    rw [navigationOf?, navigationOf?]
    simp only [h.isEntityType]
  have hstructural : b'.isStructural = b.isStructural := by
    funext q
    rw [isStructural, isStructural]
    simp only [h.contains_enumTypes, h.isEntityType, h.isStructuralType]
  rw [Builder.describe, Builder.describe, structuralProperties, structuralProperties,
    navigationProperties, navigationProperties, keysOf, keysOf, hdeclared, hnavigation, hstructural]

/-! ### The model with one more key -/

theorem findType?_build (hp : b.types.get? type = some p) :
    b.build.findType? type = some (b.describe type p) :=
  find?_of_nodup ModelType.name b.nodup_map_name_types_build (describe_mem_types_build hp)

/-- Keys that a registered type gets are the keys that it is described with, if there are any. -/
theorem setKeysOf_describe {keys : List String} (h : keys ≠ []) (b : Builder) (type : String)
    (p : PendingType) :
    (b.describe type p).setKeysOf type keys = b.describe type { p with keys } := by
  have hkeys : b.keysOf type { p with keys } = keys := if_pos (.inr (.inl h))
  rw [describe, describe, hkeys]
  exact if_pos rfl

/-- Keys that a type has already can be set again. -/
theorem setKeys_build_self (hp : b.types.get? type = some p) (hkeys : p.keys ≠ []) :
    b.build.setKeys type p.keys = b.build := by
  have htypes : b.build.types.map (·.setKeysOf type p.keys) = b.build.types := by
    refine (List.map_congr_left fun t ht => ?_).trans (List.map_id _)
    by_cases hname : t.name = type
    · obtain ⟨q, hq, heq⟩ := mem_types_build.1 ht
      rw [hname] at hq heq
      cases hp.symm.trans hq
      rw [heq]
      exact setKeysOf_describe hkeys b type p
    · exact ModelType.setKeysOf_of_ne hname
  rw [Model.setKeys, htypes]

/-- Keys given to a registered type are those of the type in the model, and change nothing else
there. -/
theorem build_withKeys (hp : b.types.get? type = some p) {keys : List String} (hkeys : keys ≠ []) :
    (b.withKeys type p keys).build = b.build.setKeys type keys := by
  have hsame := sameTypes_withKeys hp keys
  have hentries : (b.withKeys type p keys).types.entries = b.types.entries.map fun e =>
      if e.1 = type then (type, { p with keys }) else e := NameMap.entries_insert hp _
  have htypes : (b.withKeys type p keys).build.types =
      b.build.types.map (·.setKeysOf type keys) := by
    rw [build, build, hentries, List.map_map, List.map_map]
    refine List.map_congr_left fun e he => ?_
    rw [Function.comp_apply, Function.comp_apply, hsame.describe]
    by_cases hname : e.1 = type
    · have hold : e.2 = p := by
        have hget := (b.types.get?_eq_some_iff e.1 e.2).2 he
        rw [hname, hp] at hget
        exact (Option.some.inj hget).symm
      rw [if_pos hname, hold, hname, setKeysOf_describe hkeys]
    · rw [if_neg hname, ModelType.setKeysOf_of_ne hname]
  rw [Model.setKeys, ← htypes]
  rfl

/-- **A key that is added** is one more key of its type, and all else in the model stays. -/
theorem build_addKey? (hp : b.types.get? type = some p) (hkind : p.kind = .entity) (key : String) :
    ∃ b', b.addKey? type key = some b' ∧ b'.build = b.build.setKeys type (p.keysWith key) := by
  have hadd : b.addKey? type key =
      some (if key ∈ p.keys then b else b.withKeys type p (p.keys ++ [key])) := by
    rw [addKey?, hp]
    dsimp only
    rw [if_pos hkind]
    split <;> rfl
  refine ⟨_, hadd, ?_⟩
  rw [PendingType.keysWith]
  split
  case isTrue hmem => exact (setKeys_build_self hp (List.ne_nil_of_mem hmem)).symm
  case isFalse => exact build_withKeys hp (List.append_ne_nil_of_right_ne_nil _ (by simp))

/-! ### Keys that are kept -/

/-- Which types are of which is the same in the builder and in its model. -/
theorem isA_build_iff {other : String} : b.build.IsA name other ↔ b.IsA name other := by
  rw [Model.IsA, hasBase_build_eq]
  rfl

/-- The key of a type is kept when a key is added to a type that it is of: there are keys below the
latter, or this has keys of its own, or the key has no other properties than the one that is
added. -/
def KeepsKey (b : Builder) (type key name : String) : Prop :=
  b.build.KeysBelow name type ∨ (∃ p, b.types.get? type = some p ∧ p.keys ≠ []) ∨
    ∀ k ∈ b.build.keyProperties name, k = key

/-- A type is in the lineage of the types that are of it. -/
theorem mem_lineage_build (hp : b.types.get? type = some p) (hname : b.IsA name type) :
    ∃ t ∈ b.build.lineage name, t.name = type := by
  have hsome : (b.build.findType? type).isSome := by
    rw [findType?_build hp]
    rfl
  exact (Model.mem_lineage_iff b.nodup_map_name_types_build hsome).2 (isA_build_iff.2 hname)

/-- The key of a type contains what it was before exactly if the new key adds to it. -/
theorem keyProperties_build_subset_iff (hp : b.types.get? type = some p) (hname : b.IsA name type)
    (key : String) :
    b.build.keyProperties name ⊆ (b.build.setKeys type (p.keysWith key)).keyProperties name ↔
      b.KeepsKey type key name := by
  have hlineage := mem_lineage_build hp hname
  obtain ⟨hbelow, hset⟩ := Model.keyProperties_setKeys hlineage (p.keysWith_ne_nil key)
  -- keys of a type in between hide the new ones
  by_cases hkeysBelow : b.build.KeysBelow name type
  · rw [hbelow hkeysBelow]
    exact iff_of_true (List.Subset.refl _) (.inl hkeysBelow)
  · rw [hset hkeysBelow, KeepsKey, or_iff_right hkeysBelow]
    -- without keys of its own, the type now has the new key alone
    by_cases hkeys : p.keys = []
    · have hother : ¬ ∃ q, b.types.get? type = some q ∧ q.keys ≠ [] := by
        rintro ⟨q, hq, hne⟩
        cases hp.symm.trans hq
        exact hne hkeys
      rw [or_iff_right hother, PendingType.keysWith, hkeys, if_neg List.not_mem_nil]
      exact forall₂_congr fun k _ => List.mem_singleton
    · have hown : b.build.keyProperties name = p.keys := by
        rw [← (Model.keyProperties_setKeys hlineage hkeys).2 hkeysBelow, setKeys_build_self hp hkeys]
      refine iff_of_true ?_ (.inl ⟨p, hp, hkeys⟩)
      rw [hown, PendingType.keysWith]
      split
      · exact List.Subset.refl _
      · exact List.subset_append_left _ _

/-- **What a key adds.** A key that is added to an entity type belongs to the key of this type. It
belongs to the keys of the types that are of it as well, apart from those that have keys below it,
and walks that look for these keys end. What belonged to one of these keys before stays in it
exactly if the key is kept, and all other keys stay the same. So no change is accepted that was
rejected before just if the keys of all entity sets are kept. -/
theorem addKey?_adds_iff (b : Builder) {type : String} (h : b.isEntityType type = true)
    (key : String) :
    ∃ b', b.addKey? type key = some b' ∧
      key ∈ b'.build.keyProperties type ∧
      (∀ name, b.IsA name type →
        b'.build.EndsWith ModelType.ownKeys? name (some (b'.build.keyProperties name)) ∧
        (key ∈ b'.build.keyProperties name ↔
          (b.build.KeysBelow name type → key ∈ b.build.keyProperties name)) ∧
        (b.build.keyProperties name ⊆ b'.build.keyProperties name ↔ b.KeepsKey type key name)) ∧
      (∀ name, ¬ b.IsA name type → b'.build.keyProperties name = b.build.keyProperties name) ∧
      ((∀ c : Change, c.validate b'.build = .ok () → c.validate b.build = .ok ()) ↔
        ∀ set s, b.build.findEntitySet? set = some s → b.IsA s.elementType type →
          b.KeepsKey type key s.elementType) := by
  obtain ⟨p, hp, hkind⟩ := (Option.any_eq_true _ _).1 h
  obtain ⟨b', hadd, hbuild⟩ := build_addKey? hp (eq_of_beq hkind) key
  have hkeys := p.keysWith_ne_nil key
  have hmem := p.mem_keysWith key
  refine ⟨b', hadd, ?_⟩
  rw [hbuild]
  refine ⟨?_, ?_, ?_, ?_⟩
  · have hset := (Model.keyProperties_setKeys (mem_lineage_build hp .refl) hkeys).2
    rwa [hset Model.not_keysBelow_self]
  · intro name hname
    have hlineage := mem_lineage_build hp hname
    obtain ⟨hbelow, hset⟩ := Model.keyProperties_setKeys hlineage hkeys
    refine ⟨Model.endsWith_setKeys hlineage hkeys, ?_, keyProperties_build_subset_iff hp hname key⟩
    by_cases hkeysBelow : b.build.KeysBelow name type
    · rw [hbelow hkeysBelow, forall_prop_of_true hkeysBelow]
    · rw [hset hkeysBelow]
      exact iff_of_true hmem fun h => absurd h hkeysBelow
  · intro name hname
    exact Model.keyProperties_setKeys_of_not_isA (isA_build_iff.not.2 hname)
  · have hsets : (b.build.setKeys type (p.keysWith key)).entitySets = b.build.entitySets := rfl
    rw [Model.forall_validate_imp_iff hsets]
    refine forall₃_congr fun set s _ => ?_
    by_cases hs : b.IsA s.elementType type
    · rw [forall_prop_of_true hs]
      exact keyProperties_build_subset_iff hp hs key
    · rw [Model.keyProperties_setKeys_of_not_isA (isA_build_iff.not.2 hs)]
      exact iff_of_true (List.Subset.refl _) fun h => absurd h hs

/-! ### Persons with codes -/

/-- Persons have a key that is declared, and employees are persons. -/
def codeCatalog : HostCatalog where
  structuralTypes :=
    [{ name := "Employee", namespaceName := "Staff", base := some "Person" },
     { name := "Person", namespaceName := "Staff", keys := ["Id"],
       properties := [{ name := "Id", type := .primitive .int32 },
         { name := "Code", type := .primitive .string }] }]

/-- A builder with persons and employees, and an entity set of employees. -/
def codeBuilder : Builder :=
  meetAll { registry := codeCatalog.toRegistry.toOption.getD .empty, namespaceName := "Staff",
            containerName := "Container" }
    [.structuralType "Employee", .entitySet "Employees" "Employee" .registered]

/-- A code is one more property of the key of persons, and so of employees. -/
theorem addKey?_adds_iff_code :
    codeBuilder.Reachable ∧ codeBuilder.isEntityType "Person" = true ∧
      ∃ b', codeBuilder.addKey? "Person" "Code" = some b' ∧
        "Code" ∈ b'.build.keyProperties "Employee" ∧
        codeBuilder.build.keyProperties "Employee" = ["Id"] ∧
        "Id" ∈ b'.build.keyProperties "Employee" ∧
        ∀ c : Change, c.validate b'.build = .ok () → c.validate codeBuilder.build = .ok () := by
  have hentity : codeBuilder.isEntityType "Person" = true := by cbv
  have hkeeps (name : String) : codeBuilder.KeepsKey "Person" "Code" name := by
    refine .inr (.inl ⟨⟨"Staff", .entity, none, ["Id"]⟩, by cbv, by simp⟩)
  have hemployee : codeBuilder.IsA "Employee" "Person" := .single (by cbv)
  have hnone : ¬ codeBuilder.build.KeysBelow "Employee" "Person" := by
    have hkeys : ((codeBuilder.build.lineage "Employee").takeWhile (·.name ≠ "Person")).map
        (·.keys) = [[]] := by cbv
    rintro ⟨t, ht, hne⟩
    exact hne (List.mem_singleton.1 (hkeys ▸ List.mem_map_of_mem ht))
  have hid : codeBuilder.build.keyProperties "Employee" = ["Id"] := by cbv
  obtain ⟨b', hadd, -, hbelow, -, hvalid⟩ := addKey?_adds_iff codeBuilder hentity "Code"
  obtain ⟨-, hcode, hkept⟩ := hbelow "Employee" hemployee
  refine ⟨(Reachable.start _ _ _).meetAll _, hentity, b', hadd,
    hcode.2 fun h => absurd h hnone, hid, ?_, hvalid.2 fun _ s _ _ => hkeeps s.elementType⟩
  exact hkept.2 (hkeeps "Employee") (hid ▸ List.mem_singleton_self "Id")

/-- A person with a property that is a key by its name. -/
def personCatalog : HostCatalog where
  structuralTypes :=
    [{ name := "Person", namespaceName := "Test.Models",
       properties := [{ name := "Id", type := .primitive .int32 },
         { name := "Code", type := .primitive .string }] }]

/-- A builder with an entity set of persons. -/
def personBuilder : Builder :=
  meetAll { registry := personCatalog.toRegistry.toOption.getD .empty, namespaceName := "Test",
            containerName := "Container" }
    [.structuralType "Person", .entitySet "People" "Person" .registered]

/-- The builder with a code in the key of persons. -/
def codedPersonBuilder : Builder := (personBuilder.addKey? "Person" "Code").getD personBuilder

/-- An update of the person with a code. -/
def codeUpdate : Change :=
  { entitySet := "People", operation := .update, key := [("Code", .scalar (.str "x"))] }

/-- A code replaces the property in the key of persons, and an update that has only the code is
accepted then. -/
theorem not_keepsKey_person :
    personCatalog.validate.isOk = true ∧ personBuilder.Reachable ∧
      personBuilder.addKey? "Person" "Code" = some codedPersonBuilder ∧
      personBuilder.build.keyProperties "Person" = ["Id"] ∧
      codedPersonBuilder.build.keyProperties "Person" = ["Code"] ∧
      codeUpdate.validate personBuilder.build = .error (.missingKey "People" "Id") ∧
      codeUpdate.validate codedPersonBuilder.build = .ok () := by
  have hsome : (personBuilder.addKey? "Person" "Code").isSome := by cbv
  refine ⟨by decide +kernel, (Reachable.start _ _ _).meetAll _, ?_, by cbv, by cbv, by cbv, by cbv⟩
  obtain ⟨b', hadd⟩ := Option.isSome_iff_exists.1 hsome
  rw [codedPersonBuilder, hadd]
  rfl

end Builder

end FacetModel
