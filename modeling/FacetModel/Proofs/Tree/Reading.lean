import FacetModel.Catalog.Encoding
import FacetModel.Proofs.DeclaredType.Canonical
import Mathlib.Data.List.Nodup

/-!
# Reading back what was written

A value is read back if the document that it is written as is read as the value itself. For JSON
this goes by the shape of the document:

* a record is read field by field: its names differ (`Tree.readFields_object`), so each field is
  found under its name (`Members.required_cons`, `Members.optional_cons`);
* lists, maps and optional values are read back if their elements are (`Tree.readList_map`,
  `Tree.readMap_ofMap`, `Tree.readOption_ofMaybe`);
* types are read back if they are canonical (`Tree.readType_text`).

In the other direction, `Reading.Ensures` says that what is read has some property, from documents
of any notation, and passes from the parts of a record to the whole.
-/

namespace FacetModel

/-! ### Documents in JSON -/

namespace Document

@[simp] theorem toJson_value (j : Json) : (value j).toJson = j := rfl

@[simp] theorem toJson_text (s : String) : (text s).toJson = .str s := rfl

@[simp] theorem toJson_flag (b : Bool) : (flag b).toJson = .bool b := rfl

@[simp] theorem toJson_null : null.toJson = Json.null := rfl

@[simp] theorem toJson_textOrNull (o : Option String) : (textOrNull o).toJson = .ofOption o := by
  cases o <;> rfl

@[simp] theorem toJson_alternative (name : String) (content : Document) :
    (alternative name content).toJson = .object [(name, content.toJson)] := rfl

/-- The items of a list are written one by one; `toJsonItems` is a function of its own only because
`Document` nests in lists. -/
theorem toJsonItems_eq_map (items : List Document) : toJsonItems items = items.map toJson := by
  have hmap := toJsonItems_map id items
  rw [List.map_id] at hmap
  exact hmap

@[simp] theorem toJson_list (items : List Document) :
    (list items).toJson = .list (items.map toJson) := by
  rw [toJson, toJsonItems_eq_map]

@[simp] theorem toJson_texts (l : List String) : (texts l).toJson = .ofStrings l := by
  rw [texts, toJson_list, List.map_map]
  rfl

/-- A record becomes the object of its fields, in the order in which they were given. -/
@[simp] theorem toJson_record (fields : List (String × Document)) :
    (record fields).toJson = .object (fields.map fun f => (f.1, f.2.toJson)) := by
  rw [toJson]
  -- what is left says that `toJsonFields` is a map, by induction on the fields
  congr 1
  induction fields with
  | nil => rfl
  | cons f rest ih => rw [toJsonFields, ih, List.map_cons]

end Document

/-! ### Sequences of readings -/

namespace Reading

variable {α β : Type}

@[simp] theorem ok_bind (a : α) (f : α → Reading β) : (Except.ok a >>= f) = f a := rfl

@[simp] theorem pure_eq (a : α) : (pure a : Reading α) = .ok a := rfl

/-- Whatever is read has a property. -/
def Ensures (P : α → Prop) (r : Reading α) : Prop := ∀ a, r = .ok a → P a

variable {P : α → Prop} {Q : β → Prop} {r : Reading α}

theorem ensures_anything (r : Reading α) : Ensures (fun _ => True) r := fun _ _ => trivial

/-- A reading that succeeds ensures whatever its value has. -/
theorem ensures_ok {a : α} (h : P a) : Ensures P (.ok a) := by
  intro b hb
  rw [← Except.ok.inj hb]
  exact h

theorem ensures_error (e : Mismatch) : Ensures P (.error e) := nofun

/-- What a first reading ensures may be used for the reading that takes its value. -/
theorem Ensures.bind {f : α → Reading β} (h : Ensures P r) (hf : ∀ a, P a → Ensures Q (f a)) :
    Ensures Q (r >>= f) := by
  intro b hb
  cases hr : r with
  | error e =>
    rw [hr] at hb
    cases hb
  | ok a =>
    rw [hr] at hb
    exact hf a (h a hr) b hb

/-- A part about which nothing is said. -/
theorem ensures_bind {f : α → Reading β} (hf : ∀ a, Ensures Q (f a)) : Ensures Q (r >>= f) :=
  (ensures_anything r).bind fun a _ => hf a

end Reading

/-! ### Records -/

namespace Members

variable {σ α : Type} {P : α → Prop}

/-- A required member is the first one of its name. Fields written in any order are found by
rewriting with this until the names agree. -/
@[simp] theorem required_cons (key name : String) (t : Tree σ) (rest : Members σ)
    (read : Tree σ → Reading α) :
    required ((key, t) :: rest) name read
      = if name = key then read t else required rest name read := by
  rw [required, get?_cons]
  by_cases h : name = key
  · rw [if_pos h, if_pos h]
  · rw [if_neg h, if_neg h]
    rfl

/-- An optional member that is there is read as a required one. -/
@[simp] theorem optional_cons (key name : String) (t : Tree σ) (rest : Members σ)
    (read : Tree σ → Reading α) (default : α) :
    optional ((key, t) :: rest) name read default
      = if name = key then read t else optional rest name read default := by
  rw [optional, get?_cons]
  by_cases h : name = key
  · rw [if_pos h, if_pos h]
  · rw [if_neg h, if_neg h]
    rfl

@[simp] theorem optional_nil (name : String) (read : Tree σ → Reading α) (default : α) :
    optional [] name read default = .ok default := rfl

/-- A required member has what its own reading ensures. -/
theorem ensures_required {read : Tree σ → Reading α} (h : ∀ t, Reading.Ensures P (read t))
    (ms : Members σ) (name : String) : Reading.Ensures P (ms.required name read) := by
  rw [required]
  split
  · exact h _
  · exact Reading.ensures_error _

/-- An optional member has what its own reading ensures, if its default has it as well. -/
theorem ensures_optional {read : Tree σ → Reading α} {default : α}
    (h : ∀ t, Reading.Ensures P (read t)) (hdefault : P default) (ms : Members σ) (name : String) :
    Reading.Ensures P (ms.optional name read default) := by
  rw [optional]
  split
  · exact h _
  · exact Reading.ensures_ok hdefault

end Members

namespace Tree

section Records

variable {σ : Type} {ms : Members σ}

/-- Members of different names repeat none of the names looked for. -/
theorem repeated?_eq_none (names : List String) (h : (ms.map (·.1)).Nodup) :
    repeated? names ms = none := by
  rw [repeated?, List.find?_eq_none]
  intro name _ htwice
  -- `repeated?` counts the members of a name by filtering; `Nodup` bounds the same number as a
  -- count
  have hcount : (ms.map (·.1)).count name = (ms.filter fun m => m.1 == name).length := by
    rw [List.count, List.countP_map, List.countP_eq_length_filter]
    rfl
  have honce : (ms.map (·.1)).count name ≤ 1 := List.nodup_iff_count_le_one.1 h name
  rw [hcount] at honce
  have hmore := of_decide_eq_true htwice
  omega

/-- A record in which all names differ has its members as fields. -/
theorem checkFields_of_nodup (names : List String) (h : (ms.map (·.1)).Nodup) :
    checkFields names ms = .ok ms := by
  rw [checkFields, repeated?_eq_none names h]

/-- The fields of an object are its members, if none of them is repeated. -/
theorem readFields_object [Script σ] (names : List String) (h : (ms.map (·.1)).Nodup) :
    readFields names (.object ms) = .ok ms := checkFields_of_nodup names h

end Records

@[simp] theorem readAlternative_object {σ : Type} [Script σ] (name : String) (content : Tree σ) :
    readAlternative (.object [(name, content)]) = .ok (name, some content) := rfl

theorem readList_list {σ α : Type} [Script σ] (read : Tree σ → Reading α)
    (items : List (Tree σ)) : readList read (.list items) = readAll read items := rfl

/-! ### Values in JSON -/

section Json

variable {α : Type} {read : Json → Reading α} {write : α → Json}

@[simp] theorem readText_str (s : String) : readText (Json.str s) = .ok s := rfl

@[simp] theorem readFlag_bool (b : Bool) : readFlag (Json.bool b) = .ok b := rfl

@[simp] theorem readJson_self (j : Json) : readJson j = .ok j := rfl

/-- A type is written as its canonical text, which the parser takes back to it. -/
theorem readType_text {t : DeclaredType} (h : t.Canonical) :
    readType (Json.str t.text) = .ok t := by
  rw [readType, readText_str]
  dsimp only
  rw [h.parse_text]

@[simp] theorem readOption_null : readOption read Json.null = .ok none := rfl

/-- A value that is written as something is read back where there may be none. -/
theorem readOption_ofMaybe {o : Option α}
    (h : ∀ a, o = some a → (write a).isNull = false ∧ read (write a) = .ok a) :
    readOption read (Json.ofMaybe write o) = .ok o := by
  cases o with
  | none => rfl
  | some a =>
    obtain ⟨hsomething, hread⟩ := h a rfl
    rw [Json.ofMaybe, readOption, hsomething, hread]
    rfl

@[simp] theorem readOption_ofOption (o : Option String) :
    readOption readText (Json.ofOption o) = .ok o := by
  cases o <;> rfl

/-- A list is read back if each of its elements is. -/
theorem readAll_map {l : List α} (h : ∀ a ∈ l, read (write a) = .ok a) :
    readAll read (l.map write) = .ok l := by
  induction l with
  | nil => rfl
  | cons a rest ih =>
    obtain ⟨hfirst, hothers⟩ := List.forall_mem_cons.1 h
    rw [List.map_cons, readAll, hfirst]
    dsimp only
    rw [ih hothers]

/-- A list is read back if its items are. -/
theorem readList_map {l : List α} (h : ∀ a ∈ l, read (write a) = .ok a) :
    readList read (.list (l.map write)) = .ok l := readAll_map h

@[simp] theorem readList_ofStrings (l : List String) :
    readList readText (Json.ofStrings l) = .ok l := readList_map fun _ _ => rfl

@[simp] theorem readList_readJson (l : List Json) :
    readList readJson (.list l : Json) = .ok l := by
  have hlist : readList readJson (.list (l.map id) : Json) = .ok l := readList_map fun _ _ => rfl
  rw [List.map_id] at hlist
  exact hlist

end Json

end Tree

/-! ### Maps -/

namespace NameMap

variable {α : Type}

/-- Putting in what stands behind all else appends it. -/
theorem insertEntry_of_forall_lt {name : String} {value : α} {l : List (String × α)}
    (h : ∀ e ∈ l, e.1 < name) : insertEntry name value l = l ++ [(name, value)] := by
  induction l with
  | nil => rfl
  | cons e rest ih =>
    obtain ⟨hfirst, hothers⟩ := List.forall_mem_cons.1 h
    have hnot : ¬ name < e.1 := fun hlt => String.lt_irrefl _ (String.lt_trans hfirst hlt)
    have hne : name ≠ e.1 := fun heq => String.lt_irrefl _ (heq ▸ hfirst)
    rw [insertEntry, if_neg hnot, if_neg hne, ih hothers]
    rfl

/-- Inserting entries in the order of their names appends them, so a map written entry by entry is
built up again in the same order. -/
theorem entries_foldl_insert (m : NameMap α) {l : List (String × α)}
    (h : (m.entries ++ l).Pairwise fun a b => a.1 < b.1) :
    (l.foldl (fun m e => m.insert e.1 e.2) m).entries = m.entries ++ l := by
  induction l generalizing m with
  | nil => exact (List.append_nil _).symm
  | cons e rest ih =>
    -- the new name is greater than every name of the map so far, so it goes to the end
    have hlast : ∀ d ∈ m.entries, d.1 < e.1 := fun d hd =>
      (List.pairwise_append.1 h).2.2 d hd e List.mem_cons_self
    have hentries : (m.insert e.1 e.2).entries = m.entries ++ [e] := insertEntry_of_forall_lt hlast
    have hrest : ((m.insert e.1 e.2).entries ++ rest).Pairwise fun a b => a.1 < b.1 := by
      rw [hentries, List.append_assoc]
      exact h
    rw [List.foldl_cons, ih _ hrest, hentries, List.append_assoc]
    rfl

/-- A map is filled again from its entries. -/
theorem ofList_entries (m : NameMap α) : ofList m.entries = m := by
  obtain ⟨entries, hsorted⟩ := m
  have heq := entries_foldl_insert empty (l := entries) hsorted
  rw [ofList]
  generalize entries.foldl (fun m e => m.insert e.1 e.2) empty = filled at heq
  obtain ⟨filledEntries, hfilled⟩ := filled
  cases heq
  rfl

end NameMap

namespace Tree

variable {α : Type}

/-- The entries of a map are read back, name by name, if each of its values is. -/
theorem mapM_readMember {read : Json → Reading α} {write : α → Json} {l : List (String × α)}
    (h : ∀ e ∈ l, read (write e.2) = .ok e.2) :
    (l.map fun e => (e.1, write e.2)).mapM (fun m => do return (m.1, ← read m.2))
      = (.ok l : Reading (List (String × α))) := by
  induction l with
  | nil => rfl
  | cons e rest ih =>
    obtain ⟨hfirst, hothers⟩ := List.forall_mem_cons.1 h
    rw [List.map_cons, List.mapM_cons, hfirst, Reading.ok_bind, ih hothers]
    rfl

/-- A map is read back if its values are. -/
theorem readMap_ofMap {read : Json → Reading α} {write : α → Json} {m : NameMap α}
    (h : ∀ e ∈ m.entries, read (write e.2) = .ok e.2) :
    readMap read (Json.ofMap write m) = .ok m := by
  have hmembers : readMembers (Json.ofMap write m)
      = .ok (m.entries.map fun e => (e.1, write e.2)) := rfl
  rw [readMap, hmembers, Reading.ok_bind, mapM_readMember h, Reading.ok_bind,
    NameMap.ofList_entries]
  rfl

/-! ### What readers ensure -/

section Ensures

variable {σ : Type} {P : α → Prop} {read : Tree σ → Reading α}

/-- A type that is read is canonical. -/
theorem ensures_readType [Script σ] (t : Tree σ) :
    Reading.Ensures DeclaredType.Canonical t.readType := by
  intro ty hty
  rw [readType] at hty
  split at hty
  · cases hty
  · split at hty
    · rename_i parsed hparse
      rw [← Except.ok.inj hty]
      exact DeclaredType.canonical_of_parse hparse
    · cases hty

/-- What one element ensures is ensured of all of them. -/
theorem ensures_readAll (h : ∀ t, Reading.Ensures P (read t)) (items : List (Tree σ)) :
    Reading.Ensures (fun l => ∀ a ∈ l, P a) (readAll read items) := by
  induction items with
  | nil => exact Reading.ensures_ok (List.forall_mem_nil P)
  | cons t rest ih =>
    intro l hl
    rw [readAll] at hl
    split at hl
    · cases hl
    · rename_i a ha
      split at hl
      · cases hl
      · rename_i others hothers
        rw [← Except.ok.inj hl]
        exact List.forall_mem_cons.2 ⟨h t a ha, ih others hothers⟩

/-- The items of a list that is read have what each of them is read with. -/
theorem ensures_readList [Script σ] (h : ∀ t, Reading.Ensures P (read t)) (t : Tree σ) :
    Reading.Ensures (fun l => ∀ a ∈ l, P a) (readList read t) := by
  rw [readList]
  split
  · exact Reading.ensures_error _
  · exact ensures_readAll h _

end Ensures

end Tree

end FacetModel
