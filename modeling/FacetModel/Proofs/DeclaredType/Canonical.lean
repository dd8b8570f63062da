import FacetModel.Proofs.DeclaredType.Reading

/-!
# Canonical types

The parser gives one type to many spellings, and `DeclaredType.text` writes one spelling for each
type. The types for which the two are inverse are the canonical ones (`Canonical`): no reference and
no generic type in them, at whatever depth, has a name that an expression reads as something else.

* A canonical type has a derivation with its canonical spelling (`Canonical.exists_derivation`), so
  its spelling is parsed to the type itself.
* Every derivation has a canonical value (`Derivation.canonical_value`), so parsing yields nothing
  else.

Both together say that exactly the canonical types are read back (`parse_text_iff`).
-/

namespace FacetModel.DeclaredType

open Expression

/-! ### Canonical types -/

/-- Whether a text is a name: a letter or an underscore, and then letters, digits, underscores and
dots. -/
def isName (name : String) : Bool :=
  match name.toList with
  | [] => false
  | c :: rest => isNameStart c && rest.all isNameRest

/-- A type whose names, at every depth, are not read as something else. -/
inductive Canonical : DeclaredType → Prop where
  | void : Canonical .void
  | primitive (kind : PrimitiveKind) : Canonical (.primitive kind)
  | reference {name : String} (wellFormed : isName name = true) (notVoid : isVoidName name = false)
      (notPrimitive : PrimitiveKind.lookup? name = none) : Canonical (.reference name)
  | queryable {element : DeclaredType} (h : Canonical element) : Canonical (.queryable element)
  | collection {element : DeclaredType} (h : Canonical element) : Canonical (.collection element)
  | generic {name : String} {args : List DeclaredType} (wellFormed : isName name = true)
      (someArgs : args ≠ [])
      (notSequence : args.length = 1 → name ∉ queryableNames ∧ name ∉ collectionNames)
      (h : ∀ arg ∈ args, Canonical arg) : Canonical (.generic name args)

/-- A type is another one, or stands in it as an element or an argument, at whatever depth. -/
inductive Inside (u : DeclaredType) : DeclaredType → Prop where
  | self : Inside u u
  | queryable {element : DeclaredType} (h : Inside u element) : Inside u (.queryable element)
  | collection {element : DeclaredType} (h : Inside u element) : Inside u (.collection element)
  | argument {name : String} {args : List DeclaredType} {arg : DeclaredType} (mem : arg ∈ args)
      (h : Inside u arg) : Inside u (.generic name args)

/-- Being canonical is about every depth, so it passes to what stands inside. -/
theorem Canonical.of_inside {t u : DeclaredType} (h : t.Canonical) (hu : Inside u t) :
    u.Canonical := by
  induction hu with
  | self => exact h
  | queryable _ ih =>
    cases h with
    | queryable h => exact ih h
  | collection _ ih =>
    cases h with
    | collection h => exact ih h
  | argument mem _ ih =>
    cases h with
    | generic _ _ _ h => exact ih (h _ mem)

/-! ### Names -/

/-- A text is a name exactly if some name of the grammar has its characters. -/
theorem isName_iff {name : String} : isName name = true ↔ ∃ n : Name, n.chars = name.toList := by
  rw [isName]
  constructor
  · intro h
    split at h
    · cases h
    · rename_i c rest hname
      rw [Bool.and_eq_true, List.all_eq_true] at h
      exact ⟨⟨c, rest, h.1, h.2⟩, hname.symm⟩
  · rintro ⟨n, hn⟩
    rw [← hn, Name.chars]
    dsimp only
    rw [n.isStart, List.all_eq_true.2 n.areRest]
    rfl

theorem isName_ofList (n : Name) : isName (String.ofList n.chars) = true :=
  isName_iff.2 ⟨n, String.toList_ofList.symm⟩

theorem isName_primitive (kind : PrimitiveKind) : isName kind.name = true := by
  cases kind <;> decide

/-- No name of a primitive is a spelling of nothing, and none is taken by another primitive. -/
theorem ofParts_primitive (kind : PrimitiveKind) : ofParts kind.name none = .primitive kind := by
  cases kind <;> decide

/-! ### Values of derivations are canonical -/

/-- A name on its own stands for a canonical type: it is made a reference only after it was found to
be neither a spelling of nothing nor of a primitive. -/
theorem canonical_ofParts_none {name : String} (h : isName name = true) :
    (ofParts name none).Canonical := by
  rw [ofParts]
  split
  · exact .void
  · rename_i hvoid
    split
    · exact .primitive _
    · rename_i hprimitive
      exact .reference h (Bool.eq_false_iff.2 hvoid) hprimitive

/-- A name with arguments is generic unless it is a spelling of a sequence and has one argument. -/
theorem ofParts_of_notSequence {name : String} {args : List DeclaredType}
    (h : args.length = 1 → name ∉ queryableNames ∧ name ∉ collectionNames) :
    ofParts name (some args) = .generic name args := by
  by_cases hlength : args.length = 1
  · obtain ⟨arg, rfl⟩ := List.length_eq_one_iff.1 hlength
    rw [ofParts, if_neg (h rfl).1, if_neg (h rfl).2]
  · rw [ofParts]
    rintro arg rfl
    exact hlength rfl

/-- A name with canonical arguments stands for a canonical type: it is made generic only if it is
not taken for a sequence. -/
theorem canonical_ofParts_some {name : String} {args : List DeclaredType} (h : isName name = true)
    (hsome : args ≠ []) (hargs : ∀ arg ∈ args, arg.Canonical) :
    (ofParts name (some args)).Canonical := by
  by_cases hsequence : args.length = 1 → name ∉ queryableNames ∧ name ∉ collectionNames
  · rw [ofParts_of_notSequence hsequence]
    exact .generic h hsome hsequence hargs
  -- the name is one of those for sequences, and there is one argument
  · obtain ⟨hlength, hnames⟩ := Classical.not_imp.1 hsequence
    obtain ⟨arg, rfl⟩ := List.length_eq_one_iff.1 hlength
    have harg := hargs arg (List.mem_singleton_self arg)
    rw [ofParts]
    split
    · exact .queryable harg
    · rename_i hqueryable
      split
      · exact .collection harg
      · rename_i hcollection
        exact absurd ⟨hqueryable, hcollection⟩ hnames

mutual

/-- Every expression stands for a canonical type, by induction on its derivation. -/
theorem Expression.Derivation.canonical_value : ∀ d : Derivation, d.value.Canonical
  | .plain header => canonical_ofParts_none (isName_ofList header.name)
  | .applied header args _ =>
    canonical_ofParts_some (isName_ofList header.name) args.canonical_values.1
      args.canonical_values.2

theorem Expression.Arguments.canonical_values : ∀ a : Arguments,
    a.values ≠ [] ∧ ∀ t ∈ a.values, t.Canonical
  | .last t => ⟨List.cons_ne_nil _ _, List.forall_mem_singleton.2 t.canonical_value⟩
  | .more t rest =>
    ⟨List.cons_ne_nil _ _, List.forall_mem_cons.2 ⟨t.canonical_value, rest.canonical_values.2⟩⟩

end

/-- What is parsed has a derivation. -/
theorem exists_derivation_of_parse {s : String} {t : DeclaredType} (h : parse s = .ok t) :
    ∃ d : Derivation, d.text = s.toList ∧ d.value = t := by
  rw [parse_eq] at h
  split at h
  · cases h
  · rename_i other hread
    obtain ⟨d, htext, hvalue⟩ := exists_derivation hread
    rw [List.append_nil] at htext
    exact ⟨d, htext, hvalue.trans (Except.ok.inj h)⟩
  · cases h

theorem canonical_of_parse {s : String} {t : DeclaredType} (h : parse s = .ok t) : t.Canonical := by
  obtain ⟨d, -, rfl⟩ := exists_derivation_of_parse h
  exact d.canonical_value

/-! ### Canonical spellings have derivations -/

/-- Behind any blanks, the canonical spelling of a type has a derivation with this type as its
value. -/
def Spelled (t : DeclaredType) : Prop :=
  ∀ u : Blanks, ∃ d : Derivation, d.text = u.val ++ t.text.toList ∧ d.value = t

/-- The blank that is written before each further argument. -/
def oneBlank : Blanks := ⟨[' '], List.forall_mem_singleton.2 (by decide)⟩

theorem textAll_cons {t : DeclaredType} {rest : List DeclaredType} (h : rest ≠ []) :
    textAll (t :: rest) = t.text ++ ", " ++ textAll rest := by
  rw [textAll]
  exact h

/-- A name stands for a type, behind blanks and with nothing after it. -/
theorem exists_plain {name : String} (h : isName name = true) (u : Blanks) :
    ∃ d : Derivation, d.text = u.val ++ name.toList ∧ d.value = ofParts name none := by
  obtain ⟨n, hn⟩ := isName_iff.1 h
  refine ⟨.plain ⟨u, n, ⟨[], nofun⟩⟩, ?_, ?_⟩
  · rw [Derivation.text, Header.text, List.append_nil, hn]
  · rw [Derivation.value, hn, String.ofList_toList]

/-- Arguments are written one after the other, with commas and blanks between them. -/
theorem exists_arguments_of_spelled {args : List DeclaredType} (hsome : args ≠ [])
    (h : ∀ arg ∈ args, arg.Spelled) (u : Blanks) :
    ∃ a : Arguments, a.text = u.val ++ (textAll args).toList ∧ a.values = args := by
  induction args generalizing u with
  | nil => exact absurd rfl hsome
  | cons t rest ih =>
    obtain ⟨hfirst, hothers⟩ := List.forall_mem_cons.1 h
    obtain ⟨d, htext, hvalue⟩ := hfirst u
    by_cases hrest : rest = []
    · subst hrest
      exact ⟨.last d, htext, congrArg (fun t => [t]) hvalue⟩
    · -- the blank after the comma comes before the name of the next argument
      obtain ⟨a, hatext, hvalues⟩ := ih hrest hothers oneBlank
      refine ⟨.more d a, ?_, congrArg₂ List.cons hvalue hvalues⟩
      rw [Arguments.text, htext, hatext, textAll_cons hrest]
      simp [oneBlank]

/-- A name with arguments stands for a type, behind blanks. -/
theorem exists_applied {name : String} {args : List DeclaredType} (h : isName name = true)
    (hsome : args ≠ []) (hargs : ∀ arg ∈ args, arg.Spelled) (u : Blanks) :
    ∃ d : Derivation,
      d.text = u.val ++ (name.toList ++ '<' :: ((textAll args).toList ++ ['>'])) ∧
        d.value = ofParts name (some args) := by
  obtain ⟨n, hn⟩ := isName_iff.1 h
  obtain ⟨a, hatext, hvalues⟩ := exists_arguments_of_spelled hsome hargs ⟨[], nofun⟩
  refine ⟨.applied ⟨u, n, ⟨[], nofun⟩⟩ a ⟨[], nofun⟩, ?_, ?_⟩
  · rw [Derivation.text, Header.text, List.append_nil, hn, hatext, List.append_assoc]
    rfl
  · rw [Derivation.value, hn, String.ofList_toList, hvalues]

/-- A type is spelled as a name with arguments if it is what this name and these arguments stand
for. -/
theorem Spelled.applied {t : DeclaredType} (name : String) {args : List DeclaredType}
    (h : isName name = true) (hsome : args ≠ []) (hargs : ∀ arg ∈ args, arg.Spelled)
    (htext : t.text.toList = name.toList ++ '<' :: ((textAll args).toList ++ ['>']))
    (hvalue : ofParts name (some args) = t) : t.Spelled := by
  intro u
  obtain ⟨d, hd, hdvalue⟩ := exists_applied h hsome hargs u
  exact ⟨d, by rw [hd, htext], hdvalue.trans hvalue⟩

/-- A type is spelled as a name on its own if it is what this name stands for. -/
theorem Spelled.plain {t : DeclaredType} (h : isName t.text = true)
    (hvalue : ofParts t.text none = t) : t.Spelled := by
  intro u
  obtain ⟨d, hd, hdvalue⟩ := exists_plain h u
  exact ⟨d, hd, hdvalue.trans hvalue⟩

/-- A canonical type is what its canonical spelling derives. -/
theorem Canonical.spelled {t : DeclaredType} (h : t.Canonical) : t.Spelled := by
  induction h with
  | void => exact .plain (by decide) (by decide)
  | primitive kind => exact .plain (isName_primitive kind) (ofParts_primitive kind)
  | reference wellFormed notVoid notPrimitive =>
    -- the two conditions on a reference are the two tests that come before it
    refine .plain wellFormed ?_
    rw [text, ofParts, notVoid, notPrimitive]
    rfl
  | queryable _ ih =>
    exact .applied "Queryable" (by decide) (List.cons_ne_nil _ [])
      (List.forall_mem_singleton.2 ih) (by simp [text, textAll]) rfl
  | collection _ ih =>
    exact .applied "Collection" (by decide) (List.cons_ne_nil _ [])
      (List.forall_mem_singleton.2 ih) (by simp [text, textAll]) rfl
  | generic wellFormed someArgs notSequence _ ih =>
    exact .applied _ wellFormed someArgs ih (by simp [text]) (ofParts_of_notSequence notSequence)

/-! ### Reading back -/

/-- A text that is derived is parsed to the value of its derivation. -/
theorem parse_of_derivation (d : Derivation) {s : String} (h : d.text = s.toList) :
    parse s = .ok d.value := by
  have hread := parts_type?_text d delimited_nil
  rw [List.append_nil, h] at hread
  rw [parse_eq, hread]

/-- The canonical spelling of a canonical type is parsed to that type. -/
theorem Canonical.parse_text {t : DeclaredType} (h : t.Canonical) : parse t.text = .ok t := by
  obtain ⟨d, htext, hvalue⟩ := h.spelled ⟨[], nofun⟩
  rw [parse_of_derivation d htext, hvalue]

/-- **Printing and parsing are inverse exactly on canonical types**, and parsing yields nothing but
canonical types, with nothing but canonical types inside them. So a spelling that is accepted has a
canonical spelling that is accepted too and that has itself as its canonical spelling. -/
theorem parse_text_iff :
    (∀ t : DeclaredType, parse t.text = .ok t ↔ t.Canonical) ∧
      (∀ s t, parse s = .ok t → ∀ u, Inside u t → u.Canonical) ∧
      ∀ s t, parse s = .ok t → (parse t.text).map text = .ok t.text := by
  refine ⟨fun t => ⟨canonical_of_parse, Canonical.parse_text⟩, fun s t h u hu => ?_,
    fun s t h => ?_⟩
  · exact (canonical_of_parse h).of_inside hu
  · rw [(canonical_of_parse h).parse_text]
    rfl

end FacetModel.DeclaredType
