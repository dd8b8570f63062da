import FacetModel.Proofs.DeclaredType.Grammar
import Mathlib.Data.List.TakeWhile

/-!
# Reading type expressions

What `type?` reads at the start of a text has a derivation (`exists_derivation`), and where an
expression stands before a comma, a closing bracket or the end of the text, all of it is read
(`parts_type?_text`). It follows that no longer part of the text is an expression
(`exists_parts_type?_append`), so that `DeclaredType.parse` tells exactly what the grammar says
(`parse_eq_derivation`).

The functions that read return the rest together with a proof that it is shorter.
`Prefix.parts` forgets the proof.
-/

namespace FacetModel.DeclaredType.Expression

/-- What was read and the rest. -/
def Prefix.parts {α : Type} {s : List Char} (p : Prefix α s) : α × List Char := (p.1, p.2.val)

/-! ### One step of each function -/

/-- What `name?` reads, without the proof that the rest is shorter. -/
theorem parts_name? (s : List Char) :
    (name? s).map Prefix.parts =
      match skipBlanks s with
      | [] => none
      | c :: rest =>
        if isNameStart c then
          some (String.ofList (c :: rest.takeWhile isNameRest),
            skipBlanks (rest.dropWhile isNameRest))
        else none := by
  unfold name?
  split
  case h_1 h =>
    rw [h]
    rfl
  case h_2 c rest h =>
    simp only [h]
    split <;> rfl

/-- The expression that starts with a name, by what follows the name. -/
def afterName (name : String) : List Char → DeclaredType × List Char
  | '<' :: inner =>
    match (arguments? inner).map Prefix.parts with
    | some (args, behind) => (ofParts name (some args), behind)
    | none => (ofParts name none, '<' :: inner)
  | rest => (ofParts name none, rest)

/-- The arguments that start with a type, by what follows the type. -/
def afterArgument (t : DeclaredType) : List Char → Option (List DeclaredType × List Char)
  | ',' :: more => ((arguments? more).map Prefix.parts).map fun p => (t :: p.1, p.2)
  | '>' :: behind => some ([t], skipBlanks behind)
  | _ => none

/-- A name that no bracket follows stands for itself. -/
theorem afterName_of_delimited {name : String} {rest : List Char} (h : Delimited rest) :
    afterName name rest = (ofParts name none, rest) := by
  rw [afterName]
  rintro inner rfl
  exact absurd (h '<' rfl) (by decide)

/-- An expression is read as a name, and then by what follows it. -/
theorem parts_type? (s : List Char) :
    (type? s).map Prefix.parts =
      ((name? s).map Prefix.parts).map fun p => afterName p.1 p.2 := by
  rw [type?]
  cases name? s with
  | none => rfl
  | some p =>
    obtain ⟨name, rest, hrest⟩ := p
    dsimp only [Option.map_some, Prefix.parts]
    split
    case h_1 inner =>
      rw [afterName]
      cases arguments? inner <;> rfl
    case h_2 hbracket =>
      rw [afterName]
      · rfl
      · exact hbracket

/-- Arguments are read as one expression, and then by what follows it. -/
theorem parts_arguments? (s : List Char) :
    (arguments? s).map Prefix.parts =
      ((type? s).map Prefix.parts).bind fun p => afterArgument p.1 p.2 := by
  rw [arguments?]
  cases type? s with
  | none => rfl
  | some p =>
    obtain ⟨t, rest, hrest⟩ := p
    dsimp only [Option.map_some, Option.bind_some, Prefix.parts]
    split
    case h_1 more =>
      rw [afterArgument]
      cases arguments? more <;> rfl
    case h_2 behind => rfl
    case h_3 hcomma hclosing =>
      rw [afterArgument]
      · rfl
      · exact hcomma
      · exact hclosing

/-! ### What is read has a derivation -/

theorem exists_blanks (s : List Char) : ∃ u : Blanks, u.val ++ skipBlanks s = s := by
  refine ⟨⟨s.takeWhile isBlank, fun c hc => List.mem_takeWhile_imp hc⟩, ?_⟩
  exact List.takeWhile_append_dropWhile

/-- What is read as a name is one, with the blanks around it. -/
theorem exists_header {s rest : List Char} {name : String}
    (h : (name? s).map Prefix.parts = some (name, rest)) :
    ∃ header : Header, header.text ++ rest = s ∧ String.ofList header.name.chars = name := by
  rw [parts_name?] at h
  split at h
  · cases h
  · rename_i c tail hs
    split at h
    · rename_i hc
      obtain ⟨rfl, rfl⟩ := Prod.mk.inj (Option.some.inj h)
      obtain ⟨before, hbefore⟩ := exists_blanks s
      obtain ⟨after, hafter⟩ := exists_blanks (tail.dropWhile isNameRest)
      -- the characters that were taken are those of a name, since the first of them can start one
      let n : Name := ⟨c, tail.takeWhile isNameRest, hc, fun b hb => List.mem_takeWhile_imp hb⟩
      refine ⟨⟨before, n, after⟩, ?_, rfl⟩
      rw [Header.text, List.append_assoc, List.append_assoc, hafter, Name.chars, List.cons_append,
        List.takeWhile_append_dropWhile, ← hs, hbefore]
    · cases h

/-- What is read as an expression is one, if what is read as arguments after it is. -/
theorem exists_derivation_of_arguments {s : List Char}
    (hargs : ∀ inner : List Char, inner.length < s.length → ∀ types rest,
      (arguments? inner).map Prefix.parts = some (types, rest) →
        ∃ (a : Arguments) (w : Blanks), a.text ++ '>' :: (w.val ++ rest) = inner ∧ a.values = types)
    {t : DeclaredType} {rest : List Char} (h : (type? s).map Prefix.parts = some (t, rest)) :
    ∃ d : Derivation, d.text ++ rest = s ∧ d.value = t := by
  rw [parts_type?] at h
  obtain ⟨⟨name, behindName⟩, hname, h⟩ := Option.map_eq_some_iff.1 h
  obtain ⟨header, htext, rfl⟩ := exists_header hname
  dsimp only at h
  unfold afterName at h
  split at h
  · rename_i inner
    have hlength : inner.length < s.length := by
      rw [← htext, List.length_append, List.length_cons]
      omega
    split at h
    · rename_i types behind hread
      obtain ⟨rfl, rfl⟩ := Prod.mk.inj h
      obtain ⟨args, after, hinner, rfl⟩ := hargs inner hlength types _ hread
      refine ⟨.applied header args after, ?_, rfl⟩
      simp only [Derivation.text, List.append_assoc, List.cons_append, hinner, htext]
    · obtain ⟨rfl, rfl⟩ := Prod.mk.inj h
      exact ⟨.plain header, htext, rfl⟩
  · obtain ⟨rfl, rfl⟩ := Prod.mk.inj h
    exact ⟨.plain header, htext, rfl⟩

/-- What is read as arguments is a list of arguments, the closing bracket and blanks. -/
theorem exists_arguments {s : List Char} {types : List DeclaredType} {rest : List Char}
    (h : (arguments? s).map Prefix.parts = some (types, rest)) :
    ∃ (a : Arguments) (w : Blanks), a.text ++ '>' :: (w.val ++ rest) = s ∧ a.values = types := by
  -- arguments are read in arguments and after a comma, both times from a shorter text
  induction hlength : s.length using Nat.strongRecOn generalizing s types rest with
  | _ n ih =>
    subst hlength
    rw [parts_arguments?] at h
    obtain ⟨⟨t, behindFirst⟩, hfirst, h⟩ := Option.bind_eq_some_iff.1 h
    obtain ⟨d, hd, rfl⟩ := exists_derivation_of_arguments
      (fun inner hinner types rest h => ih inner.length hinner h rfl) hfirst
    dsimp only at h
    unfold afterArgument at h
    split at h
    · rename_i more
      obtain ⟨⟨others, behind⟩, hmore, h⟩ := Option.map_eq_some_iff.1 h
      obtain ⟨rfl, rfl⟩ := Prod.mk.inj h
      have hshorter : more.length < s.length := by
        rw [← hd, List.length_append, List.length_cons]
        omega
      obtain ⟨a, w, ha, rfl⟩ := ih more.length hshorter hmore rfl
      refine ⟨.more d a, w, ?_, rfl⟩
      rw [Arguments.text, List.append_assoc, List.cons_append, ha, hd]
    · rename_i behind
      obtain ⟨rfl, rfl⟩ := Prod.mk.inj (Option.some.inj h)
      obtain ⟨w, hw⟩ := exists_blanks behind
      refine ⟨.last d, w, ?_, rfl⟩
      rw [Arguments.text, hw, hd]
    · cases h

/-- What is read as an expression is one. -/
theorem exists_derivation {s : List Char} {t : DeclaredType} {rest : List Char}
    (h : (type? s).map Prefix.parts = some (t, rest)) :
    ∃ d : Derivation, d.text ++ rest = s ∧ d.value = t :=
  exists_derivation_of_arguments (fun _ _ _ _ => exists_arguments) h

/-! ### Expressions are read as a whole -/

theorem skipBlanks_append (u : Blanks) (s : List Char) : skipBlanks (u.val ++ s) = skipBlanks s :=
  List.dropWhile_append_of_pos u.property

theorem skipBlanks_of_clean {s : List Char} (h : Clean s) : skipBlanks s = s := by
  cases s with
  | nil => rfl
  | cons c s => simp [skipBlanks, (h c rfl).1]

/-- A name is read as far as the characters after it go on with it. -/
theorem parts_name?_append (u : Blanks) (n : Name) (s : List Char) :
    (name? (u.val ++ (n.chars ++ s))).map Prefix.parts =
      some (String.ofList (n.chars ++ s.takeWhile isNameRest),
        skipBlanks (s.dropWhile isNameRest)) := by
  have hskip : skipBlanks (u.val ++ (n.chars ++ s)) = n.first :: (n.others ++ s) := by
    rw [skipBlanks_append, Name.chars, List.cons_append, skipBlanks]
    simp [isBlank_of_isNameStart n.isStart]
  rw [parts_name?, hskip]
  simp only [n.isStart, if_true, Name.chars, List.cons_append,
    List.takeWhile_append_of_pos n.areRest, List.dropWhile_append_of_pos n.areRest]

/-- A name is read to the end of the blanks after it, if what follows continues neither. -/
theorem parts_name?_header (h : Header) {s : List Char} (hs : Clean s) :
    (name? (h.text ++ s)).map Prefix.parts = some (String.ofList h.name.chars, s) := by
  obtain ⟨htake, hdrop⟩ := takeWhile_append_of_stops (s := []) (t := h.after.val ++ s)
    (fun c hc => absurd hc List.not_mem_nil) (h.stops hs)
  rw [List.nil_append] at htake hdrop
  rw [Header.text, List.append_assoc, List.append_assoc, parts_name?_append, htake, hdrop,
    List.append_nil, skipBlanks_append, skipBlanks_of_clean hs]

mutual

/-- An expression is read to its end, where an argument can end. -/
theorem parts_type?_text : ∀ (d : Derivation) {s : List Char}, Delimited s →
    (type? (d.text ++ s)).map Prefix.parts = some (d.value, s)
  | .plain header, s, hs => by
    rw [Derivation.text, parts_type?, parts_name?_header header hs.clean, Option.map_some,
      afterName_of_delimited hs]
    rfl
  | .applied header args after, s, hs => by
    have hskip : skipBlanks (after.val ++ s) = s := by
      rw [skipBlanks_append, skipBlanks_of_clean hs.clean]
    rw [Derivation.text, List.append_assoc, List.cons_append, List.append_assoc, List.cons_append,
      parts_type?, parts_name?_header header (clean_bracket _), Option.map_some, afterName,
      parts_arguments?_text args, hskip]
    rfl

/-- Arguments are read to the closing bracket. -/
theorem parts_arguments?_text : ∀ (a : Arguments) (s : List Char),
    (arguments? (a.text ++ '>' :: s)).map Prefix.parts = some (a.values, skipBlanks s)
  | .last d, s => by
    rw [Arguments.text, parts_arguments?, parts_type?_text d (delimited_closing s)]
    rfl
  | .more d a, s => by
    rw [Arguments.text, List.append_assoc, List.cons_append, parts_arguments?,
      parts_type?_text d (delimited_comma _), Option.bind_some, afterArgument,
      parts_arguments?_text a s]
    rfl

end

/-! ### Nothing longer is an expression -/

theorem length_skipBlanks_le (s : List Char) : (skipBlanks s).length ≤ s.length :=
  length_dropWhile_le isBlank s

/-- Reading arguments after a name leaves no more than was there, and if they cannot be read nothing
is consumed. -/
theorem length_afterName_le (name : String) (rest : List Char) :
    (afterName name rest).2.length ≤ rest.length := by
  unfold afterName
  split
  · rename_i inner
    split
    · rename_i args behind hread
      obtain ⟨p, -, hp⟩ := Option.map_eq_some_iff.1 hread
      obtain ⟨-, rfl⟩ := Prod.mk.inj hp
      exact Nat.le_succ_of_le (Nat.le_of_lt p.2.property)
    · exact Nat.le_refl _
  · exact Nat.le_refl _

/-- The blanks behind a name are read, and more of what follows if it goes on with them or the name.
-/
theorem length_behind_name_le (u : Blanks) (s : List Char) :
    (skipBlanks ((u.val ++ s).dropWhile isNameRest)).length ≤ s.length := by
  obtain ⟨blanks, hblanks⟩ := u
  cases blanks with
  | nil => exact Nat.le_trans (length_skipBlanks_le _) (length_dropWhile_le _ s)
  | cons b rest =>
    have hb : isNameRest b = false := isNameRest_of_isBlank (hblanks b List.mem_cons_self)
    have hdrop : (b :: rest ++ s).dropWhile isNameRest = b :: rest ++ s := by simp [hb]
    rw [hdrop, skipBlanks_append ⟨b :: rest, hblanks⟩]
    exact length_skipBlanks_le s

/-- Where an expression stands at the start of a text, at least that much is read. -/
theorem exists_parts_type?_append (d : Derivation) (s : List Char) :
    ∃ t rest, (type? (d.text ++ s)).map Prefix.parts = some (t, rest) ∧ rest.length ≤ s.length := by
  cases d with
  | plain header =>
    rw [Derivation.text, Header.text, List.append_assoc, List.append_assoc, parts_type?,
      parts_name?_append, Option.map_some]
    exact ⟨_, _, rfl, Nat.le_trans (length_afterName_le ..) (length_behind_name_le header.after s)⟩
  | applied header args after =>
    refine ⟨(Derivation.applied header args after).value, skipBlanks s, ?_, length_skipBlanks_le s⟩
    rw [Derivation.text, List.append_assoc, List.cons_append, List.append_assoc, List.cons_append,
      parts_type?, parts_name?_header header (clean_bracket _), Option.map_some, afterName,
      parts_arguments?_text args, skipBlanks_append]
    rfl

/-- No expression is read exactly if no name stands behind the blanks. -/
theorem parts_type?_eq_none_iff {s : List Char} :
    (type? s).map Prefix.parts = none ↔ ¬ ∃ n : Name, n.chars <+: skipBlanks s := by
  rw [parts_type?, Option.map_eq_none_iff, parts_name?]
  constructor
  · rintro hnone ⟨n, rest, hn⟩
    rw [← hn, Name.chars] at hnone
    simp [n.isStart] at hnone
  · intro hno
    split
    · rfl
    · rename_i c rest hs
      rw [if_neg]
      intro hc
      -- the first character alone would be a name
      refine hno ⟨⟨c, [], hc, fun b hb => absurd hb List.not_mem_nil⟩, rest, ?_⟩
      rw [hs]
      rfl

end Expression

open Expression

/-! ### Parsing -/

/-- Parsing is reading an expression and then looking whether something is left. -/
theorem parse_eq (s : String) :
    parse s =
      match (type? s.toList).map Prefix.parts with
      | none => .error ⟨s, .noName, skipBlanks s.toList⟩
      | some (t, []) => .ok t
      | some (_, rest) => .error ⟨s, .leftOver, rest⟩ := by
  unfold parse
  cases type? s.toList with
  | none => rfl
  | some p =>
    obtain ⟨t, rest, hrest⟩ := p
    cases rest <;> rfl

/-- **Parsing follows the grammar**. If no name stands after the blanks at the start of a text, that
is the error. Else there is a longest expression at the start of the text, and one way to derive it:
the text is parsed to the value of this expression if it is the whole text, and else the error gives
what is left behind it. -/
theorem parse_eq_derivation (s : String) :
    ((¬ ∃ n : Name, n.chars <+: skipBlanks s.toList) →
        parse s = .error ⟨s, .noName, skipBlanks s.toList⟩) ∧
      ((∃ n : Name, n.chars <+: skipBlanks s.toList) →
        ∃ d : Derivation, d.text <+: s.toList ∧
          (∀ e : Derivation, e.text <+: s.toList → e.text <+: d.text) ∧
          (∀ e : Derivation, e.text = d.text → e = d) ∧
          parse s =
            if d.text = s.toList then .ok d.value
            else .error ⟨s, .leftOver, s.toList.drop d.text.length⟩) ∧
      ExpressionError.code .noName = "TakeWhile1" ∧ ExpressionError.code .leftOver = "Eof" := by
  refine ⟨fun hno => ?_, fun hname => ?_, rfl, rfl⟩
  · rw [parse_eq, parts_type?_eq_none_iff.2 hno]
  · cases hread : (type? s.toList).map Prefix.parts with
    | none => exact absurd hname (parts_type?_eq_none_iff.1 hread)
    | some p =>
      obtain ⟨t, rest⟩ := p
      obtain ⟨d, htext, rfl⟩ := exists_derivation hread
      refine ⟨d, ⟨rest, htext⟩, ?_, fun e he => Derivation.text_injective he, ?_⟩
      · rintro e ⟨tail, htail⟩
        obtain ⟨t, rest', hread', hlength⟩ := exists_parts_type?_append e tail
        rw [htail, hread] at hread'
        cases hread'
        -- what is read leaves no more than the other expression would
        refine List.prefix_of_prefix_length_le ⟨tail, htail⟩ ⟨rest, htext⟩ ?_
        have hsum := congrArg List.length (htail.trans htext.symm)
        rw [List.length_append, List.length_append] at hsum
        omega
      · rw [parse_eq, hread, ← htext]
        cases rest with
        | nil => simp
        | cons c rest => simp

end FacetModel.DeclaredType
