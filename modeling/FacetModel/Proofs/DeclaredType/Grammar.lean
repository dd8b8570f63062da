import FacetModel.DeclaredType.Expression

/-!
# The grammar of type expressions

A derivation says how a text is an expression: what its blanks are, its names and its arguments.

```text
type      ::= blanks name blanks ['<' arguments '>' blanks]
arguments ::= type | type ',' arguments
```

`Derivation.text` is the derived text, and `Derivation.value` the type it stands for, made from the
inside out. No text has two derivations (`Derivation.text_injective`), because every part ends
where the next one has to begin: blanks and names are followed by characters that are none
(`Clean`), and an argument is followed by a comma or a closing bracket (`Delimited`).
-/

namespace FacetModel.DeclaredType.Expression

/-! ### Derivations -/

/-- A run of blanks. -/
abbrev Blanks := { s : List Char // ∀ c ∈ s, isBlank c = true }

/-- A name, character by character. -/
structure Name where
  first : Char
  others : List Char
  isStart : isNameStart first = true
  areRest : ∀ c ∈ others, isNameRest c = true

/-- The characters of a name. -/
def Name.chars (n : Name) : List Char := n.first :: n.others

/-- A name with the blanks around it. -/
structure Header where
  before : Blanks
  name : Name
  after : Blanks

/-- The text of a name with the blanks around it. -/
def Header.text (h : Header) : List Char := h.before.val ++ (h.name.chars ++ h.after.val)

mutual

/-- How a text is a type expression. -/
inductive Derivation where
  | plain (header : Header)
  | applied (header : Header) (args : Arguments) (after : Blanks)

/-- How a text is a list of arguments. -/
inductive Arguments where
  | last (t : Derivation)
  | more (t : Derivation) (rest : Arguments)

end

mutual

/-- The text of an expression. -/
def Derivation.text : Derivation → List Char
  | .plain header => header.text
  | .applied header args after => header.text ++ '<' :: (args.text ++ '>' :: after.val)

/-- The text of arguments. -/
def Arguments.text : Arguments → List Char
  | .last t => t.text
  | .more t rest => t.text ++ ',' :: rest.text

end

mutual

/-- The type that an expression stands for. -/
def Derivation.value : Derivation → DeclaredType
  | .plain header => ofParts (String.ofList header.name.chars) none
  | .applied header args _ => ofParts (String.ofList header.name.chars) (some args.values)

/-- The types that arguments stand for. -/
def Arguments.values : Arguments → List DeclaredType
  | .last t => [t.value]
  | .more t rest => t.value :: rest.values

end

/-! ### Where parts end -/

/-- A text that continues neither a run of blanks nor a name. -/
def Clean (s : List Char) : Prop := ∀ c ∈ s.head?, isBlank c = false ∧ isNameRest c = false

/-- A text before which an argument can end. -/
def Delimited (s : List Char) : Prop := ∀ c ∈ s.head?, c = ',' ∨ c = '>'

theorem isNameRest_of_isBlank {c : Char} (h : isBlank c = true) : isNameRest c = false := by
  simp only [isBlank, Bool.or_eq_true, beq_iff_eq] at h
  rcases h with ((rfl | rfl) | rfl) | rfl <;> rfl

/-- The start of a name ends a run of blanks, so a header is split at its name. -/
theorem isBlank_of_isNameStart {c : Char} (h : isNameStart c = true) : isBlank c = false := by
  rw [Bool.eq_false_iff]
  intro hblank
  simp only [isBlank, Bool.or_eq_true, beq_iff_eq] at hblank
  rcases hblank with ((rfl | rfl) | rfl) | rfl <;> cases h

theorem clean_bracket (s : List Char) : Clean ('<' :: s) := by
  rintro c ⟨⟩
  exact ⟨rfl, rfl⟩

/-- Where an argument can end, the header of a plain argument ends too. -/
theorem Delimited.clean {s : List Char} (h : Delimited s) : Clean s := by
  intro c hc
  rcases h c hc with rfl | rfl <;> exact ⟨rfl, rfl⟩

theorem delimited_nil : Delimited [] := nofun

theorem delimited_comma (s : List Char) : Delimited (',' :: s) := by
  rintro c ⟨⟩
  exact .inl rfl

theorem delimited_closing (s : List Char) : Delimited ('>' :: s) := by
  rintro c ⟨⟩
  exact .inr rfl

/-! ### Each text has one derivation -/

/-- A run of characters in a class ends where the first character outside of it stands. -/
theorem takeWhile_append_of_stops {p : Char → Bool} {s t : List Char} (hs : ∀ c ∈ s, p c = true)
    (ht : ∀ c ∈ t.head?, p c = false) :
    (s ++ t).takeWhile p = s ∧ (s ++ t).dropWhile p = t := by
  rw [List.takeWhile_append_of_pos hs, List.dropWhile_append_of_pos hs]
  cases t with
  | nil => simp
  | cons c t => simp [ht c rfl]

/-- A text is split in one way only into a run of characters in a class and a rest. -/
theorem run_unique {p : Char → Bool} {s s' t t' : List Char} (hs : ∀ c ∈ s, p c = true)
    (hs' : ∀ c ∈ s', p c = true) (ht : ∀ c ∈ t.head?, p c = false)
    (ht' : ∀ c ∈ t'.head?, p c = false) (h : s ++ t = s' ++ t') : s = s' ∧ t = t' := by
  obtain ⟨htake, hdrop⟩ := takeWhile_append_of_stops hs ht
  obtain ⟨htake', hdrop'⟩ := takeWhile_append_of_stops hs' ht'
  exact ⟨by rw [← htake, h, htake'], by rw [← hdrop, h, hdrop']⟩

/-- What follows a name is no part of it. -/
theorem Header.stops (h : Header) {t : List Char} (ht : Clean t) :
    ∀ c ∈ (h.after.val ++ t).head?, isNameRest c = false := by
  obtain ⟨before, name, ⟨after, hafter⟩⟩ := h
  cases after with
  | nil => exact fun c hc => (ht c hc).2
  | cons b rest =>
    rintro c ⟨⟩
    exact isNameRest_of_isBlank (hafter b List.mem_cons_self)

/-- A name with its blanks can be told from what follows, if that continues neither. -/
theorem Header.text_append_unique {h h' : Header} {t t' : List Char} (ht : Clean t)
    (ht' : Clean t') (heq : h.text ++ t = h'.text ++ t') : h = h' ∧ t = t' := by
  have hblank : ∀ g : Header, ∀ r, ∀ c ∈ (g.name.chars ++ r).head?, isBlank c = false := by
    rintro g r c ⟨⟩
    exact isBlank_of_isNameStart g.name.isStart
  simp only [Header.text, List.append_assoc] at heq
  -- blanks, name and blanks are split off one after the other, each as a run that cannot go on
  obtain ⟨hbefore, hname⟩ := run_unique h.before.property h'.before.property (hblank h _)
    (hblank h' _) heq
  obtain ⟨hfirst, hname⟩ := List.cons.inj hname
  obtain ⟨hothers, hrest⟩ := run_unique h.name.areRest h'.name.areRest (h.stops ht) (h'.stops ht')
    hname
  obtain ⟨hafter, htail⟩ := run_unique h.after.property h'.after.property
    (fun c hc => (ht c hc).1) (fun c hc => (ht' c hc).1) hrest
  obtain ⟨before, ⟨first, others, _, _⟩, after⟩ := h
  obtain ⟨before', ⟨first', others', _, _⟩, after'⟩ := h'
  cases Subtype.ext hbefore
  cases Subtype.ext hafter
  cases hfirst
  cases hothers
  exact ⟨rfl, htail⟩

mutual

/-- An expression can be told from what follows, and so can its derivation, if what follows is the
end, a comma or a closing bracket. This and the next are one induction over both derivations. -/
theorem Derivation.text_append_unique : ∀ {d e : Derivation} {s t : List Char}, Delimited s →
    Delimited t → d.text ++ s = e.text ++ t → d = e ∧ s = t
  | .plain h, .plain h', s, t, hs, ht, heq => by
    obtain ⟨rfl, rfl⟩ := Header.text_append_unique hs.clean ht.clean heq
    exact ⟨rfl, rfl⟩
  | .plain h, .applied h' args after, s, t, hs, ht, heq => by
    simp only [Derivation.text, List.append_assoc, List.cons_append] at heq
    obtain ⟨-, rfl⟩ := Header.text_append_unique hs.clean (clean_bracket _) heq
    -- only one of the two texts has arguments: its bracket stands where the other must end
    exact absurd (hs '<' rfl) (by decide)
  | .applied h args after, .plain h', s, t, hs, ht, heq => by
    simp only [Derivation.text, List.append_assoc, List.cons_append] at heq
    obtain ⟨-, rfl⟩ := Header.text_append_unique (clean_bracket _) ht.clean heq
    exact absurd (ht '<' rfl) (by decide)
  | .applied h args after, .applied h' args' after', s, t, hs, ht, heq => by
    simp only [Derivation.text, List.append_assoc, List.cons_append] at heq
    obtain ⟨rfl, hargs⟩ := Header.text_append_unique (clean_bracket _) (clean_bracket _) heq
    obtain ⟨rfl, hrest⟩ := Arguments.text_append_unique (List.cons.inj hargs).2
    obtain ⟨hafter, rfl⟩ := run_unique after.property after'.property
      (fun c hc => (hs.clean c hc).1) (fun c hc => (ht.clean c hc).1) hrest
    cases Subtype.ext hafter
    exact ⟨rfl, rfl⟩

/-- Arguments end at their closing bracket, so nothing has to be known about what follows that. -/
theorem Arguments.text_append_unique : ∀ {a b : Arguments} {s t : List Char},
    a.text ++ '>' :: s = b.text ++ '>' :: t → a = b ∧ s = t
  | .last d, .last e, s, t, heq => by
    obtain ⟨rfl, hrest⟩ :=
      Derivation.text_append_unique (delimited_closing _) (delimited_closing _) heq
    exact ⟨rfl, (List.cons.inj hrest).2⟩
  | .last d, .more e b, s, t, heq => by
    simp only [Arguments.text, List.append_assoc, List.cons_append] at heq
    obtain ⟨-, hrest⟩ := Derivation.text_append_unique (delimited_closing _) (delimited_comma _) heq
    exact absurd (List.cons.inj hrest).1 (by decide)
  | .more d a, .last e, s, t, heq => by
    simp only [Arguments.text, List.append_assoc, List.cons_append] at heq
    obtain ⟨-, hrest⟩ := Derivation.text_append_unique (delimited_comma _) (delimited_closing _) heq
    exact absurd (List.cons.inj hrest).1 (by decide)
  | .more d a, .more e b, s, t, heq => by
    simp only [Arguments.text, List.append_assoc, List.cons_append] at heq
    obtain ⟨rfl, hrest⟩ := Derivation.text_append_unique (delimited_comma _) (delimited_comma _) heq
    obtain ⟨rfl, rfl⟩ := Arguments.text_append_unique (List.cons.inj hrest).2
    exact ⟨rfl, rfl⟩

end

/-- **The grammar is unambiguous**: a text has at most one derivation. -/
theorem Derivation.text_injective {d e : Derivation} (h : d.text = e.text) : d = e := by
  refine (Derivation.text_append_unique delimited_nil delimited_nil ?_).1
  rw [h]

end FacetModel.DeclaredType.Expression
