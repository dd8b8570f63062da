import FacetModel.DeclaredType
import FacetModel.Text.Quoted

/-!
# Type expressions

A type expression is a name, followed or not by arguments between angle brackets:

```text
type ::= blanks name blanks ['<' type (',' type)* '>' blanks]
```

A name starts with a letter or an underscore, and goes on with letters, digits, underscores and
dots. `Expression.type?` reads the longest expression at the start of a text: arguments that are
not complete are not read at all. `DeclaredType.parse` accepts a text that is an expression as a
whole, and else tells what was left.
-/

namespace FacetModel.DeclaredType

namespace Expression

/-- Characters that may stand around names and brackets. -/
def isBlank (c : Char) : Bool := c == ' ' || c == '\t' || c == '\r' || c == '\n'

/-- Characters a name may start with. -/
def isNameStart (c : Char) : Bool := c.isAlpha || c == '_'

/-- Characters a name may go on with. -/
def isNameRest (c : Char) : Bool := c.isAlphanum || c == '_' || c == '.'

/-- A text without the blanks at its start. -/
def skipBlanks (s : List Char) : List Char := s.dropWhile isBlank

theorem length_dropWhile_le (p : Char → Bool) (s : List Char) :
    (s.dropWhile p).length ≤ s.length := (List.dropWhile_sublist p).length_le

/-- What was read at the start of a text, and the rest, which is shorter. -/
abbrev Prefix (α : Type) (s : List Char) := α × { rest : List Char // rest.length < s.length }

/-- The name at the start of a text, with the blanks around it. -/
def name? (s : List Char) : Option (Prefix String s) :=
  match h : skipBlanks s with
  | [] => none
  | c :: rest =>
    if isNameStart c then
      some (String.ofList (c :: rest.takeWhile isNameRest),
        ⟨skipBlanks (rest.dropWhile isNameRest), by
          have h₁ : (skipBlanks s).length ≤ s.length := length_dropWhile_le _ _
          have h₂ : (rest.dropWhile isNameRest).length ≤ rest.length := length_dropWhile_le _ _
          have h₃ : (skipBlanks (rest.dropWhile isNameRest)).length
              ≤ (rest.dropWhile isNameRest).length := length_dropWhile_le _ _
          rw [h, List.length_cons] at h₁
          omega⟩)
    else none

/-- The characters behind the first one are fewer than those of a longer text. -/
theorem length_tail_lt {c : Char} {rest r s : List Char} (h : r.length < s.length)
    (hr : r = c :: rest) : rest.length < s.length := by
  subst hr
  exact Nat.lt_of_succ_lt h

mutual

/-- The longest type expression at the start of a text. -/
def type? (s : List Char) : Option (Prefix DeclaredType s) :=
  match name? s with
  | none => none
  | some (name, rest) =>
    match hr : rest.val with
    | '<' :: inner =>
      match arguments? inner with
      | some (args, behind) =>
        some (ofParts name (some args),
          ⟨behind.val, Nat.lt_trans behind.property (length_tail_lt rest.property hr)⟩)
      | none => some (ofParts name none, rest)
    | _ => some (ofParts name none, rest)
termination_by (s.length, 0)
decreasing_by exact Prod.Lex.left _ _ (length_tail_lt rest.property hr)

/-- The arguments after an opening bracket, up to the blanks behind the closing one. -/
def arguments? (s : List Char) : Option (Prefix (List DeclaredType) s) :=
  match type? s with
  | none => none
  | some (t, rest) =>
    match hr : rest.val with
    | ',' :: more =>
      match arguments? more with
      | some (args, behind) =>
        some (t :: args,
          ⟨behind.val, Nat.lt_trans behind.property (length_tail_lt rest.property hr)⟩)
      | none => none
    | '>' :: behind =>
      some ([t], ⟨skipBlanks behind,
        Nat.lt_of_le_of_lt (length_dropWhile_le _ _) (length_tail_lt rest.property hr)⟩)
    | _ => none
termination_by (s.length, 1)
decreasing_by
  · exact Prod.Lex.right _ Nat.zero_lt_one
  · exact Prod.Lex.left _ _ (length_tail_lt rest.property hr)

end

end Expression

/-- Why a text is no type expression. -/
inductive ExpressionFault where
  /-- No name starts the text after its blanks. -/
  | noName
  /-- Something is left behind the longest expression. -/
  | leftOver
deriving DecidableEq, Repr

/-- A text that is no type expression. -/
structure ExpressionError where
  /-- The text. -/
  expression : String
  /-- What is wrong with it. -/
  fault : ExpressionFault
  /-- The part of it that was not read. -/
  rest : List Char
deriving DecidableEq, Repr

namespace ExpressionError

/-- The word for a fault. -/
def code : ExpressionFault → String
  | .noName => "TakeWhile1"
  | .leftOver => "Eof"

/-- The reason given for the error. -/
def reason (e : ExpressionError) : String :=
  "Parsing Error: Error \x7b input: " ++ Text.quoted e.rest ++ ", code: " ++ code e.fault ++ " \x7d"

/-- The message of the error. -/
def message (e : ExpressionError) : String :=
  "Invalid type expression `" ++ e.expression ++ "`: " ++ e.reason

end ExpressionError

/-- The type of an expression. -/
def parse (expression : String) : Except ExpressionError DeclaredType :=
  match Expression.type? expression.toList with
  | none => .error ⟨expression, .noName, Expression.skipBlanks expression.toList⟩
  | some (t, ⟨[], _⟩) => .ok t
  | some (_, ⟨rest, _⟩) => .error ⟨expression, .leftOver, rest⟩

end FacetModel.DeclaredType
