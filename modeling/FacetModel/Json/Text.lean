import FacetModel.Json
import FacetModel.Number.Numeral

/-!
# Reading JSON text

A JSON text is split into tokens, and the tokens are folded into a value by `Partial.step`, which
keeps the containers that are still open, innermost first. A text may nest at most
`Json.nestingLimit` containers.

`Json.readWritten?` keeps each member of an object as it is written, also one that is written
twice; `Json.read?` gives such a member its last value.
-/

namespace FacetModel.Json

/-- What a JSON text is made of. -/
inductive Token where
  | openList
  | closeList
  | openObject
  | closeObject
  | comma
  | colon
  | scalar (value : Scalar)
deriving Repr

namespace Token

/-- Characters that may stand between tokens. -/
def isBlank (c : Char) : Bool := c == ' ' || c == '\n' || c == '\t' || c == '\r'

/-- The number of a decimal digit. -/
def digit (c : Char) : Nat := c.toNat - '0'.toNat

/-- The number of a hexadecimal digit. -/
def hexDigit? (c : Char) : Option Nat :=
  if '0' ≤ c ∧ c ≤ '9' then some (c.toNat - '0'.toNat)
  else if 'a' ≤ c ∧ c ≤ 'f' then some (c.toNat - 'a'.toNat + 10)
  else if 'A' ≤ c ∧ c ≤ 'F' then some (c.toNat - 'A'.toNat + 10)
  else none

/-- The number of four hexadecimal digits. -/
def hex4? (a b c d : Char) : Option Nat := do
  return (((← hexDigit? a) * 16 + (← hexDigit? b)) * 16 + (← hexDigit? c)) * 16 + (← hexDigit? d)

/-- The character that a backslash followed by a letter stands for. -/
def shortEscape? : Char → Option Char
  | '"' => some '"'
  | '\\' => some '\\'
  | '/' => some '/'
  | 'b' => some '\x08'
  | 'f' => some '\x0c'
  | 'n' => some '\n'
  | 'r' => some '\r'
  | 't' => some '\t'
  | _ => none

/-- Reads the rest of a string up to its closing quote. A character outside the basic plane may
be escaped as a pair of surrogates, and half a pair is refused. -/
def stringRest? : List Char → List Char → Option (List Char × List Char)
  | acc, '"' :: rest => some (acc.reverse, rest)
  | acc, '\\' :: 'u' :: a :: b :: c :: d :: rest => do
    let n ← hex4? a b c d
    if 0xDC00 ≤ n ∧ n < 0xE000 then none
    else if 0xD800 ≤ n ∧ n < 0xDC00 then
      match rest with
      | '\\' :: 'u' :: a :: b :: c :: d :: rest =>
        let m ← hex4? a b c d
        if 0xDC00 ≤ m ∧ m < 0xE000 then
          stringRest? (Char.ofNat (0x10000 + (n - 0xD800) * 1024 + (m - 0xDC00)) :: acc) rest
        else none
      | _ => none
    else stringRest? (Char.ofNat n :: acc) rest
  | acc, '\\' :: c :: rest => do stringRest? ((← shortEscape? c) :: acc) rest
  | acc, c :: rest => if c.toNat < 0x20 then none else stringRest? (c :: acc) rest
  | _, [] => none
termination_by _ s => s.length

/-- The digits at the start of a text, and the rest. -/
def digits (s : List Char) : List Nat × List Char :=
  ((s.takeWhile Char.isDigit).map digit, s.dropWhile Char.isDigit)

/-- The part of a numeral behind its point, with at least one digit. -/
def fraction? : List Char → Option (Option (List Nat) × List Char)
  | '.' :: rest =>
    match digits rest with
    | ([], _) => none
    | (ds, rest) => some (some ds, rest)
  | rest => some (none, rest)

/-- The exponent of a numeral, with at least one digit. -/
def exponent? (s : List Char) : Option (Option (Bool × List Nat) × List Char) :=
  match s with
  | c :: rest =>
    if c = 'e' ∨ c = 'E' then
      let (down, rest) := match rest with
        | '+' :: r => (false, r)
        | '-' :: r => (true, r)
        | r => (false, r)
      match digits rest with
      | ([], _) => none
      | (ds, rest) => some (some (down, ds), rest)
    else some (none, s)
  | [] => some (none, s)

/-- A numeral at the start of a text, without a zero before other digits. -/
def numeral? (s : List Char) : Option (Numeral × List Char) := do
  let (negative, s) := match s with
    | '-' :: r => (true, r)
    | r => (false, r)
  let (whole, s) := digits s
  match whole with
  | [] | 0 :: _ :: _ => none
  | _ =>
    let (fraction, s) ← fraction? s
    let (exponent, s) ← exponent? s
    return (⟨negative, whole, fraction, exponent⟩, s)

/-- The token at the start of a text that is not blank, and the rest. -/
def next? : List Char → Option (Token × List Char)
  | '[' :: rest => some (.openList, rest)
  | ']' :: rest => some (.closeList, rest)
  | '{' :: rest => some (.openObject, rest)
  | '}' :: rest => some (.closeObject, rest)
  | ',' :: rest => some (.comma, rest)
  | ':' :: rest => some (.colon, rest)
  | '"' :: rest => (stringRest? [] rest).map fun (s, rest) => (.scalar (.str (String.ofList s)), rest)
  | 't' :: 'r' :: 'u' :: 'e' :: rest => some (.scalar (.bool true), rest)
  | 'f' :: 'a' :: 'l' :: 's' :: 'e' :: rest => some (.scalar (.bool false), rest)
  | 'n' :: 'u' :: 'l' :: 'l' :: rest => some (.scalar .null, rest)
  | s => do
    let (n, rest) ← numeral? s
    return (.scalar (.num (← n.value?)), rest)

/-- The tokens of a text, found in at most as many steps as there are characters. -/
def allWithin? : Nat → List Char → Option (List Token)
  | 0, s => if s.all isBlank then some [] else none
  | steps + 1, s =>
    match s.dropWhile isBlank with
    | [] => some []
    | s => do
      let (t, rest) ← next? s
      return t :: (← allWithin? steps rest)

/-- The tokens of a text. -/
def all? (s : List Char) : Option (List Token) := allWithin? s.length s

end Token

/-- A container that is still open: a list with its items, or an object with its members and the
name that waits for a value. Both are kept with the last one first. -/
inductive Frame where
  | list (items : List Json)
  | object (members : List (String × Json))
  | named (members : List (String × Json)) (name : String)

/-- What may come next in a text. -/
inductive Expected where
  /-- A value. -/
  | value
  /-- A value or the end of a list that is empty so far. -/
  | firstItem
  /-- A name or the end of an object that is empty so far. -/
  | firstName
  /-- A name. -/
  | name
  /-- A colon. -/
  | colon
  /-- A comma or the end of the container. -/
  | next
  /-- Nothing more. -/
  | done

/-- A value of which the first tokens have been read. -/
structure Partial where
  /-- The open containers, innermost first. -/
  frames : List Frame
  /-- What may come next. -/
  expected : Expected
  /-- The value, once it is complete. -/
  result : Option Json

/-- How many containers may be open at once. -/
def nestingLimit : Nat := 127

namespace Partial

/-- Nothing read so far. -/
def start : Partial := ⟨[], .value, none⟩

/-- Puts a complete value into the innermost open container. -/
def put (frames : List Frame) (value : Json) : Option Partial :=
  match frames with
  | [] => some ⟨[], .done, some value⟩
  | .list items :: rest => some ⟨.list (value :: items) :: rest, .next, none⟩
  | .named members name :: rest => some ⟨.object ((name, value) :: members) :: rest, .next, none⟩
  | .object _ :: _ => none

/-- Opens a container. -/
def enter (frames : List Frame) (frame : Frame) (expected : Expected) : Option Partial :=
  if frames.length < nestingLimit then some ⟨frame :: frames, expected, none⟩ else none

/-- Closes the innermost container. -/
def leaveList : List Frame → Option Partial
  | .list items :: rest => put rest (.list items.reverse)
  | _ => none

/-- Closes the innermost container. -/
def leaveObject : List Frame → Option Partial
  | .object members :: rest => put rest (.object members.reverse)
  | _ => none

/-- Takes a value where one is expected. -/
def takeValue (frames : List Frame) : Token → Option Partial
  | .scalar value => put frames (.scalar value)
  | .openList => enter frames (.list []) .firstItem
  | .openObject => enter frames (.object []) .firstName
  | _ => none

/-- Takes a name where one is expected. -/
def takeName : List Frame → Token → Option Partial
  | .object members :: rest, .scalar (.str name) => some ⟨.named members name :: rest, .colon, none⟩
  | _, _ => none

/-- Takes the next token. -/
def step (p : Partial) (t : Token) : Option Partial :=
  match p.expected, t with
  | .value, t => takeValue p.frames t
  | .firstItem, .closeList => leaveList p.frames
  | .firstItem, t => takeValue p.frames t
  | .firstName, .closeObject => leaveObject p.frames
  | .firstName, t => takeName p.frames t
  | .name, t => takeName p.frames t
  | .colon, .colon => some ⟨p.frames, .value, none⟩
  | .next, .closeList => leaveList p.frames
  | .next, .closeObject => leaveObject p.frames
  | .next, .comma =>
    match p.frames with
    | .list _ :: _ => some ⟨p.frames, .value, none⟩
    | .object _ :: _ => some ⟨p.frames, .name, none⟩
    | _ => none
  | _, _ => none

end Partial

/-- The value of a text with each member as it is written. -/
def readWritten? (text : String) : Option Json := do
  let tokens ← Token.all? text.toList
  let p ← tokens.foldlM Partial.step Partial.start
  p.result

/-- The value of a text; a member that is written twice has its last value. -/
def read? (text : String) : Option Json := (readWritten? text).map Tree.merged

end FacetModel.Json
