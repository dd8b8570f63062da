import FacetModel.Json

/-!
# Writing JSON text

`Json.render` writes a value without blanks. `Json.renderIndented` writes each item and each
member on its own line, two blanks deeper than its container. Strings escape quotes, backslashes
and control characters, and nothing else.
-/

namespace FacetModel.Json

/-- The hexadecimal digit of a number below sixteen. -/
def hexChar (n : Nat) : Char := if n < 10 then Char.ofNat (48 + n) else Char.ofNat (87 + n)

/-- A character as it is written in a string. -/
def escapeChar : Char → List Char
  | '"' => ['\\', '"']
  | '\\' => ['\\', '\\']
  | '\x08' => ['\\', 'b']
  | '\x0c' => ['\\', 'f']
  | '\n' => ['\\', 'n']
  | '\r' => ['\\', 'r']
  | '\t' => ['\\', 't']
  | c =>
    if c.toNat < 0x20 then ['\\', 'u', '0', '0', hexChar (c.toNat / 16), hexChar (c.toNat % 16)]
    else [c]

/-- A string between quotes. -/
def quote (s : String) : String := "\"" ++ String.ofList (s.toList.flatMap escapeChar) ++ "\""

/-- The text of a value that is neither a list nor an object. -/
def Scalar.text : Scalar → String
  | .null => "null"
  | .bool true => "true"
  | .bool false => "false"
  | .num n => n.text
  | .str s => quote s

mutual

/-- The text of a value, without blanks. -/
def render : Json → String
  | .scalar value => value.text
  | .list items => "[" ++ renderItems items ++ "]"
  | .object members => "\x7b" ++ renderMembers members ++ "\x7d"

/-- The items of a list, with commas between them. -/
def renderItems : List Json → String
  | [] => ""
  | [j] => render j
  | j :: rest => render j ++ "," ++ renderItems rest

/-- The members of an object, with commas between them. -/
def renderMembers : List (String × Json) → String
  | [] => ""
  | [(name, j)] => quote name ++ ":" ++ render j
  | (name, j) :: rest => quote name ++ ":" ++ render j ++ "," ++ renderMembers rest

end

/-- The start of a line at some depth. -/
def lineStart (depth : Nat) : String := "\n" ++ String.ofList (List.replicate (2 * depth) ' ')

mutual

/-- The text of a value at some depth, over several lines. -/
def renderAt (depth : Nat) : Json → String
  | .scalar value => value.text
  | .list [] => "[]"
  | .list items => "[" ++ renderItemsAt (depth + 1) items ++ lineStart depth ++ "]"
  | .object [] => "\x7b\x7d"
  | .object members =>
    "\x7b" ++ renderMembersAt (depth + 1) members ++ lineStart depth ++ "\x7d"

/-- The items of a list, each on its own line. -/
def renderItemsAt (depth : Nat) : List Json → String
  | [] => ""
  | [j] => lineStart depth ++ renderAt depth j
  | j :: rest => lineStart depth ++ renderAt depth j ++ "," ++ renderItemsAt depth rest

/-- The members of an object, each on its own line. -/
def renderMembersAt (depth : Nat) : List (String × Json) → String
  | [] => ""
  | [(name, j)] => lineStart depth ++ quote name ++ ": " ++ renderAt depth j
  | (name, j) :: rest =>
    lineStart depth ++ quote name ++ ": " ++ renderAt depth j ++ "," ++ renderMembersAt depth rest

end

/-- The text of a value over several lines. -/
def renderIndented (j : Json) : String := renderAt 0 j

end FacetModel.Json
