import FacetModel.Text.Hidden

/-!
# Text quoted in messages

A message quotes a piece of input so that all of it can be seen: quotes, backslashes, line ends
and tabs are escaped by a letter, and every other character without a shape by its code point.
-/

namespace FacetModel.Text

/-- The code point of a character in hexadecimal, between braces. -/
def codePoint (c : Char) : List Char :=
  ['\\', 'u', '\x7b'] ++ Nat.toDigits 16 c.toNat ++ ['\x7d']

/-- A character as it is shown between quotes. -/
def shown : Char → List Char
  | '\x00' => ['\\', '0']
  | '\t' => ['\\', 't']
  | '\r' => ['\\', 'r']
  | '\n' => ['\\', 'n']
  | '\\' => ['\\', '\\']
  | '"' => ['\\', '"']
  | c => if isHidden c then codePoint c else [c]

/-- A piece of input between quotes. -/
def quoted (s : List Char) : String := "\"" ++ String.ofList (s.flatMap shown) ++ "\""

end FacetModel.Text
