import FacetModel.Document
import FacetModel.Yaml.Scalar

/-!
# Writing YAML text

A document is written in block style. The items of a list stand in the column of the key that the
list belongs to, all other lines below a key or a dash are indented by two columns, and an
alternative is a tag in front of its content. An alternative cannot be the content of another one.

A text is written plain if no reader could take it for anything else, and in quotes otherwise;
a text of several lines is a literal block (`Scalar.write`).
-/

namespace FacetModel.Yaml

/-- A document in lines: what stands behind its key or dash, and the lines below. -/
structure Lines where
  head : String
  below : List String := []
  /-- Whether the lines below are items of a list. -/
  isList : Bool := false

namespace Lines

/-- A line two columns further, unless it is empty. -/
def indent (line : String) : String := if line.isEmpty then line else "  " ++ line

/-- A text that is followed by what stands behind it. -/
def behind (start head : String) : String :=
  if head.isEmpty then start else start ++ " " ++ head

/-- The lines of a member. -/
def member (key : String) (l : Lines) : List String :=
  behind (key ++ ":") l.head :: if l.isList then l.below else l.below.map indent

/-- The lines of an item. -/
def item (l : Lines) : List String :=
  if l.head.isEmpty then
    match l.below with
    | [] => ["-"]
    | first :: rest => ("- " ++ first) :: rest.map indent
  else ("- " ++ l.head) :: l.below.map indent

/-- The lines of a list. -/
def ofItems (items : List Lines) : Lines :=
  if items.isEmpty then { head := "[]" }
  else { head := "", below := items.flatMap item, isList := true }

/-- The lines of an object. -/
def ofMembers (members : List (String × Lines)) : Lines :=
  if members.isEmpty then { head := "\x7b\x7d" }
  else { head := "", below := members.flatMap fun m => member m.1 m.2 }

/-- The lines behind a tag. -/
def tagged (tag : String) (l : Lines) : Lines := { l with head := behind ("!" ++ tag) l.head }

/-- The lines of a whole document. -/
def all (l : Lines) : List String := if l.head.isEmpty then l.below else l.head :: l.below

end Lines

namespace Scalar

/-! ### Plain texts -/

/-- Whether a character is white space or the end of a line. -/
def isSpace (c : Char) : Bool :=
  c ∈ [' ', '\t', '\r', '\n', '\u0085', '\u2028', '\u2029']

/-- Whether a text starts with white space or is at its end. -/
def atSpace : List Char → Bool
  | [] => true
  | c :: _ => isSpace c

/-- Whether a character is written as it is. -/
def isVisible (c : Char) : Bool :=
  let n := c.toNat
  n == 0xA || (0x20 ≤ n && n ≤ 0x7E) || (0xA0 ≤ n && n ≤ 0xD7FF)
    || (0xE000 ≤ n && n ≤ 0xFFFD && n != 0xFEFF)

/-- Characters that start something else than a plain text. -/
def leading : List Char :=
  ['#', ',', '[', ']', '{', '}', '&', '*', '!', '|', '>', '\'', '"', '%', '@', '\x60']

/-- Whether the rest of a text, behind white space or not, has no colon before white space and no
comment sign behind white space. -/
def isPlainRest (afterSpace : Bool) : List Char → Bool
  | [] => true
  | c :: rest =>
    !(c == ':' && atSpace rest) && !(c == '#' && afterSpace) && isPlainRest (isSpace c) rest

/-- Whether a text on one line has a plain form. -/
def isPlainText (s : List Char) : Bool :=
  match s with
  | [] => false
  | c :: rest =>
    c ∉ leading && !(c ∈ ['?', ':', '-'] && atSpace rest) && c != ' '
      && s.getLast? != some ' ' && !(['-', '-', '-'].isPrefixOf s)
      && !(['.', '.', '.'].isPrefixOf s) && isPlainRest (isSpace c) rest

/-- Words that some readers take for truth values, for nothing or for a number. -/
def reserved : List String :=
  ["true", "false", "null", "~", "y", "yes", "n", "no", "on", "off", "nil", "nan"]

/-- Whether a reader could take a plain text for something else. -/
def isAmbiguous (s : String) : Bool :=
  match s.toList with
  | [] => true
  | c :: rest =>
    c.isDigit || c ∈ ['-', '.', '+'] || String.ofList ((c :: rest).map Char.toLower) ∈ reserved
      || (match (Scalar.plain s).json? with
        | some (.str _) => false
        | _ => true)

/-! ### Quoted texts -/

/-- The letter behind a backslash that stands for a character. -/
def escapeLetter? (c : Char) : Option Char :=
  [('\x00', '0'), ('\x07', 'a'), ('\x08', 'b'), ('\t', 't'), ('\n', 'n'), ('\x0b', 'v'),
    ('\x0c', 'f'), ('\r', 'r'), ('\x1b', 'e'), ('"', '"'), ('\\', '\\'), ('\u0085', 'N'),
    ('\u2028', 'L'), ('\u2029', 'P')].lookup c

/-- A number in at least some hexadecimal digits. -/
def hexText (width n : Nat) : List Char :=
  let digits := (Nat.toDigits 16 n).map Char.toUpper
  List.replicate (width - digits.length) '0' ++ digits

/-- A character between double quotes. -/
def escape (c : Char) : List Char :=
  match escapeLetter? c with
  | some letter => ['\\', letter]
  | none =>
    let n := c.toNat
    if isVisible c then [c]
    else if n ≤ 0xFF then '\\' :: 'x' :: hexText 2 n
    else if n ≤ 0xFFFF then '\\' :: 'u' :: hexText 4 n
    else '\\' :: 'U' :: hexText 8 n

/-- A text between double quotes. -/
def doubleQuoted (s : List Char) : String :=
  "\"" ++ String.ofList (s.flatMap escape) ++ "\""

/-- A text between single quotes. -/
def singleQuoted (s : List Char) : String :=
  "'" ++ String.ofList (s.flatMap fun c => if c = '\'' then [c, c] else [c]) ++ "'"

/-! ### Literal blocks -/

/-- Whether a line ends behind a space. -/
def hasSpaceBreak : List Char → Bool
  | ' ' :: '\n' :: _ => true
  | _ :: rest => hasSpaceBreak rest
  | [] => false

/-- What stands behind the sign of a literal block: its indentation, if its first line starts with
a space, and what happens to the breaks at its end. -/
def literalHint (s : List Char) : String :=
  (if s.head?.any fun c => c == ' ' || c == '\n' then "2" else "")
    ++ match s.reverse with
      | '\n' :: '\n' :: _ => "+"
      | ['\n'] => "+"
      | '\n' :: _ => ""
      | _ => "-"

/-- The lines of a text. A break at its end starts no further line. -/
def textLines (line : List Char) : List Char → List String
  | [] => if line.isEmpty then [] else [String.ofList line.reverse]
  | c :: rest =>
    if c = '\n' then String.ofList line.reverse :: textLines [] rest else textLines (c :: line) rest

/-- A text as it is written. -/
def write (s : String) : Lines :=
  let cs := s.toList
  let visible := cs.all isVisible
  if '\n' ∈ cs then
    if visible && cs.getLast? != some ' ' && !hasSpaceBreak cs then
      { head := "|" ++ literalHint cs, below := textLines [] cs }
    else { head := doubleQuoted cs }
  else if !visible then { head := doubleQuoted cs }
  else if isAmbiguous s || !isPlainText cs then { head := singleQuoted cs }
  else { head := s }

/-- A text as it is written for a key. -/
def writeKey (s : String) : String :=
  if '\n' ∈ s.toList then doubleQuoted s.toList else (write s).head

/-- A JSON scalar as it is written. -/
def writeJson : Json.Scalar → Lines
  | .null => { head := "null" }
  | .bool b => { head := if b then "true" else "false" }
  | .num (.int i) => { head := Number.intText i }
  | .num (.double d) => { head := d.briefText }
  | .str s => write s

end Scalar

/-! ### Documents -/

namespace Lines

mutual

/-- The lines of a JSON value. -/
def ofJson : Json → Lines
  | .scalar s => Scalar.writeJson s
  | .list items => ofItems (ofJsonItems items)
  | .object members => ofMembers (ofJsonMembers members)

/-- The lines of the items of a JSON list. -/
def ofJsonItems : List Json → List Lines
  | [] => []
  | j :: rest => ofJson j :: ofJsonItems rest

/-- The keys and the lines of the members of a JSON object. -/
def ofJsonMembers : List (String × Json) → List (String × Lines)
  | [] => []
  | (name, j) :: rest => (Scalar.writeKey name, ofJson j) :: ofJsonMembers rest

end

mutual

/-- The lines of a document, if no alternative is the content of another one. -/
def ofDocument? : Document → Option Lines
  | .value j => some (ofJson j)
  | .list items => (ofDocuments? items).map ofItems
  | .record fields => (ofFields? fields).map ofMembers
  | .alternative tag content =>
    match content with
    | .alternative _ _ => none
    | .value j => some (tagged tag (ofJson j))
    | .list items => (ofDocuments? items).map fun l => tagged tag (ofItems l)
    | .record fields => (ofFields? fields).map fun l => tagged tag (ofMembers l)

/-- The lines of the items of a list. -/
def ofDocuments? : List Document → Option (List Lines)
  | [] => some []
  | d :: rest => do return (← ofDocument? d) :: (← ofDocuments? rest)

/-- The keys and the lines of the fields of a record. -/
def ofFields? : List (String × Document) → Option (List (String × Lines))
  | [] => some []
  | (name, d) :: rest => do
    return (Scalar.writeKey name, ← ofDocument? d) :: (← ofFields? rest)

end

end Lines

/-- A document in YAML, if no alternative is the content of another one. -/
def render? (d : Document) : Option String :=
  (Lines.ofDocument? d).map fun l => String.join (l.all.map (· ++ "\n"))

end FacetModel.Yaml
