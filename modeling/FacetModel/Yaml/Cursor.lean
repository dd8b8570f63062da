/-!
# Places in a YAML text

A `Cursor` is a place in a text: what is left to read, the line and the column, and whether a new
block may start there. `Cursor.toToken` goes over blanks, comments and line breaks, and `Gap` is
what stands between the words of a scalar that goes over several lines.
-/

namespace FacetModel.Yaml

/-- Whether a character ends a line. -/
def isBreak (c : Char) : Bool := c == '\n' || c == '\u2028' || c == '\u2029'

/-- Whether a character separates words of a line. -/
def isBlank (c : Char) : Bool := c == ' ' || c == '\t'

/-- Whether a text is at its end, at a blank or at a line break. -/
def isGap : List Char → Bool
  | [] => true
  | c :: _ => isBlank c || isBreak c

/-- Whether a text starts with a word that is followed by a gap. -/
def startsWord (word s : List Char) : Bool := word.isPrefixOf s && isGap (s.drop word.length)

/-- Whether a character may stand in a document. -/
def isPrintable (c : Char) : Bool :=
  let n := c.toNat
  n == 0x9 || n == 0xA || n == 0xD || (0x20 ≤ n && n ≤ 0x7E) || n == 0x85
    || (0xA0 ≤ n && n ≤ 0xD7FF) || (0xE000 ≤ n && n ≤ 0xFFFD) || 0x10000 ≤ n

/-- A text in which every line but those ended by separators of lines and paragraphs is ended by
a line feed. -/
def unifyBreaks : List Char → List Char
  | '\r' :: '\n' :: rest => '\n' :: unifyBreaks rest
  | '\r' :: rest => '\n' :: unifyBreaks rest
  | '\u0085' :: rest => '\n' :: unifyBreaks rest
  | c :: rest => c :: unifyBreaks rest
  | [] => []

/-- A place in a text. -/
structure Cursor where
  /-- What is left to read. -/
  rest : List Char
  /-- How many characters were read. -/
  index : Nat
  line : Nat
  column : Nat
  /-- Whether a block list or a block object may start here. -/
  fresh : Bool
deriving Repr

namespace Cursor

/-- The start of a text. -/
def start (s : List Char) : Cursor := ⟨s, 0, 0, 0, true⟩

/-- The place behind some characters of the same line, with what is left. -/
def advance (c : Cursor) (count : Nat) (rest : List Char) : Cursor :=
  { c with rest, index := c.index + count, column := c.column + count }

/-- The place behind some characters of the same line, where no block may start. -/
def pass (c : Cursor) (count : Nat) (rest : List Char) : Cursor :=
  { c.advance count rest with fresh := false }

/-- The start of the next line, with what is left. -/
def nextLine (c : Cursor) (rest : List Char) : Cursor :=
  { rest, index := c.index + 1, line := c.line + 1, column := 0, fresh := true }

/-- Whether the text is at its end. -/
def atEnd (c : Cursor) : Bool := c.rest.isEmpty

/-- Whether a line starts that marks the start of a document. -/
def atStartMarker (c : Cursor) : Bool := c.column == 0 && startsWord ['-', '-', '-'] c.rest

/-- Whether a line starts that marks the end of a document. -/
def atEndMarker (c : Cursor) : Bool := c.column == 0 && startsWord ['.', '.', '.'] c.rest

/-- Whether no more of the document follows. -/
def atStop (c : Cursor) : Bool := c.atEnd || c.atStartMarker || c.atEndMarker

/-- Whether an item of a block list starts here. -/
def atDash (c : Cursor) : Bool := startsWord ['-'] c.rest

/-- Goes over blanks, comments and line breaks. Tabs count as blanks inside flow collections and
where no block may start. -/
def toTokenFrom (flow comment : Bool) (c : Cursor) : List Char → Cursor
  | [] => { c with rest := [] }
  | x :: rest =>
    if isBreak x then toTokenFrom flow false (c.nextLine rest) rest
    else if comment || x == ' ' || (x == '\t' && (flow || !c.fresh)) then
      toTokenFrom flow comment (c.advance 1 rest) rest
    else if x == '#' then toTokenFrom flow true (c.advance 1 rest) rest
    else { c with rest := x :: rest }

/-- The next token of a block. -/
def toToken (c : Cursor) : Cursor := toTokenFrom false false c c.rest

/-- The next token of a flow collection. -/
def toFlowToken (c : Cursor) : Cursor := toTokenFrom true false c c.rest

/-- The place behind blanks of the same line. -/
def skipBlanks (c : Cursor) : Cursor :=
  let rest := c.rest.dropWhile isBlank
  c.advance (c.rest.length - rest.length) rest

end Cursor

/-! ### Gaps between words -/

/-- The blanks and the line breaks between two words of a scalar. Blanks count only where there is
no break. -/
structure Gap where
  blanks : List Char := []
  breaks : List Char := []

/-- Whether the words stand on different lines. -/
def Gap.isBroken (g : Gap) : Bool := !g.breaks.isEmpty

/-- What a gap stands for: a single line feed becomes a space, and of several breaks the first line
feed is dropped. -/
def Gap.text (g : Gap) : List Char :=
  match g.breaks with
  | [] => g.blanks
  | ['\n'] => [' ']
  | '\n' :: more => more
  | breaks => breaks

/-- Reads a gap. On a further line, no tab may stand before the column `indent`. -/
def Gap.readFrom (indent : Nat) (g : Gap) (c : Cursor) : List Char → Option (Gap × Cursor)
  | [] => some (g, { c with rest := [] })
  | x :: rest =>
    if isBreak x then readFrom indent { g with breaks := g.breaks ++ [x] } (c.nextLine rest) rest
    else if isBlank x then
      if g.isBroken && x == '\t' && decide (c.column < indent) then none
      else
        let g := if g.isBroken then g else { g with blanks := g.blanks ++ [x] }
        readFrom indent g (c.advance 1 rest) rest
    else some (g, { c with rest := x :: rest })

/-- Reads a gap. On a further line, no tab may stand before the column `indent`. -/
def Gap.read (indent : Nat) (c : Cursor) : Option (Gap × Cursor) := readFrom indent {} c c.rest

end FacetModel.Yaml
