import FacetModel.Json.Text
import FacetModel.Yaml.Cursor

/-!
# Scalars of YAML text

A scalar in quotes ends with its closing quote, and a plain one where a colon or a comment makes
sense or, in a block, where the next line is not indented. Both may go over several lines, and the
gaps between their words are folded. A literal or folded block keeps its lines as far as they are
indented.
-/

namespace FacetModel.Yaml

/-- A scalar that was read, and the place behind it. -/
abbrev Scanned := Option (List Char × Cursor)

/-! ### Quoted scalars -/

/-- Reads a scalar between single quotes, after the opening one. A quote is written twice. -/
def singleQuoted? : Nat → List Char → Cursor → Scanned
  | 0, _, _ => none
  | steps + 1, acc, c =>
    if c.atStartMarker || c.atEndMarker then none
    else
      match c.rest with
      | [] => none
      | '\'' :: '\'' :: rest => singleQuoted? steps (acc ++ ['\'']) (c.pass 2 rest)
      | '\'' :: rest => some (acc, c.pass 1 rest)
      | x :: rest =>
        if isBlank x || isBreak x then do
          let (gap, c) ← Gap.read 0 c
          singleQuoted? steps (acc ++ gap.text) c
        else singleQuoted? steps (acc ++ [x]) (c.pass 1 rest)

/-- The character that a backslash followed by a letter stands for. -/
def shortEscape? : Char → Option Char
  | '0' => some '\x00'
  | 'a' => some '\x07'
  | 'b' => some '\x08'
  | 't' => some '\t'
  | '\t' => some '\t'
  | 'n' => some '\n'
  | 'v' => some '\x0b'
  | 'f' => some '\x0c'
  | 'r' => some '\r'
  | 'e' => some '\x1b'
  | ' ' => some ' '
  | '"' => some '"'
  | '/' => some '/'
  | '\\' => some '\\'
  | 'N' => some '\u0085'
  | '_' => some '\u00a0'
  | 'L' => some '\u2028'
  | 'P' => some '\u2029'
  | _ => none

/-- How many hexadecimal digits follow a backslash and a letter. -/
def escapeDigits? : Char → Option Nat
  | 'x' => some 2
  | 'u' => some 4
  | 'U' => some 8
  | _ => none

/-- The character of some hexadecimal digits. -/
def hexChar? (digits : List Char) : Option Char := do
  let n ← digits.foldlM (fun n c => do return n * 16 + (← Json.Token.hexDigit? c)) 0
  if (0xD800 ≤ n ∧ n ≤ 0xDFFF) ∨ 0x10FFFF < n then none else some (Char.ofNat n)

/-- The character of an escape, after its backslash, with what is left and how many characters
were read. -/
def escape? : List Char → Option (Char × Nat × List Char)
  | [] => none
  | letter :: rest =>
    match escapeDigits? letter with
    | some count =>
      if rest.length < count then none
      else (hexChar? (rest.take count)).map fun x => (x, count + 1, rest.drop count)
    | none => (shortEscape? letter).map fun x => (x, 1, rest)

/-- Reads a scalar between double quotes, after the opening one. A backslash at the end of a line
joins it to the next line without a space. -/
def doubleQuoted? : Nat → List Char → Cursor → Scanned
  | 0, _, _ => none
  | steps + 1, acc, c =>
    if c.atStartMarker || c.atEndMarker then none
    else
      match c.rest with
      | [] => none
      | '"' :: rest => some (acc, c.pass 1 rest)
      | '\\' :: rest =>
        match rest with
        | x :: next =>
          if isBreak x then do
            let (gap, c) ← Gap.read 0 ((c.pass 1 rest).nextLine next)
            doubleQuoted? steps (acc ++ gap.breaks) c
          else do
            let (x, count, rest) ← escape? rest
            doubleQuoted? steps (acc ++ [x]) (c.pass (count + 1) rest)
        | [] => none
      | x :: rest =>
        if isBlank x || isBreak x then do
          let (gap, c) ← Gap.read 0 c
          doubleQuoted? steps (acc ++ gap.text) c
        else doubleQuoted? steps (acc ++ [x]) (c.pass 1 rest)

/-! ### Plain scalars -/

/-- Characters with a meaning of their own at the start of a scalar. -/
def indicators : List Char :=
  ['-', '?', ':', ',', '[', ']', '{', '}', '#', '&', '*', '!', '|', '>', '\'', '"', '%', '@',
    '\x60']

/-- Characters with a meaning of their own in a flow collection. -/
def isFlowIndicator (c : Char) : Bool := c ∈ [',', '[', ']', '{', '}']

/-- Whether a plain scalar starts here. -/
def startsPlain (flow : Bool) : List Char → Bool
  | [] => false
  | x :: rest =>
    if isBlank x || isBreak x then false
    else if x ∉ indicators then true
    else if x = '-' then !isGap rest
    else (x == '?' || x == ':') && !flow && !isGap rest

/-- The characters up to the next gap, or to where a plain scalar ends. -/
def word? (flow : Bool) : List Char → Option (List Char × List Char)
  | [] => some ([], [])
  | x :: rest =>
    if isBlank x || isBreak x || (x == ':' && isGap rest) || (flow && isFlowIndicator x) then
      some ([], x :: rest)
    else if flow && x == ':' && (rest.head?.any fun y => isFlowIndicator y || y == '?') then none
    else (word? flow rest).map fun (w, rest) => (x :: w, rest)

/-- Reads the words of a plain scalar, after the words `acc` and a gap. In a block, lines that go
on with the scalar reach the column `indent`. -/
def plain? (flow : Bool) (indent : Nat) : Nat → List Char → Gap → Cursor → Scanned
  | 0, _, _, _ => none
  | steps + 1, acc, gap, c =>
    if c.atStop || c.rest.head? == some '#' then some (acc, c)
    else do
      let (w, rest) ← word? flow c.rest
      if w.isEmpty then return (acc, c)
      let acc := acc ++ gap.text ++ w
      let c := c.pass w.length rest
      if !isGap rest then return (acc, c)
      let (gap, c) ← Gap.read indent c
      if !flow && decide (c.column < indent) then return (acc, c)
      plain? flow indent steps acc gap c

/-! ### Literal and folded blocks -/

/-- What happens to the line breaks at the end of a block. -/
inductive Chomping where
  | strip
  | clip
  | keep
deriving DecidableEq, Repr

/-- The chomping and the indentation that a block gives behind its first character. -/
def blockHeader (s : List Char) : Option (Chomping × Option Nat × List Char) :=
  let chomping : List Char → Chomping × List Char
    | '-' :: r => (.strip, r)
    | '+' :: r => (.keep, r)
    | r => (.clip, r)
  let digit : List Char → Option (Option Nat × List Char)
    | d :: r =>
      if d = '0' then none
      else if d.isDigit then some (some (Json.Token.digit d), r)
      else some (none, d :: r)
    | [] => some (none, [])
  match s with
  | '-' :: _ | '+' :: _ => do
    let (ch, s) := chomping s
    let (d, s) ← digit s
    return (ch, d, s)
  | s => do
    let (d, s) ← digit s
    let (ch, s) := chomping s
    return (ch, d, s)

/-- Goes over the spaces before the column `indent`, if that is known, and over empty lines.
Gives the breaks of those lines, the greatest column that was met, and the place. No tab may stand
where spaces are skipped. -/
def emptyLines? (indent : Option Nat) (breaks : List Char) (deepest : Nat) (c : Cursor) :
    List Char → Option (List Char × Nat × Cursor)
  | [] => some (breaks, max deepest c.column, { c with rest := [] })
  | x :: rest =>
    let inside := indent.all fun n => decide (c.column < n)
    if x == ' ' && inside then emptyLines? indent breaks deepest (c.advance 1 rest) rest
    else if x == '\t' && inside then none
    else if isBreak x then
      emptyLines? indent (breaks ++ [x]) (max deepest c.column) (c.nextLine rest) rest
    else some (breaks, max deepest c.column, { c with rest := x :: rest })

/-- Reads the lines of a block that reach the column `indent`. The pending break ended the line
before, and further breaks ended empty lines. -/
def blockLines? (folded : Bool) (indent : Nat) :
    Nat → List Char → List Char → List Char → Bool → Cursor →
      Option (List Char × List Char × List Char × Cursor)
  | 0, _, _, _, _, _ => none
  | steps + 1, acc, pending, further, afterBlank, c =>
    if c.column != indent || c.atEnd then some (acc, pending, further, c)
    else do
      let startsBlank := c.rest.head?.any isBlank
      let joint :=
        if folded && pending == ['\n'] && !afterBlank && !startsBlank then
          if further.isEmpty then [' '] else []
        else pending
      let line := c.rest.takeWhile fun x => !isBreak x
      let acc := acc ++ joint ++ further ++ line
      let c := c.pass line.length (c.rest.drop line.length)
      match c.rest with
      | [] => return (acc, [], [], c)
      | b :: rest =>
        let next := c.nextLine rest
        let (further, _, next) ← emptyLines? (some indent) [] 0 next next.rest
        blockLines? folded indent steps acc [b] further startsBlank next

/-- Reads a literal or folded block, after its first character. Its lines reach at least the column
`outer`. -/
def block? (folded : Bool) (outer : Nat) (c : Cursor) : Scanned := do
  let (chomping, given, rest) ← blockHeader c.rest
  let rest := rest.dropWhile isBlank
  let rest := if rest.head? == some '#' then rest.dropWhile fun x => !isBreak x else rest
  let c := c.advance (c.rest.length - rest.length) rest
  match rest with
  | [] => return ([], { c with fresh := true })
  | x :: rest =>
    if !isBreak x then none
    else
      let c := c.nextLine rest
      let fixed := given.map fun n => outer - 1 + n
      let (further, deepest, c) ← emptyLines? fixed [] 0 c c.rest
      let indent := fixed.getD (max (max deepest outer) 1)
      let (acc, pending, further, c) ←
        blockLines? folded indent (c.rest.length + 1) [] [] further false c
      let ending := match chomping with
        | .strip => []
        | .clip => pending
        | .keep => pending ++ further
      return (acc ++ ending, { c with fresh := true })

end FacetModel.Yaml
