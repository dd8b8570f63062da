import FacetModel.Yaml.Scalar
import FacetModel.Yaml.Words

/-!
# Reading YAML text

A text holds at most one document, and no text stands for nothing. Block lists and block objects
are told by the columns of their items: an item lies in a block if its first character stands
behind the column of the block (`Block.node?`). A key stands on one line and is followed by a
colon. Flow collections are written between brackets.

Anchors, tags, directives and keys after question marks are not read.
-/

namespace FacetModel.Yaml

/-- A document that was read, and the place behind it. -/
abbrev Parsed := Option (Tree Scalar × Cursor)

/-- What is not written. -/
def nothing : Tree Scalar := .scalar (.plain "")

/-- The text of a key. -/
def keyText? : Tree Scalar → Option String
  | .scalar s => some s.text
  | _ => none

/-- The greatest number of characters of a key. -/
def keyLimit : Nat := 1024

/-- Whether what starts at one place and ends at another can be a key. -/
def isKey (start ending : Cursor) : Bool :=
  start.line == ending.line && decide (ending.index ≤ start.index + keyLimit)

/-- A scalar that was read in quotes. -/
def quoted (r : Scanned) : Parsed :=
  r.map fun (s, c) => (.scalar (.quoted (String.ofList s)), c)

/-- A scalar that was read without quotes. -/
def plain (r : Scanned) : Parsed :=
  r.map fun (s, c) => (.scalar (.plain (String.ofList s)), c)

/-- The scalar that starts here, inside or outside of flow collections. -/
def scalar? (flow : Bool) (indent : Nat) (c : Cursor) : Parsed :=
  match c.rest with
  | '\'' :: rest => quoted (singleQuoted? (c.rest.length + 1) [] (c.pass 1 rest))
  | '"' :: rest => quoted (doubleQuoted? (c.rest.length + 1) [] (c.pass 1 rest))
  | s => if startsPlain flow s then plain (plain? flow indent (s.length + 1) [] {} c) else none

/-! ### Flow collections -/

namespace Flow

mutual

/-- A value between brackets: a flow collection or a scalar. The number of steps bounds how often
the functions of this group call each other. -/
def node? : Nat → Nat → Cursor → Parsed
  | 0, _, _ => none
  | steps + 1, indent, c =>
    match c.rest with
    | '[' :: rest => items? steps indent [] (c.pass 1 rest)
    | '{' :: rest => members? steps indent [] (c.pass 1 rest)
    | _ => if c.atStartMarker || c.atEndMarker then none else scalar? true indent c

/-- The value behind a colon, which may be missing. -/
def value? : Nat → Nat → Cursor → Parsed
  | 0, _, _ => none
  | steps + 1, indent, c =>
    let c := c.toFlowToken
    match c.rest with
    | ',' :: _ => some (nothing, c)
    | ']' :: _ => some (nothing, c)
    | '}' :: _ => some (nothing, c)
    | _ => node? steps indent c

/-- The items of a list, after some of them. An item with a colon is an object with one member. -/
def items? : Nat → Nat → List (Tree Scalar) → Cursor → Parsed
  | 0, _, _, _ => none
  | steps + 1, indent, acc, c =>
    let c := c.toFlowToken
    match c.rest with
    | ']' :: rest => some (.list acc.reverse, c.pass 1 rest)
    | _ =>
      match node? steps indent c with
      | none => none
      | some (item, next) =>
        let next := next.toFlowToken
        match next.rest with
        | ',' :: rest => items? steps indent (item :: acc) (next.pass 1 rest)
        | ']' :: rest => some (.list (item :: acc).reverse, next.pass 1 rest)
        | ':' :: rest =>
          if isKey c next then
            match keyText? item, value? steps indent (next.pass 1 rest) with
            | some key, some (value, next) =>
              let next := next.toFlowToken
              let item : Tree Scalar := .object [(key, value)]
              match next.rest with
              | ',' :: rest => items? steps indent (item :: acc) (next.pass 1 rest)
              | ']' :: rest => some (.list (item :: acc).reverse, next.pass 1 rest)
              | _ => none
            | _, _ => none
          else none
        | _ => none

/-- The members of an object, after some of them. A member without colon has no value. -/
def members? : Nat → Nat → List (String × Tree Scalar) → Cursor → Parsed
  | 0, _, _, _ => none
  | steps + 1, indent, acc, c =>
    let c := c.toFlowToken
    match c.rest with
    | '}' :: rest => some (.object acc.reverse, c.pass 1 rest)
    | _ =>
      match node? steps indent c with
      | none => none
      | some (item, next) =>
        let next := next.toFlowToken
        match keyText? item, next.rest with
        | some key, ',' :: rest => members? steps indent ((key, nothing) :: acc) (next.pass 1 rest)
        | some key, '}' :: rest => some (.object ((key, nothing) :: acc).reverse, next.pass 1 rest)
        | some key, ':' :: rest =>
          if isKey c next then
            match value? steps indent (next.pass 1 rest) with
            | none => none
            | some (value, next) =>
              let next := next.toFlowToken
              match next.rest with
              | ',' :: rest => members? steps indent ((key, value) :: acc) (next.pass 1 rest)
              | '}' :: rest => some (.object ((key, value) :: acc).reverse, next.pass 1 rest)
              | _ => none
          else none
        | _, _ => none

end

end Flow

/-! ### Blocks -/

namespace Block

/-- A flow collection or a scalar that starts here and is no literal or folded block. -/
def inline? (indent : Nat) (c : Cursor) : Parsed :=
  match c.rest with
  | '[' :: _ => Flow.node? (4 * c.rest.length + 4) indent c
  | '{' :: _ => Flow.node? (4 * c.rest.length + 4) indent c
  | _ => scalar? false indent c

/-- The place of the colon behind a key, if what was read is one. -/
def colon? (ending : Cursor) : Option Cursor :=
  let c := ending.skipBlanks
  match c.rest with
  | ':' :: rest => if isGap rest then some c else none
  | _ => none

mutual

/-- The value that starts here, if it reaches the column `outer`; nothing otherwise. The number of
steps bounds how often the functions of this group call each other. -/
def node? : Nat → Nat → Cursor → Parsed
  | 0, _, _ => none
  | steps + 1, outer, c =>
    if c.atStop || decide (c.column < outer) then some (nothing, c)
    else if c.atDash then if c.fresh then items? steps c.column false [] c else none
    else
      match c.rest with
      | '|' :: rest => quoted (block? false outer (c.pass 1 rest))
      | '>' :: rest => quoted (block? true outer (c.pass 1 rest))
      | _ =>
        match inline? outer c with
        | none => none
        | some (value, ending) =>
          match colon? ending with
          | none => some (value, ending)
          | some colon =>
            match keyText? value with
            | some key =>
              if c.fresh && isKey c colon then members? steps c.column [] key colon else none
            | none => none

/-- The items of a list whose dashes stand in a column, after some of them. A list that is the
value of a member may stand in the column of the object, and ends with the next member. -/
def items? : Nat → Nat → Bool → List (Tree Scalar) → Cursor → Parsed
  | 0, _, _, _, _ => none
  | steps + 1, column, shared, acc, c =>
    let entry := { c.advance 1 c.rest.tail with fresh := true }.toToken
    match node? steps (column + 1) entry with
    | none => none
    | some (item, ending) =>
      let next := ending.toToken
      let acc := item :: acc
      if next.atStop || (next.fresh && decide (next.column < column)) then
        some (.list acc.reverse, next)
      else if next.fresh && next.column == column then
        if next.atDash then items? steps column shared acc next
        else if shared then some (.list acc.reverse, next)
        else none
      else none

/-- The members of an object whose keys stand in a column, after some of them, from the colon
behind a key. -/
def members? : Nat → Nat → List (String × Tree Scalar) → String → Cursor → Parsed
  | 0, _, _, _, _ => none
  | steps + 1, column, acc, key, colon =>
    let start := (colon.pass 1 colon.rest.tail).toToken
    let value :=
      if start.atDash && start.fresh && start.column == column && !start.atStop then
        items? steps column true [] start
      else node? steps (column + 1) start
    match value with
    | none => none
    | some (value, ending) =>
      let next := ending.toToken
      let acc := (key, value) :: acc
      if next.atStop || (next.fresh && decide (next.column < column)) then
        some (.object acc.reverse, next)
      else if next.fresh && next.column == column && !next.atDash then
        match inline? (column + 1) next with
        | none => none
        | some (name, ending) =>
          match keyText? name, colon? ending with
          | some key, some colon =>
            if isKey next colon then members? steps column acc key colon else none
          | _, _ => none
      else none

end

end Block

/-! ### Documents -/

/-- Goes over marks of the end of a document. -/
def skipEndMarkers : Nat → Cursor → Cursor
  | 0, c => c
  | steps + 1, c =>
    if c.atEndMarker then skipEndMarkers steps (c.pass 3 (c.rest.drop 3)).toToken else c

/-- The document of a text. -/
def read? (text : String) : Option (Tree Scalar) :=
  let s := match text.toList with
    | '\ufeff' :: rest => rest
    | s => s
  if !s.all isPrintable then none
  else
    let s := unifyBreaks s
    let steps := 4 * s.length + 4
    let c := skipEndMarkers steps (Cursor.start s).toToken
    if c.atEnd then some nothing
    else
      let c := if c.atStartMarker then (c.pass 3 (c.rest.drop 3)).toToken else c
      match Block.node? steps 0 c with
      | none => none
      | some (document, ending) =>
        let ending := ending.toToken
        let rest := skipEndMarkers steps ending
        if rest.atEnd then some document else none

end FacetModel.Yaml
