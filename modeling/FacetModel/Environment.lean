import FacetModel.NameMap
import FacetModel.Text.Blank
import FacetModel.Text.Letter
import FacetModel.Text.Split

/-!
# Environments

An environment gives values to variables. A file may give further values: `Environment.load` reads
its lines, of which each is a name, an equals sign and a value. Parts of a value may stand in
quotes, a dollar sign puts in the value of a variable, and a backslash keeps the meaning of the
character behind it. A variable that has a value keeps it, and nothing is read behind a line that
is not well formed.
-/

namespace FacetModel

/-- The values of variables. -/
abbrev Environment := NameMap String

namespace Environment

/-! ### Lines -/

/-- Where a line stands after a character: what the next one means. -/
inductive LineState where
  | complete
  | escape
  | strongOpen
  | strongEscape
  | weakOpen
  | weakEscape
  | comment
  | space
deriving DecidableEq, Repr

/-- The state behind a character. -/
def LineState.next (s : LineState) (c : Char) : LineState :=
  match s with
  | complete | space =>
    if s = space ∧ c = '#' then comment
    else if c = '\\' then escape
    else if c = '"' then weakOpen
    else if c = '\'' then strongOpen
    else if s = complete ∧ Text.isBlank c ∧ c ≠ '\n' ∧ c ≠ '\r' then space
    else complete
  | escape => complete
  | weakOpen => if c = '\\' then weakEscape else if c = '"' then complete else weakOpen
  | weakEscape => weakOpen
  | strongOpen => if c = '\\' then strongEscape else if c = '\'' then complete else strongOpen
  | strongEscape => strongOpen
  | comment => comment

/-- The lines of a text, each with the line feed at its end. -/
def physicalLines (line : List Char) : List Char → List (List Char)
  | [] => if line.isEmpty then [] else [line.reverse]
  | '\n' :: rest => ('\n' :: line).reverse :: physicalLines [] rest
  | c :: rest => physicalLines (c :: line) rest

/-- The characters before a comment and the state at the end of a line. -/
def scanLine (s : LineState) (before : List Char) : List Char → List Char × LineState
  | [] => (before.reverse, s)
  | c :: rest =>
    match s.next c with
    | .comment => (before.reverse, .comment)
    | s => scanLine s (c :: before) rest

/-- A line without the break at its end. -/
def dropBreak (line : List Char) : List Char :=
  match line.reverse with
  | '\n' :: '\r' :: rest => rest.reverse
  | '\n' :: rest => rest.reverse
  | _ => line

/-- Joins lines while quotes are open at their ends. The last line is `none` if they stay open. -/
def logicalLines (pending : List Char) (s : LineState) : List (List Char) → List (Option (List Char))
  | [] => if s = .complete then [] else [none]
  | line :: rest =>
    let whole := pending ++ line
    if (whole.dropWhile Text.isBlank).head? = some '#' then
      some [] :: logicalLines [] .complete rest
    else
      match scanLine s [] line with
      | (_, .complete) => some (dropBreak whole) :: logicalLines [] .complete rest
      | (before, .comment) => some (pending ++ before) :: logicalLines [] .complete rest
      | (_, s) => logicalLines whole s rest

/-! ### Values -/

/-- What the characters of a value mean. -/
inductive ValueMode where
  /-- A character stands for itself. -/
  | bare
  /-- Between double quotes. -/
  | weak
  /-- Between single quotes. -/
  | strong
  /-- Behind white space, where only a comment may follow. -/
  | ending
deriving DecidableEq, Repr

/-- A name behind a dollar sign, which may stand in braces. -/
inductive Reference where
  | bare (name : List Char)
  | braced (name : List Char)
deriving DecidableEq, Repr

/-- The value a name stands for: that of the environment, else that of an earlier line. -/
def resolve (environment file : Environment) (name : List Char) : List Char :=
  let name := String.ofList name
  ((environment.get? name <|> file.get? name).getD "").toList

/-- The text of a value, read from a mode, with the name behind a dollar sign if there is one. -/
def value? (lookup : List Char → List Char) :
    ValueMode → Option Reference → List Char → List Char → Option (List Char)
  | mode, reference, acc, [] =>
    match mode, reference with
    | _, some (.braced _) => none
    | .weak, _ => none
    | .strong, _ => none
    | _, some (.bare name) => some (acc ++ lookup name)
    | _, none => some acc
  | .ending, _, acc, c :: rest =>
    if c = ' ' ∨ c = '\t' then value? lookup .ending none acc rest
    else if c = '#' then some acc
    else none
  | .strong, _, acc, c :: rest =>
    if c = '\'' then value? lookup .bare none acc rest
    else value? lookup .strong none (acc ++ [c]) rest
  | mode, some (.bare name), acc, c :: rest =>
    if Text.isLetterOrNumber c then value? lookup mode (some (.bare (name ++ [c]))) acc rest
    else if c = '{' ∧ name = [] then value? lookup mode (some (.braced [])) acc rest
    else if c = '$' then value? lookup mode (some (.bare [])) (acc ++ lookup name) rest
    else value? lookup mode none (acc ++ lookup name ++ [c]) rest
  | mode, some (.braced name), acc, c :: rest =>
    if c = '}' then value? lookup mode none (acc ++ lookup name) rest
    else value? lookup mode (some (.braced (name ++ [c]))) acc rest
  | mode, none, acc, '$' :: rest => value? lookup mode (some (.bare [])) acc rest
  | mode, none, acc, '\\' :: rest =>
    match rest with
    | [] => if mode = .weak then none else some acc
    | c :: rest =>
      if c ∈ ['\\', '\'', '"', '$', ' '] then value? lookup mode none (acc ++ [c]) rest
      else if c = 'n' then value? lookup mode none (acc ++ ['\n']) rest
      else none
  | .weak, none, acc, c :: rest =>
    if c = '"' then value? lookup .bare none acc rest
    else value? lookup .weak none (acc ++ [c]) rest
  | .bare, none, acc, c :: rest =>
    if c = '\'' then value? lookup .strong none acc rest
    else if c = '"' then value? lookup .weak none acc rest
    else if c = ' ' ∨ c = '\t' then value? lookup .ending none acc rest
    else value? lookup .bare none (acc ++ [c]) rest

/-! ### Assignments -/

/-- The name at the start of a line, and the rest. -/
def key? (line : List Char) : Option (String × List Char) :=
  match line with
  | c :: _ =>
    if c.isAlpha || c == '_' then
      let isPart (c : Char) : Bool := c.isAlphanum || c == '_' || c == '.'
      some (String.ofList (line.takeWhile isPart), line.dropWhile isPart)
    else none
  | [] => none

/-- What stands behind an equals sign. -/
def behindEquals? (line : List Char) : Option (List Char) :=
  match line.dropWhile Text.isBlank with
  | '=' :: rest => some (rest.dropWhile Text.isBlank)
  | _ => none

/-- The name and the text of the value of a line, where `export` may stand before the name. -/
def assignment? (line : List Char) : Option (String × List Char) := do
  let (key, rest) ← key? line
  match behindEquals? rest with
  | some value => return (key, value)
  | none =>
    if key = "export" then
      let (key, rest) ← key? (rest.dropWhile Text.isBlank)
      return (key, ← behindEquals? rest)
    else none

/-- The environment after the lines of a file, with the values that the lines gave so far. -/
def loadLines (environment file : Environment) : List (Option (List Char)) → Environment
  | [] => environment
  | none :: _ => environment
  | some line :: rest =>
    let line := (Text.trim (String.ofList line)).toList
    if line.isEmpty || line.head? == some '#' then loadLines environment file rest
    else
      match assignment? line with
      | none => environment
      | some (key, text) =>
        let value :=
          if text.isEmpty || text.head? == some '#' then some []
          else value? (resolve environment file) .bare none [] text
        match value with
        | none => environment
        | some value =>
          let value := String.ofList value
          let next := if environment.contains key then environment else environment.insert key value
          loadLines next (file.insert key value) rest

/-- The characters of a text behind the mark of its byte order, if it starts with one. -/
def characters (text : String) : List Char :=
  match text.toList with
  | '\ufeff' :: rest => rest
  | s => s

/-- The environment with the values of a file. -/
def load (environment : Environment) (text : String) : Environment :=
  loadLines environment .empty (logicalLines [] .complete (physicalLines [] (characters text)))

/-- The names behind the dollar signs of a text, on whose values its values may depend. -/
def mentioned (text : String) : List String :=
  ((Text.split '$' text).drop 1).map fun s =>
    match s.toList with
    | '{' :: rest => String.ofList (rest.takeWhile (· ≠ '}'))
    | rest => String.ofList (rest.takeWhile Text.isLetterOrNumber)

end Environment

end FacetModel
