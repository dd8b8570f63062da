import FacetModel.Assembly
import FacetModel.Catalog.Text
import FacetModel.CommandLine.Options
import FacetModel.Model.Encoding
import FacetModel.Pipeline
import FacetModel.Pipeline.Host
import FacetModel.Query.Encoding
import FacetModel.Store
import FacetModel.Yaml.Printer

/-!
# A run of the command line

A run assembles the model of a host type from a catalog. It prints the model, or, if there is a
query, the composed query and the rows that it has in the store of the catalog. The settings come
from the environment, a file and the options, later ones over earlier ones.

`CommandLine.run` is a function of the arguments, the environment and the files that can be read.
-/

namespace FacetModel

namespace CommandLine

/-- How a run ends. -/
structure Outcome where
  /-- Zero for success, one for a failure, two for arguments that are not understood. -/
  status : Nat
  /-- What was printed. -/
  output : String := ""
  /-- Why the run failed. -/
  message : Option String := none
deriving DecidableEq, Repr

/-- What is in the files that can be read, by path. -/
abbrev Files := String → Option String

/-- The file with values for the environment. -/
def environmentPath : String := ".env"

/-- The variables of the environment that a run reads, given what is in the file with further
values. -/
def wantedVariables (environmentText : Option String) : List String :=
  Settings.variableNames ++ Environment.mentioned (environmentText.getD "")

/-- The paths of the other files that a run reads. -/
def paths (args : List String) : List String :=
  match request? args with
  | some (.run o) => o.catalog :: (o.config.toList ++ o.query.toList)
  | _ => []

/-- The result, or the message of a failure. -/
def orFail {α ε : Type} (message : ε → String) (r : Except ε α) : Except String α :=
  r.mapError message

/-- Settings with the layer of a file over them, if there is one. -/
def withFile (files : Files) (s : Settings) : Option String → Except String Settings
  | none => .ok s
  | some path => do
    let layer ←
      orFail (fun _ => "Invalid configuration file " ++ path) (Settings.ofFile (files path))
    return s.merge layer

/-- The settings of a run. -/
def settings (files : Files) (environment : Environment) (o : Options) :
    Except String Settings := do
  let s ←
    orFail (fun _ => "Invalid environment configuration") (Settings.ofEnvironment environment)
  let s ← withFile files s o.config
  let options ← orFail (fun _ => "Invalid CLI configuration") (Settings.ofArguments o.arguments)
  return s.merge options

/-- The query in a file. -/
def readQuery (files : Files) (path : String) : Except String Query :=
  match files path with
  | none => .error ("Failed to read query " ++ path)
  | some text =>
    match Query.ofText? text with
    | some q => .ok q
    | none => .error "Query is not a valid AST"

/-- A document as it is printed. -/
def print (format : OutputFormat) (d : Document) : Except String String :=
  match format with
  | .json => .ok (d.toJson.renderIndented ++ "\n")
  | .yaml =>
    match Yaml.render? d with
    | some text => .ok (text ++ "\n")
    | none => .error "serializing nested enums in YAML is not supported yet"

/-- The pipeline of a run. -/
def pipeline (catalog : HostCatalog) (conventions : ConventionCatalog) (denied : List String) :
    Pipeline :=
  let p := ({} : Pipeline).withConventions conventions
  let p := if denied.isEmpty then p else { p with authorizers := p.authorizers.push (.deny denied) }
  match catalog.documentStore with
  | some d => { p with sourcers := p.sourcers.push (.ofDefinition d) }
  | none => p

/-- The output of a run before a failure, and the message of the failure if there is one. -/
abbrev Printed := String × Option String

/-- Appends further output, if there was no failure. -/
def andPrint (first : Except String String) (next : Unit → Except String String) : Printed :=
  match first with
  | .error message => ("", some message)
  | .ok output =>
    match next () with
    | .error message => (output, some message)
    | .ok more => (output ++ more, none)

/-- The rows of a composed query as they are printed. A catalog without store has none. -/
def printRows (catalog : HostCatalog) (format : OutputFormat) (q : Query) :
    Except String String :=
  match catalog.documentStore with
  | none => .ok ""
  | some d => do
    let rows ← orFail StoreError.message ((DocumentStore.ofDefinition d).query q false)
    print format (.record [("rows", .value (.list rows))])

/-- Composes a query over an assembled model, prints it, and prints its rows. -/
def answer (catalog : HostCatalog) (lineage : List String) (s : Settings) (a : Assembled)
    (o : Options) (q : Query) : Printed :=
  let c := QueryContext.ofHostValues catalog.hostValues s lineage a.model a.conventions
  let composed := orFail PipelineError.message
    ((pipeline catalog a.conventions o.denied).compose c q)
  match composed with
  | .error message => ("", some message)
  | .ok r => andPrint (print o.output r.query.toDocument) fun _ =>
    printRows catalog o.output r.query

/-- The catalog, its types and the assembled model of a run. -/
def assemble (files : Files) (s : Settings) (o : Options) :
    Except String (HostCatalog × Registry × Assembled) := do
  let catalog ← orFail (fun _ => "Failed to load host catalog " ++ o.catalog)
    (HostCatalog.ofFile (files o.catalog))
  let registry ← orFail CatalogError.message catalog.toRegistry
  let assembled ← orFail (fun _ => "Failed to assemble model for `" ++ o.host ++ "`")
    ((Assembler.ofCatalog registry catalog).assemble o.host s false)
  return (catalog, registry, assembled)

/-- What a run with some options prints. -/
def printed (files : Files) (environment : Environment) (o : Options) : Printed :=
  let start : Except String (Settings × HostCatalog × Registry × Assembled) := do
    let s ← settings files environment o
    return (s, ← assemble files s o)
  match start with
  | .error message => ("", some message)
  | .ok (s, catalog, registry, a) =>
    match o.query with
    | none => andPrint (print o.output a.model.toDocument) fun _ => .ok ""
    | some path =>
      let ready : Except String (Query × List String) := do
        let q ← readQuery files path
        return (q, ← orFail CatalogError.message (registry.hostLineage o.host s.rootType))
      match ready with
      | .error message => ("", some message)
      | .ok (q, lineage) => answer catalog lineage s a o q

/-- The first line of a text. -/
def firstLine (s : String) : String := String.ofList (s.toList.takeWhile (· ≠ '\n'))

/-- Runs the command line. -/
def run (files : Files) (environment : Environment) (args : List String) : Outcome :=
  match request? args with
  | none => { status := 2 }
  | some (.notice n) => { status := 0, output := n.text }
  | some (.run o) =>
    let environment := match files environmentPath with
      | some text => environment.load text
      | none => environment
    match printed files environment o with
    | (output, none) => { status := 0, output }
    | (output, some message) => { status := 1, output, message := some (firstLine message) }

end CommandLine

end FacetModel
