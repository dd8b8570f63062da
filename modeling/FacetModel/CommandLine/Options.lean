import FacetModel.Settings.Layers
import FacetModel.Text.Split

/-!
# Options of the command line

An option is given as `--name value` or as `--name=value`. A value that stands by itself does not
start with a dash, unless it is one. There are no other arguments, and only `--ignore` and `--deny`
may be given several times. A call for help or for the version is answered at once, unless
something before it is wrong (`request?`).
-/

namespace FacetModel

namespace CommandLine

/-- How results are written. -/
inductive OutputFormat where
  | json
  | yaml
deriving DecidableEq, Repr, Inhabited

/-- The options of the command line. -/
structure Options where
  /-- The path of the host catalog. -/
  catalog : String
  /-- The host type whose model is assembled. -/
  host : String
  /-- The path of a file with settings. -/
  config : Option String := none
  arguments : SettingsArguments := {}
  /-- The path of a query. -/
  query : Option String := none
  /-- Facets that are denied. -/
  denied : List String := []
  output : OutputFormat := .json
deriving Repr

/-- The options that are given once. -/
def singleNames : List String :=
  ["catalog", "host", "config", "namespace", "root-type", "container-name", "query", "output"]

/-- The options that may be given several times. -/
def repeatedNames : List String := ["ignore", "deny"]

/-- The options whose values are paths. -/
def pathNames : List String := ["catalog", "config", "query"]

/-- An option with its value, if they are written in one argument. -/
def splitArgument (s : List Char) : String × Option String :=
  let name := String.ofList (s.takeWhile (· ≠ '='))
  match s.dropWhile (· ≠ '=') with
  | _ :: value => (name, some (String.ofList value))
  | [] => (name, none)

/-- Whether an argument can be the value of the option before it. -/
def isValue (s : String) : Bool := s == "-" || s.toList.head? != some '-'

/-- A text that is printed in place of a run. -/
inductive Notice where
  | help
  | version
deriving DecidableEq, Repr

/-- The options of some arguments with their values, in order, up to a call for a notice. -/
def scan? : List String → Option (List (String × String) × Option Notice)
  | [] => some ([], none)
  | "--help" :: _ => some ([], some .help)
  | "--version" :: _ => some ([], some .version)
  | arg :: rest =>
    match arg.toList with
    | ['-', '-'] => if rest.isEmpty then some ([], none) else none
    | '-' :: '-' :: option =>
      match splitArgument option with
      | (name, some value) => (scan? rest).map fun (pairs, n) => ((name, value) :: pairs, n)
      | (name, none) =>
        match rest with
        | [] => none
        | value :: rest =>
          if isValue value then (scan? rest).map fun (pairs, n) => ((name, value) :: pairs, n)
          else none
    | '-' :: 'h' :: _ => some ([], some .help)
    | '-' :: 'V' :: _ => some ([], some .version)
    | _ => none

/-- The values of an option. -/
def valuesOf (pairs : List (String × String)) (name : String) : List String :=
  (pairs.filter (·.1 == name)).map (·.2)

/-- The output format of a name. -/
def format? : Option String → Option OutputFormat
  | none => some .json
  | some "json" => some .json
  | some "yaml" => some .yaml
  | some _ => none

/-- Whether an option with a value may be given. -/
def isAllowed (pair : String × String) : Bool :=
  (pair.1 ∈ singleNames || pair.1 ∈ repeatedNames) && !(pair.1 ∈ pathNames && pair.2.isEmpty)
    && (pair.1 != "output" || (format? (some pair.2)).isSome)

/-- Whether options with values may be given together. -/
def areAllowed (pairs : List (String × String)) : Bool :=
  pairs.all isAllowed && singleNames.all fun name => (valuesOf pairs name).length ≤ 1

/-- The options with some values. The catalog and the host type must be among them. -/
def options? (pairs : List (String × String)) : Option Options := do
  let value? (name : String) : Option String := (valuesOf pairs name).head?
  return {
    catalog := ← value? "catalog"
    host := ← value? "host"
    config := value? "config"
    arguments :=
      { namespaceName := value? "namespace", ignoredProperties := valuesOf pairs "ignore",
        rootType := value? "root-type", containerName := value? "container-name" }
    query := value? "query"
    denied := valuesOf pairs "deny"
    output := ← format? (value? "output") }

/-- What a command line asks for. -/
inductive Request where
  | run (options : Options)
  | notice (notice : Notice)
deriving Repr

/-- What some arguments ask for, if they are understood. -/
def request? (args : List String) : Option Request :=
  match scan? args with
  | none => none
  | some (pairs, notice?) =>
    if areAllowed pairs then
      match notice? with
      | some notice => some (.notice notice)
      | none => (options? pairs).map .run
    else none

/-- The text of a notice. -/
def Notice.text : Notice → String
  | .version => "modelgraph 0.1.0\n"
  | .help =>
    "Convention-based model and query mapping engine\n\n"
      ++ "Usage: modelgraph [OPTIONS] --catalog <CATALOG> --host <HOST>\n\n"
      ++ "Options:\n"
      ++ "      --catalog <CATALOG>                Host catalog YAML file\n"
      ++ "      --host <HOST>                      Host type to assemble the model for\n"
      ++ "      --config <CONFIG>                  Engine configuration YAML file\n"
      ++ "      --namespace <NAMESPACE>            Namespace override for structural and enum types\n"
      ++ "      --ignore <IGNORED_PROPERTIES>      Host property to ignore (repeatable)\n"
      ++ "      --root-type <ROOT_TYPE>            Host type where member scans stop\n"
      ++ "      --container-name <CONTAINER_NAME>  Entity container name\n"
      ++ "      --query <QUERY>                    JSON query to compose (and execute when the "
      ++ "catalog seeds a document store)\n"
      ++ "      --deny <DENIED_FACETS>             Facet to deny access to (repeatable)\n"
      ++ "      --output <OUTPUT>                  [default: json] [possible values: json, yaml]\n"
      ++ "  -h, --help                             Print help\n"
      ++ "  -V, --version                          Print version\n"

end CommandLine

end FacetModel
