import FacetModel.Environment
import FacetModel.Settings
import FacetModel.Yaml.Reader

/-!
# Layers of settings

The environment, a file and the command line each give a valid layer of settings, in which
everything that is not given has its default.
-/

namespace FacetModel

/-- The settings that a command line gives. -/
structure SettingsArguments where
  namespaceName : Option String := none
  ignoredProperties : List String := []
  rootType : Option String := none
  containerName : Option String := none
deriving DecidableEq, Repr, Inhabited

namespace Settings

/-- The names in a list with commas, without white space around them. -/
def splitList (s : String) : List String :=
  ((Text.split ',' s).map Text.trim).filter fun name => !name.isEmpty

/-- The variables with settings. -/
def variableNames : List String :=
  ["MODELGRAPH_NAMESPACE", "MODELGRAPH_IGNORED_PROPERTIES", "MODELGRAPH_ROOT_TYPE",
    "MODELGRAPH_CONTAINER_NAME"]

/-- The layer of an environment. An empty namespace counts as none. -/
def ofEnvironment (environment : Environment) : Except SettingsError Settings :=
  let defaults : Settings := {}
  validate {
    namespaceName := (environment.get? "MODELGRAPH_NAMESPACE").filter fun s => !s.isEmpty
    ignoredProperties := splitList ((environment.get? "MODELGRAPH_IGNORED_PROPERTIES").getD "")
    rootType := (environment.get? "MODELGRAPH_ROOT_TYPE").getD defaults.rootType
    containerName := (environment.get? "MODELGRAPH_CONTAINER_NAME").getD defaults.containerName }

/-- The layer of a command line. -/
def ofArguments (a : SettingsArguments) : Except SettingsError Settings :=
  let defaults : Settings := {}
  validate {
    namespaceName := a.namespaceName
    ignoredProperties := a.ignoredProperties
    rootType := a.rootType.getD defaults.rootType
    containerName := a.containerName.getD defaults.containerName }

/-- The layer of a file, by what is in it, if it can be read. -/
def ofFile : Option String → Except SettingsError Settings
  | none => .error .unreadable
  | some text =>
    match Yaml.read? text with
    | none => .error .malformed
    | some t =>
      match read t with
      | .ok s => s.validate
      | .error _ => .error .malformed

end Settings

end FacetModel
