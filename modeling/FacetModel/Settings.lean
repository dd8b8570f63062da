import FacetModel.Tree.Reading
import FacetModel.Catalog
import FacetModel.Text.Split

/-!
# Settings

The settings of an assembly come in layers: the environment, a file, the command line. Each layer
is valid by itself (`Settings.validate`), and `Settings.merge` puts one over another. A layer that
gives the default name of the root or the container gives none.
-/

namespace FacetModel

/-- The settings of an assembly. -/
structure Settings where
  /-- The namespace of all types, in place of those they are declared in. -/
  namespaceName : Option String := none
  /-- Host properties that never become facets. -/
  ignoredProperties : List String := []
  /-- The host type at which scans stop. -/
  rootType : String := "ApiBase"
  /-- The name of the entity container. -/
  containerName : String := "Container"
deriving DecidableEq, Repr, Inhabited

/-- What is wrong with settings. -/
inductive SettingsFlaw where
  | emptyContainerName
  | badNamespace
  | emptyRootType
deriving DecidableEq, Repr

/-- A flaw as a line with the setting it is about. -/
def SettingsFlaw.line : SettingsFlaw → String
  | .emptyContainerName => "container_name: Container name cannot be empty"
  | .badNamespace => "namespace: Namespace must be dot-separated identifiers"
  | .emptyRootType => "root_type: Root type cannot be empty"

/-- Why a layer of settings cannot be had. -/
inductive SettingsError where
  /-- The file cannot be read. -/
  | unreadable
  /-- The text of the file is no settings. -/
  | malformed
  /-- The settings are not valid, for at least one reason. -/
  | invalid (flaws : List SettingsFlaw)
deriving DecidableEq, Repr

/-- The flaws of invalid settings, one in a line. -/
def SettingsError.message : SettingsError → String
  | .invalid flaws => "\n".intercalate (flaws.map (·.line))
  | _ => ""

/-- Whether a text is one identifier or several with dots between them. -/
def isNamespace (s : String) : Bool := (Text.split '.' s).all isIdentifier

namespace Settings

/-- The flaws of settings, by the names of the settings. -/
def flaws (s : Settings) : List SettingsFlaw :=
  (if s.containerName.isEmpty then [.emptyContainerName] else [])
    ++ (if s.namespaceName.any (!isNamespace ·) then [.badNamespace] else [])
    ++ (if s.rootType.isEmpty then [.emptyRootType] else [])

/-- The settings, if they have no flaws. -/
def validate (s : Settings) : Except SettingsError Settings :=
  match s.flaws with
  | [] => .ok s
  | flaws => .error (.invalid flaws)

/-- Whether a host property never becomes a facet. -/
def isIgnored (s : Settings) (property : String) : Bool := s.ignoredProperties.contains property

/-- A list with the names that it does not have appended, each once. -/
def union (names more : List String) : List String :=
  more.foldl (fun l name => if name ∈ l then l else l ++ [name]) names

/-- Settings with another layer over them. -/
def merge (s other : Settings) : Settings :=
  { namespaceName := other.namespaceName <|> s.namespaceName
    ignoredProperties := union s.ignoredProperties other.ignoredProperties
    rootType := if other.rootType = ({} : Settings).rootType then s.rootType else other.rootType
    containerName :=
      if other.containerName = ({} : Settings).containerName then s.containerName
      else other.containerName }

/-- Settings in JSON. -/
def toJson (s : Settings) : Json :=
  .record [("namespace", .ofOption s.namespaceName),
    ("ignored_properties", .ofStrings s.ignoredProperties),
    ("root_type", .str s.rootType), ("container_name", .str s.containerName)]

/-- Settings read from a document, in which each of them may be missing. -/
def read {σ : Type} [Script σ] (t : Tree σ) : Reading Settings := do
  let fields ← t.readFields ["namespace", "ignored_properties", "root_type", "container_name"]
  return {
    namespaceName := ← fields.optional "namespace" (Tree.readOption Tree.readText) none
    ignoredProperties := ← fields.optional "ignored_properties" (Tree.readList Tree.readText) []
    rootType := ← fields.optional "root_type" Tree.readText ({} : Settings).rootType
    containerName := ←
      fields.optional "container_name" Tree.readText ({} : Settings).containerName }

end Settings

end FacetModel
