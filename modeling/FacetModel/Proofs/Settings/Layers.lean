import FacetModel.CommandLine.Session
import Mathlib.Data.List.Basic

/-!
# Layers over layers

A layer of settings gives some of them, and has defaults for the others
(`SettingsArguments.toSettings`). The settings of a run come from three such layers, the
environment, a file and the options, each put over those before
(`CommandLine.settings_eq_mergeAll`).

Once a layer is put over others, a text that is given and is the default cannot be told from one
that is not given, and counts as the latter (`TextSetting.other?`). So the last layer that gives a
text decides it unless it gives the default and another layer gives another text. The last layer
that gives a namespace always decides it (`last_layer_decides_iff`).
-/

namespace FacetModel

/-! ### What layers give -/

namespace SettingsArguments

/-- The settings of a layer: what it does not give has its default. -/
def toSettings (a : SettingsArguments) : Settings :=
  let defaults : Settings := {}
  { namespaceName := a.namespaceName
    ignoredProperties := a.ignoredProperties
    rootType := a.rootType.getD defaults.rootType
    containerName := a.containerName.getD defaults.containerName }

/-- What an environment gives. -/
def ofEnvironment (environment : Environment) : SettingsArguments :=
  { namespaceName := (environment.get? "MODELGRAPH_NAMESPACE").filter fun s => !s.isEmpty
    ignoredProperties :=
      Settings.splitList ((environment.get? "MODELGRAPH_IGNORED_PROPERTIES").getD "")
    rootType := environment.get? "MODELGRAPH_ROOT_TYPE"
    containerName := environment.get? "MODELGRAPH_CONTAINER_NAME" }

/-- What a document gives. -/
def read {σ : Type} [Script σ] (t : Tree σ) : Reading SettingsArguments := do
  let fields ← t.readFields ["namespace", "ignored_properties", "root_type", "container_name"]
  return {
    namespaceName := ← fields.optional "namespace" (Tree.readOption Tree.readText) none
    ignoredProperties := ← fields.optional "ignored_properties" (Tree.readList Tree.readText) []
    rootType := ← fields.optional "root_type" (fun t => some <$> t.readText) none
    containerName := ← fields.optional "container_name" (fun t => some <$> t.readText) none }

/-- What a file gives, by what is in it, if that is a document with settings. -/
def ofFile? (text : Option String) : Option SettingsArguments :=
  (text.bind Yaml.read?).bind fun t => (read t).toOption

/-- What the last layer gives that gives something. -/
def last? {α : Type} (given? : SettingsArguments → Option α) (layers : List SettingsArguments) :
    Option α :=
  layers.reverse.findSome? given?

/-- A first layer counts only if no later one gives anything. -/
theorem last?_cons {α : Type} (given? : SettingsArguments → Option α) (a : SettingsArguments)
    (layers : List SettingsArguments) :
    last? given? (a :: layers) = (last? given? layers).or (given? a) := by
  rw [last?, last?, List.reverse_cons, List.findSome?_append, List.findSome?_singleton]

theorem last?_singleton {α : Type} (given? : SettingsArguments → Option α)
    (a : SettingsArguments) : last? given? [a] = given? a := List.findSome?_singleton

end SettingsArguments

/-- A member with a default is a member that may be missing, and then the default. -/
theorem Members.optional_eq_map {σ α : Type} (ms : Members σ) (name : String)
    (read : Tree σ → Reading α) (default : α) :
    ms.optional name read default =
      (·.getD default) <$> ms.optional name (fun t => some <$> read t) none := by
  rw [optional, optional]
  cases ms.get? name with
  | none => rfl
  | some t =>
    dsimp only
    cases read t <;> rfl

namespace Settings

/-- Reading settings is reading what a document gives and then putting in the defaults. -/
theorem read_eq_map {σ : Type} [Script σ] (t : Tree σ) :
    read t = SettingsArguments.toSettings <$> SettingsArguments.read t := by
  rw [read, SettingsArguments.read]
  cases t.readFields ["namespace", "ignored_properties", "root_type", "container_name"] with
  | error e => rfl
  | ok fields =>
    have hroot := fields.optional_eq_map "root_type" Tree.readText ({} : Settings).rootType
    have hcontainer :=
      fields.optional_eq_map "container_name" Tree.readText ({} : Settings).containerName
    dsimp only [bind, Except.bind]
    rw [hroot, hcontainer]
    -- each of the four readings may fail
    cases fields.optional "namespace" (Tree.readOption Tree.readText) none with
    | error e => rfl
    | ok namespaceName =>
    cases fields.optional "ignored_properties" (Tree.readList Tree.readText) [] with
    | error e => rfl
    | ok ignoredProperties =>
    cases fields.optional "root_type" (fun t => some <$> t.readText) none with
    | error e => rfl
    | ok rootType =>
    cases fields.optional "container_name" (fun t => some <$> t.readText) none with
    | error e => rfl
    | ok containerName => rfl

/-- Validation accepts settings or rejects them, but does not change them. -/
theorem eq_of_validate {s layer : Settings} (h : s.validate = .ok layer) : layer = s := by
  rw [validate] at h
  split at h
  · exact (Except.ok.inj h).symm
  · cases h

theorem eq_of_ofArguments {a : SettingsArguments} {layer : Settings}
    (h : ofArguments a = .ok layer) : layer = a.toSettings := eq_of_validate h

theorem eq_of_ofEnvironment {environment : Environment} {layer : Settings}
    (h : ofEnvironment environment = .ok layer) :
    layer = (SettingsArguments.ofEnvironment environment).toSettings := eq_of_validate h

/-- A file that is accepted was read as a document with settings, and these are its layer. -/
theorem eq_of_ofFile {text : Option String} {layer : Settings} (h : ofFile text = .ok layer) :
    ∃ a, SettingsArguments.ofFile? text = some a ∧ layer = a.toSettings := by
  cases text with
  | none => cases h
  | some text =>
    rw [ofFile] at h
    cases htree : Yaml.read? text with
    | none =>
      rw [htree] at h
      cases h
    | some t =>
      rw [htree] at h
      dsimp only at h
      rw [read_eq_map] at h
      cases hgiven : SettingsArguments.read t with
      | error e =>
        rw [hgiven] at h
        cases h
      | ok a =>
        rw [hgiven] at h
        refine ⟨a, ?_, eq_of_validate h⟩
        rw [SettingsArguments.ofFile?, Option.bind_some, htree, Option.bind_some, hgiven]
        rfl

/-! ### Layers put over settings -/

/-- The settings with some layers over them, the last one on top. -/
def mergeAll (s : Settings) (layers : List SettingsArguments) : Settings :=
  layers.foldl (fun s a => s.merge a.toSettings) s

/-- The names that are appended are those that are new, each once. -/
theorem union_eq (names more : List String) :
    union names more = names ++ (more.filter (· ∉ names)).eraseDups := by
  induction more generalizing names with
  | nil => simp [union]
  | cons name more ih =>
    have hcons : union names (name :: more) =
        union (if name ∈ names then names else names ++ [name]) more := rfl
    rw [hcons, ih]
    split
    case isTrue hmem => rw [List.filter_cons_of_neg (by simpa using hmem)]
    -- a name that is appended counts among the first ones for the rest, so it is not appended twice
    case isFalse hmem =>
      rw [List.filter_cons_of_pos (by simpa using hmem), List.eraseDups_cons, List.filter_filter,
        List.append_assoc, List.singleton_append]
      congr 4
      funext other
      simp [not_or, and_comm, Bool.beq_eq_decide_eq]

/-- The namespace has no default, so a layer that gives one is never mistaken. -/
theorem namespaceName_mergeAll (s : Settings) (layers : List SettingsArguments) :
    (s.mergeAll layers).namespaceName =
      (SettingsArguments.last? (·.namespaceName) layers).or s.namespaceName := by
  induction layers generalizing s with
  | nil => rfl
  | cons a layers ih =>
    have hmerge : (s.merge a.toSettings).namespaceName = a.namespaceName.or s.namespaceName :=
      Option.or_eq_orElse.symm
    rw [SettingsArguments.last?_cons, Option.or_assoc, ← hmerge]
    exact ih (s.merge a.toSettings)

end Settings

/-! ### Texts with a default -/

/-- A setting that is a text and has a default. -/
inductive TextSetting where
  | rootType
  | containerName
deriving DecidableEq, Repr, Inhabited

namespace TextSetting

/-- The value of a setting. -/
def value : TextSetting → Settings → String
  | rootType, s => s.rootType
  | containerName, s => s.containerName

/-- What a layer gives for a setting. -/
def given? : TextSetting → SettingsArguments → Option String
  | rootType, a => a.rootType
  | containerName, a => a.containerName

/-- The value of a setting that nothing is given for. -/
def default (t : TextSetting) : String := t.value {}

/-- What a layer gives for a setting, if it is not the default. -/
def other? (t : TextSetting) (a : SettingsArguments) : Option String :=
  (t.given? a).filter (· ≠ t.default)

variable {t : TextSetting} {layers : List SettingsArguments}

theorem value_toSettings (t : TextSetting) (a : SettingsArguments) :
    t.value a.toSettings = (t.given? a).getD t.default := by
  cases t <;> rfl

/-- A layer that gives the default gives nothing else. -/
theorem other?_getD (t : TextSetting) (a : SettingsArguments) (before : String) :
    (t.other? a).getD before =
      if (t.given? a).getD t.default = t.default then before else (t.given? a).getD t.default := by
  rw [other?]
  cases t.given? a with
  | none => simp
  | some text => by_cases h : text = t.default <;> simp [Option.filter_some, h]

/-- Of a layer, only a text other than the default shows. -/
theorem value_merge (t : TextSetting) (s : Settings) (a : SettingsArguments) :
    t.value (s.merge a.toSettings) = (t.other? a).getD (t.value s) := by
  rw [other?_getD, ← value_toSettings]
  cases t <;> rfl

/-- Over other layers, the last text other than the default decides. -/
theorem value_mergeAll (t : TextSetting) (s : Settings) (layers : List SettingsArguments) :
    t.value (s.mergeAll layers) =
      (SettingsArguments.last? t.other? layers).getD (t.value s) := by
  induction layers generalizing s with
  | nil => rfl
  | cons a layers ih =>
    rw [SettingsArguments.last?_cons, Option.getD_or, ← value_merge]
    exact ih (s.merge a.toSettings)

/-- The first layer is itself over the defaults. -/
theorem value_mergeAll_toSettings (t : TextSetting) (first : SettingsArguments)
    (layers : List SettingsArguments) :
    t.value (first.toSettings.mergeAll layers) =
      (SettingsArguments.last? t.other? (first :: layers)).getD t.default := by
  have hfirst : t.value first.toSettings = (t.other? first).getD t.default := by
    rw [other?_getD, ← value_toSettings]
    exact (ite_eq_right_iff.2 Eq.symm).symm
  -- with this, the first layer is treated as the others are
  rw [value_mergeAll, hfirst, SettingsArguments.last?_cons, Option.getD_or]

/-- No layer gives a text other than the default exactly if those that give one give the default. -/
theorem last?_other?_eq_none_iff :
    SettingsArguments.last? t.other? layers = none ↔
      ∀ a ∈ layers, ∀ text ∈ t.given? a, text = t.default := by
  simp [SettingsArguments.last?, other?]

theorem ne_default_of_mem_last?_other? {text : String}
    (h : text ∈ SettingsArguments.last? t.other? layers) : text ≠ t.default := by
  obtain ⟨a, -, hother⟩ := List.exists_of_findSome?_eq_some h
  exact of_decide_eq_true (Option.filter_eq_some_iff.1 hother).2

/-- A text that is given last and is not the default is the last one of those that are not. -/
theorem last?_other?_eq (h : SettingsArguments.last? t.given? layers ≠ some t.default) :
    SettingsArguments.last? t.other? layers = SettingsArguments.last? t.given? layers := by
  rw [SettingsArguments.last?] at h ⊢
  rw [SettingsArguments.last?]
  -- the search goes from the last layer to the first
  generalize layers.reverse = backwards at h ⊢
  induction backwards with
  | nil => rfl
  | cons a rest ih =>
    rw [List.findSome?_cons] at h ⊢
    rw [List.findSome?_cons]
    cases hgiven : t.given? a with
    | none =>
      rw [hgiven] at h
      simpa [other?, hgiven] using ih h
    | some text =>
      rw [hgiven] at h
      have hother : t.other? a = some text := by
        rw [other?, hgiven]
        exact Option.filter_some_pos (by simpa using h)
      rw [hother]

/-- The last text that is given decides a setting, unless it is the default and another text is the
one before or is given by a layer. -/
theorem last?_other?_getD_eq_iff (t : TextSetting) (layers : List SettingsArguments)
    (before : String) :
    (SettingsArguments.last? t.other? layers).getD before =
        (SettingsArguments.last? t.given? layers).getD before ↔
      (SettingsArguments.last? t.given? layers = some t.default →
        before = t.default ∧ ∀ a ∈ layers, ∀ text ∈ t.given? a, text = t.default) := by
  by_cases h : SettingsArguments.last? t.given? layers = some t.default
  case pos =>
    rw [h, Option.getD_some, ← last?_other?_eq_none_iff]
    simp only [forall_const]
    cases hother : SettingsArguments.last? t.other? layers with
    | none => simp
    | some text => simpa using ne_default_of_mem_last?_other? hother
  case neg =>
    rw [last?_other?_eq h]
    exact iff_of_true rfl fun heq => absurd heq h

end TextSetting

/-! ### The layers of a run -/

namespace CommandLine

variable {files : Files} {environment : Environment} {o : Options} {s : Settings}

/-- What the layers of a run over the environment give: a file, if there is one, and the options. -/
def laterLayers (files : Files) (o : Options) : List SettingsArguments :=
  (o.config.bind fun path => SettingsArguments.ofFile? (files path)).toList ++ [o.arguments]

/-- What the layers of a run give. -/
def layers (files : Files) (environment : Environment) (o : Options) : List SettingsArguments :=
  .ofEnvironment environment :: laterLayers files o

/-- A result that is right is not changed by the message that a wrong one would have. -/
theorem orFail_eq_ok {α ε : Type} {message : ε → String} {r : Except ε α} {a : α}
    (h : orFail message r = .ok a) : r = .ok a := by
  cases r with
  | error e => cases h
  | ok b => exact congrArg Except.ok (Except.ok.inj h)

theorem exists_of_bind_eq_ok {α β ε : Type} {r : Except ε α} {f : α → Except ε β} {b : β}
    (h : r >>= f = .ok b) : ∃ a, r = .ok a ∧ f a = .ok b := by
  cases r with
  | error e => cases h
  | ok a => exact ⟨a, rfl, h⟩

/-- A file, if there is one, is put over what came before. -/
theorem eq_of_withFile {first : Settings} {path? : Option String}
    (h : withFile files first path? = .ok s) :
    s = first.mergeAll (path?.bind fun path => SettingsArguments.ofFile? (files path)).toList := by
  cases path? with
  | none => exact (Except.ok.inj h).symm
  | some path =>
    obtain ⟨layer, hlayer, h⟩ := exists_of_bind_eq_ok h
    obtain ⟨a, ha, rfl⟩ := Settings.eq_of_ofFile (orFail_eq_ok hlayer)
    rw [Option.bind_some, ha]
    exact (Except.ok.inj h).symm

/-- The settings of a run are those of the environment, with those of the other layers over them. -/
theorem settings_eq_mergeAll (h : settings files environment o = .ok s) :
    s = (SettingsArguments.ofEnvironment environment).toSettings.mergeAll (laterLayers files o) := by
  obtain ⟨first, hfirst, h⟩ := exists_of_bind_eq_ok h
  obtain ⟨second, hsecond, h⟩ := exists_of_bind_eq_ok h
  obtain ⟨options, hoptions, h⟩ := exists_of_bind_eq_ok h
  -- no layer is changed by its validation
  obtain rfl := Settings.eq_of_ofEnvironment (orFail_eq_ok hfirst)
  obtain rfl := Settings.eq_of_ofArguments (orFail_eq_ok hoptions)
  obtain rfl := eq_of_withFile hsecond
  rw [laterLayers, Settings.mergeAll, List.foldl_append]
  exact (Except.ok.inj h).symm

/-- The namespace of a run is that of its last layer that gives one. -/
theorem namespaceName_settings (h : settings files environment o = .ok s) :
    s.namespaceName =
      SettingsArguments.last? (·.namespaceName) (layers files environment o) := by
  rw [settings_eq_mergeAll h, Settings.namespaceName_mergeAll, layers,
    SettingsArguments.last?_cons]
  rfl

end CommandLine

namespace TextSetting

/-- Over settings, a layer's text is lost only if it is the default and the text before is not. -/
theorem value_merge_eq_iff (t : TextSetting) (s : Settings) (a : SettingsArguments) :
    t.value (s.merge a.toSettings) = (t.given? a).getD (t.value s) ↔
      (t.given? a = some t.default → t.value s = t.default) := by
  have hone := t.last?_other?_getD_eq_iff [a] (t.value s)
  rw [SettingsArguments.last?_singleton, SettingsArguments.last?_singleton] at hone
  have honly : t.given? a = some t.default → ∀ b ∈ [a], ∀ text ∈ t.given? b, text = t.default := by
    intro hdefault b hb text htext
    rw [List.mem_singleton.1 hb, hdefault] at htext
    exact (Option.mem_some_iff.1 htext).symm
  rw [value_merge, hone]
  exact forall_congr' fun hdefault => and_iff_left (honly hdefault)

/-- In a run, the last layer's text is lost only if it is the default and another layer gives
another text. -/
theorem value_settings_eq_iff {files : CommandLine.Files} {environment : Environment}
    {o : CommandLine.Options} {s : Settings}
    (h : CommandLine.settings files environment o = .ok s) (t : TextSetting) :
    t.value s =
        (SettingsArguments.last? t.given? (CommandLine.layers files environment o)).getD t.default ↔
      (SettingsArguments.last? t.given? (CommandLine.layers files environment o) = some t.default →
        ∀ a ∈ CommandLine.layers files environment o, ∀ text ∈ t.given? a, text = t.default) := by
  rw [CommandLine.settings_eq_mergeAll h, value_mergeAll_toSettings]
  exact (t.last?_other?_getD_eq_iff _ t.default).trans
    (forall_congr' fun _ => and_iff_right rfl)

end TextSetting

/-- **The last layer decides.** Options over settings decide the namespace if they give one, and add
the ignored properties that are new, each once. A text that they give decides it too, and one that
they do not give is kept, unless they give the default over another text. So in a run with these
options the namespace is that of the last layer that gives one, and a text is that of the last layer
that gives it exactly unless this is the default and another layer gives another text. -/
theorem last_layer_decides_iff (base : Settings) {a : SettingsArguments} {layer : Settings}
    (h : Settings.ofArguments a = .ok layer) :
    ((base.merge layer).namespaceName = a.namespaceName.or base.namespaceName ∧
      (base.merge layer).ignoredProperties = base.ignoredProperties ++
        (a.ignoredProperties.filter (· ∉ base.ignoredProperties)).eraseDups ∧
      ∀ t : TextSetting, t.value (base.merge layer) = (t.given? a).getD (t.value base) ↔
        (t.given? a = some t.default → t.value base = t.default)) ∧
    ∀ (files : CommandLine.Files) (environment : Environment) (o : CommandLine.Options)
      (s : Settings), o.arguments = a → CommandLine.settings files environment o = .ok s →
        let layers := CommandLine.layers files environment o
        s.namespaceName = SettingsArguments.last? (·.namespaceName) layers ∧
        ∀ t : TextSetting, t.value s = (SettingsArguments.last? t.given? layers).getD t.default ↔
          (SettingsArguments.last? t.given? layers = some t.default →
            ∀ a ∈ layers, ∀ text ∈ t.given? a, text = t.default) := by
  obtain rfl := Settings.eq_of_ofArguments h
  constructor
  · have hnamespace : (base.merge a.toSettings).namespaceName =
        a.namespaceName.or base.namespaceName := Option.or_eq_orElse.symm
    exact ⟨hnamespace, Settings.union_eq _ _, fun t => t.value_merge_eq_iff base a⟩
  · intro files environment o s _ hrun
    exact ⟨CommandLine.namespaceName_settings hrun, TextSetting.value_settings_eq_iff hrun⟩

/-! ### Runs with layers -/

/-- An environment with a container name and an ignored property. -/
def trippinEnvironment : Environment :=
  .ofList [("MODELGRAPH_IGNORED_PROPERTIES", "Invisible"),
    ("MODELGRAPH_CONTAINER_NAME", "Trippin")]

/-- A file with settings. -/
def trippinFiles : CommandLine.Files := fun path =>
  if path = "config.yaml" then
    some "namespace: Trippin.Models\nignored_properties: [Secrets]\n"
  else none

/-- Options that give a namespace and a property that is ignored already. -/
def sampleOptions : CommandLine.Options where
  catalog := "catalog.yaml"
  host := "Api"
  config := some "config.yaml"
  arguments := { namespaceName := some "Sample", ignoredProperties := ["Invisible"] }

/-- The settings of a run with these. -/
def sampleSettings : Settings where
  namespaceName := some "Sample"
  ignoredProperties := ["Invisible", "Secrets"]
  containerName := "Trippin"

/-- The options of the run decide the namespace, the environment the container name. -/
theorem last_layer_decides_sample :
    (Settings.ofArguments sampleOptions.arguments = .ok sampleOptions.arguments.toSettings ∧
      (Settings.merge { rootType := "Base" } sampleOptions.arguments.toSettings).rootType =
        "Base") ∧
    CommandLine.settings trippinFiles trippinEnvironment sampleOptions = .ok sampleSettings ∧
      sampleSettings.namespaceName = some "Sample" ∧
      sampleSettings.rootType = "ApiBase" ∧ sampleSettings.containerName = "Trippin" := by
  have hlayer : Settings.ofArguments sampleOptions.arguments =
      .ok sampleOptions.arguments.toSettings := by decide +kernel
  have hsettings : CommandLine.settings trippinFiles trippinEnvironment sampleOptions =
      .ok sampleSettings := by decide +kernel
  obtain ⟨⟨-, -, hkept⟩, hrun⟩ := last_layer_decides_iff { rootType := "Base" } hlayer
  obtain ⟨hnamespace, htext⟩ := hrun _ _ _ _ rfl hsettings
  refine ⟨⟨hlayer, (hkept .rootType).2 ?_⟩, hsettings, hnamespace.trans ?_,
    ((htext .rootType).2 ?_).trans ?_, ((htext .containerName).2 ?_).trans ?_⟩
  all_goals decide +kernel

/-- Options that give the default root type over an environment with another one: the settings are
those of the environment. -/
theorem settings_default_over_base :
    CommandLine.settings (fun _ => none) (.ofList [("MODELGRAPH_ROOT_TYPE", "Base")])
        { catalog := "catalog.yaml", host := "Api", arguments := { rootType := some "ApiBase" } } =
      .ok { rootType := "Base" } ∧
    Settings.ofArguments { rootType := some "ApiBase" } = .ok {} ∧
    (Settings.merge { rootType := "Base" } {}).rootType = "Base" := by
  decide +kernel

end FacetModel
