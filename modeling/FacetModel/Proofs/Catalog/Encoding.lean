import FacetModel.Catalog
import FacetModel.Proofs.Query.Encoding

/-!
# Reading back host catalogs

A host catalog is read back from its document in JSON if its types are canonical
(`HostCatalog.read_toJson`), and a catalog that was read from a document of whatever notation has
canonical types (`HostCatalog.ensures_read`). So a catalog that was loaded can be written and loaded
again without loss (`HostCatalog.load_toJson_of_load`): as all fields are written, no default of the
reader comes in, and what is loaded is validated as before.
-/

namespace FacetModel

/-! ### The types of a catalog -/

/-- The types a method speaks of. -/
def MethodDeclaration.declaredTypes (m : MethodDeclaration) : List DeclaredType :=
  m.returns :: m.parameters.map (·.type)

/-- The types a host type speaks of. -/
def HostType.declaredTypes (t : HostType) : List DeclaredType :=
  t.properties.map (·.type) ++ t.methods.flatMap MethodDeclaration.declaredTypes

/-- The types a structural type speaks of. -/
def StructuralType.declaredTypes (t : StructuralType) : List DeclaredType :=
  t.properties.map (·.type)

/-- The types a host catalog speaks of. -/
def HostCatalog.declaredTypes (c : HostCatalog) : List DeclaredType :=
  c.hostTypes.flatMap HostType.declaredTypes
    ++ c.structuralTypes.flatMap StructuralType.declaredTypes

/-! ### Reading back -/

theorem Visibility.read_name (v : Visibility) :
    Tree.readChoice choices (Json.str v.name) = .ok v := by
  cases v <;> rfl

theorem StructuralKind.read_name (k : StructuralKind) :
    Tree.readChoice choices (Json.str k.name) = .ok k := by
  cases k <;> rfl

/-- A property declaration is read back if its type is canonical, since that is what the parser
returns for the text it is written as. -/
theorem PropertyDeclaration.read_toJson {p : PropertyDeclaration} (h : p.type.Canonical) :
    read p.toJson = .ok p := by
  simp [toJson, read, DeclaredType.toJson, Tree.readFields_object, Tree.readType_text h,
    Visibility.read_name]

theorem ParameterDeclaration.read_toJson {p : ParameterDeclaration} (h : p.type.Canonical) :
    read p.toJson = .ok p := by
  simp [toJson, read, DeclaredType.toJson, Tree.readFields_object, Tree.readType_text h]

theorem OperationMarker.read_toJson (m : OperationMarker) : read m.toJson = .ok m := by
  simp [toJson, read, Tree.readFields_object]

/-- A method is read back if its return type and the types of its parameters are canonical; its
marker may be missing. -/
theorem MethodDeclaration.read_toJson {m : MethodDeclaration}
    (h : ∀ t ∈ m.declaredTypes, t.Canonical) : read m.toJson = .ok m := by
  obtain ⟨hreturns, hparameters⟩ := List.forall_mem_cons.1 h
  have hread : Tree.readList ParameterDeclaration.read
      (Json.ofList ParameterDeclaration.toJson m.parameters) = .ok m.parameters :=
    Tree.readList_map fun p hp => p.read_toJson (hparameters _ (List.mem_map_of_mem hp))
  -- a missing marker is written as null, which no marker is
  have hmarker : Tree.readOption OperationMarker.read
      (Json.ofMaybe OperationMarker.toJson m.operation) = .ok m.operation :=
    Tree.readOption_ofMaybe fun marker _ => ⟨rfl, marker.read_toJson⟩
  simp [toJson, read, DeclaredType.toJson, Tree.readFields_object, Tree.readType_text hreturns,
    Visibility.read_name, hread, hmarker]

/-- A host type is read back if every type in its properties and methods is canonical. -/
theorem HostType.read_toJson {t : HostType} (h : ∀ ty ∈ t.declaredTypes, ty.Canonical) :
    read t.toJson = .ok t := by
  obtain ⟨hproperties, hmethods⟩ := List.forall_mem_append.1 h
  have hpropertiesRead : Tree.readList PropertyDeclaration.read
      (Json.ofList PropertyDeclaration.toJson t.properties) = .ok t.properties :=
    Tree.readList_map fun p hp => p.read_toJson (hproperties _ (List.mem_map_of_mem hp))
  have hmethodsRead : Tree.readList MethodDeclaration.read
      (Json.ofList MethodDeclaration.toJson t.methods) = .ok t.methods :=
    Tree.readList_map fun m hm => m.read_toJson fun ty hty =>
      hmethods ty (List.mem_flatMap.2 ⟨m, hm, hty⟩)
  simp [toJson, read, Tree.readFields_object, hpropertiesRead, hmethodsRead]

theorem StructuralProperty.read_toJson {p : StructuralProperty} (h : p.type.Canonical) :
    read p.toJson = .ok p := by
  simp [toJson, read, DeclaredType.toJson, Tree.readFields_object, Tree.readType_text h]

/-- A structural type is read back if its properties have canonical types; its kind is chosen by
name. -/
theorem StructuralType.read_toJson {t : StructuralType}
    (h : ∀ ty ∈ t.declaredTypes, ty.Canonical) : read t.toJson = .ok t := by
  have hproperties : Tree.readList StructuralProperty.read
      (Json.ofList StructuralProperty.toJson t.properties) = .ok t.properties :=
    Tree.readList_map fun p hp => p.read_toJson (h _ (List.mem_map_of_mem hp))
  simp [toJson, read, Tree.readFields_object, StructuralKind.read_name, hproperties]

theorem EnumType.read_toJson (t : EnumType) : read t.toJson = .ok t := by
  simp [toJson, read, Tree.readFields_object]

theorem FacetRegistration.read_toJson (f : FacetRegistration) : read f.toJson = .ok f := by
  simp [toJson, read, Tree.readFields_object]

/-- A registration consists of names, lists of names and the map of keys, and none of these is
parsed. -/
theorem ModelRegistration.read_toJson (r : ModelRegistration) : read r.toJson = .ok r := by
  have hfacets : ∀ l : List FacetRegistration, Tree.readList FacetRegistration.read
      (Json.ofList FacetRegistration.toJson l) = .ok l := fun l =>
    Tree.readList_map fun f _ => f.read_toJson
  have hkeys : Tree.readMap (Tree.readList Tree.readText) (Json.ofMap Json.ofStrings r.keys)
      = .ok r.keys := Tree.readMap_ofMap fun e _ => Tree.readList_ofStrings e.2
  simp [toJson, read, Tree.readFields_object, hfacets, hkeys]

/-- The collections of a store are read back as they are: their items are documents of any form. -/
theorem StoreDefinition.read_toJson (d : StoreDefinition) : read d.toJson = .ok d := by
  have hcollections : Tree.readMap (Tree.readList Tree.readJson)
      (Json.ofMap Tree.list d.collections) = .ok d.collections :=
    Tree.readMap_ofMap fun e _ => Tree.readList_readJson e.2
  simp [toJson, read, Tree.readFields_object, hcollections]

/-- A host value is a query or a plain document, told apart by the alternative's name. -/
theorem HostValue.read_toJson (v : HostValue) : read v.toJson = .ok v := by
  cases v with
  | queryable query => simp [toJson, read, query.read_toJson]
  | object value => simp [toJson, read]

namespace HostCatalog

/-- A catalog with canonical types is read back. -/
theorem read_toJson {c : HostCatalog} (h : ∀ t ∈ c.declaredTypes, t.Canonical) :
    read c.toJson = .ok c := by
  obtain ⟨hhosts, hstructural⟩ := List.forall_mem_append.1 h
  have hhostsRead : Tree.readList HostType.read (Json.ofList HostType.toJson c.hostTypes)
      = .ok c.hostTypes :=
    Tree.readList_map fun t ht => t.read_toJson fun ty hty =>
      hhosts ty (List.mem_flatMap.2 ⟨t, ht, hty⟩)
  have hstructuralRead : Tree.readList StructuralType.read
      (Json.ofList StructuralType.toJson c.structuralTypes) = .ok c.structuralTypes :=
    Tree.readList_map fun t ht => t.read_toJson fun ty hty =>
      hstructural ty (List.mem_flatMap.2 ⟨t, ht, hty⟩)
  have henums : Tree.readList EnumType.read (Json.ofList EnumType.toJson c.enumTypes)
      = .ok c.enumTypes := Tree.readList_map fun t _ => t.read_toJson
  have hvalues : Tree.readMap HostValue.read (Json.ofMap HostValue.toJson c.hostValues)
      = .ok c.hostValues := Tree.readMap_ofMap fun e _ => e.2.read_toJson
  have hstore : Tree.readOption StoreDefinition.read
      (Json.ofMaybe StoreDefinition.toJson c.documentStore) = .ok c.documentStore :=
    Tree.readOption_ofMaybe fun d _ => ⟨rfl, d.read_toJson⟩
  simp [toJson, read, Tree.readFields_object, hhostsRead, hstructuralRead, henums,
    ModelRegistration.read_toJson, hvalues, hstore]

end HostCatalog

/-! ### What is read has canonical types -/

section Ensures

open FacetModel.Members FacetModel.Reading FacetModel.Tree

variable {σ : Type} [Script σ]

/-- The type of a property that was read is canonical, as it was parsed. -/
theorem PropertyDeclaration.ensures_read (t : Tree σ) :
    Ensures (fun p => p.type.Canonical) (read t) := by
  rw [read]
  refine ensures_bind fun fields => ensures_bind fun _ => ?_
  refine (ensures_required ensures_readType fields "type").bind fun _ htype => ?_
  exact ensures_bind fun _ => ensures_bind fun _ => ensures_bind fun _ => ensures_ok htype

theorem ParameterDeclaration.ensures_read (t : Tree σ) :
    Ensures (fun p => p.type.Canonical) (read t) := by
  rw [read]
  refine ensures_bind fun fields => ensures_bind fun _ => ?_
  exact (ensures_required ensures_readType fields "type").bind fun _ htype => ensures_ok htype

/-- All types of a method that was read are canonical: its return type and those of its parameters,
of which there are none by default. -/
theorem MethodDeclaration.ensures_read (t : Tree σ) :
    Ensures (fun m => ∀ ty ∈ m.declaredTypes, ty.Canonical) (read t) := by
  rw [read]
  refine ensures_bind fun fields => ensures_bind fun _ => ?_
  refine ensures_bind fun _ => ensures_bind fun _ => ?_
  refine (ensures_optional (ensures_readList ParameterDeclaration.ensures_read)
    (List.forall_mem_nil _) fields "parameters").bind fun _ hparameters => ?_
  -- a method that does not say what it returns returns nothing
  refine (ensures_optional ensures_readType .void fields "returns").bind fun _ hreturns => ?_
  refine ensures_bind fun _ => ensures_ok ?_
  exact List.forall_mem_cons.2 ⟨hreturns, List.forall_mem_map.2 hparameters⟩

/-- All types of a host type that was read are canonical, as its properties and methods were read
one by one. -/
theorem HostType.ensures_read (t : Tree σ) :
    Ensures (fun h => ∀ ty ∈ h.declaredTypes, ty.Canonical) (read t) := by
  rw [read]
  refine ensures_bind fun fields => ensures_bind fun _ => ?_
  refine ensures_bind fun _ => ensures_bind fun _ => ?_
  refine (ensures_optional (ensures_readList PropertyDeclaration.ensures_read)
    (List.forall_mem_nil _) fields "properties").bind fun _ hproperties => ?_
  refine (ensures_optional (ensures_readList MethodDeclaration.ensures_read)
    (List.forall_mem_nil _) fields "methods").bind fun _ hmethods => ensures_ok ?_
  refine List.forall_mem_append.2 ⟨List.forall_mem_map.2 hproperties, fun ty hty => ?_⟩
  obtain ⟨m, hm, hmem⟩ := List.mem_flatMap.1 hty
  exact hmethods m hm ty hmem

/-- The type of a structural property that was read is canonical. -/
theorem StructuralProperty.ensures_read (t : Tree σ) :
    Ensures (fun p => p.type.Canonical) (read t) := by
  rw [read]
  refine ensures_bind fun fields => ensures_bind fun _ => ?_
  refine (ensures_required ensures_readType fields "type").bind fun _ htype => ?_
  exact ensures_bind fun _ => ensures_ok htype

/-- All types of a structural type that was read are canonical. -/
theorem StructuralType.ensures_read (t : Tree σ) :
    Ensures (fun s => ∀ ty ∈ s.declaredTypes, ty.Canonical) (read t) := by
  rw [read]
  refine ensures_bind fun fields => ensures_bind fun _ => ensures_bind fun _ => ?_
  refine ensures_bind fun _ => ensures_bind fun _ => ensures_bind fun _ => ?_
  refine (ensures_optional (ensures_readList StructuralProperty.ensures_read)
    (List.forall_mem_nil _) fields "properties").bind fun _ hproperties => ensures_ok ?_
  exact List.forall_mem_map.2 hproperties

/-- A catalog that is read has canonical types. -/
theorem HostCatalog.ensures_read (t : Tree σ) :
    Ensures (fun c => ∀ ty ∈ c.declaredTypes, ty.Canonical) (read t) := by
  rw [read]
  refine ensures_bind fun fields => ensures_bind fun _ => ?_
  refine (ensures_required (ensures_readList HostType.ensures_read) fields
    "host_types").bind fun _ hhosts => ?_
  refine (ensures_optional (ensures_readList StructuralType.ensures_read) (List.forall_mem_nil _)
    fields "structural_types").bind fun _ hstructural => ?_
  refine ensures_bind fun _ => ensures_bind fun _ => ensures_bind fun _ => ensures_bind fun _ =>
    ensures_ok ?_
  refine List.forall_mem_append.2 ⟨fun ty hty => ?_, fun ty hty => ?_⟩
  · obtain ⟨host, hhost, hmem⟩ := List.mem_flatMap.1 hty
    exact hhosts host hhost ty hmem
  · obtain ⟨type, htype, hmem⟩ := List.mem_flatMap.1 hty
    exact hstructural type htype ty hmem

end Ensures

/-! ### Loading again -/

namespace HostCatalog

variable {σ : Type} [Script σ] {t : Tree σ} {c : HostCatalog}

/-- A catalog is loaded if it is read and valid. -/
theorem load_eq_ok_iff : load t = .ok c ↔ read t = .ok c ∧ c.validate = .ok () := by
  rw [load]
  constructor
  · intro h
    split at h
    · cases h
    · rename_i read hread
      cases hvalid : read.validate with
      | error e =>
        rw [hvalid] at h
        cases h
      | ok _ =>
        rw [hvalid] at h
        cases h
        exact ⟨hread, hvalid⟩
  · rintro ⟨hread, hvalid⟩
    rw [hread]
    dsimp only
    rw [hvalid]
    rfl

/-- The types of a catalog that was loaded are canonical. -/
theorem canonical_of_load (h : load t = .ok c) : ∀ ty ∈ c.declaredTypes, ty.Canonical :=
  ensures_read t c (load_eq_ok_iff.1 h).1

/-- **A catalog that was loaded can be written and loaded again.** The document of the first loading
may leave out what has a default, and may spell its types in any way. -/
theorem load_toJson_of_load (h : load t = .ok c) : load c.toJson = .ok c := by
  obtain ⟨-, hvalid⟩ := load_eq_ok_iff.1 h
  exact load_eq_ok_iff.2 ⟨read_toJson (canonical_of_load h), hvalid⟩

/-! ### A document without what has a default -/

/-- The document of a club, which spells types in ways of its own. -/
def clubDocument : Json := .object
  [("host_types", .list [.object [("name", Json.str "ClubApi"),
      ("properties", .list [.object [("name", Json.str "Members"),
        ("type", Json.str "IQueryable< Member >")]]),
      ("methods", .list [.object [("name", Json.str "Rank"),
        ("parameters", .list [.object [("name", Json.str "scores"),
          ("type", Json.str "List<int>")]]),
        ("returns", Json.str "int"), ("operation", .object [])]])]]),
    ("structural_types", .list [.object [("name", Json.str "Member"),
      ("keys", .list [Json.str "Id"]),
      ("properties", .list [.object [("name", Json.str "Id"), ("type", Json.str "int")]])]]),
    ("model", .object [("types", .list [Json.str "Member"])]),
    ("host_values", .object
      [("Members", .object [("queryable", .object [("project", .object
          [("input", .object [("source_stub", .object [("name", Json.str "members")])]),
            ("fields", .list [Json.str "Id"])])])]),
        ("Motto", .object [("object", .object [("text", Json.null)])])]),
    ("document_store", .object [("database", Json.str "club"),
      ("collections", .object [("members", .list [.object [("Id", Json.ofNat 1)]])])])]

/-- The catalog of the club. -/
def club : HostCatalog where
  hostTypes := [{
    name := "ClubApi"
    namespaceName := "Default"
    properties := [{ name := "Members", type := .queryable (.reference "Member") }]
    methods := [{
      name := "Rank"
      parameters := [{ name := "scores", type := .collection (.primitive .int32) }]
      returns := .primitive .int32
      operation := some {} }] }]
  structuralTypes := [{
    name := "Member"
    namespaceName := "Default"
    keys := ["Id"]
    properties := [{ name := "Id", type := .primitive .int32 }] }]
  registration := { types := ["Member"] }
  hostValues := .ofList [("Members", .queryable (.project (.stub "members") ["Id"])),
    ("Motto", .object (.object [("text", Json.null)]))]
  documentStore := some {
    database := "club"
    collections := .ofList [("members", [.object [("Id", Json.ofNat 1)]])] }

open DeclaredType.Expression in
/-- The text of a queryable type, with blanks around its argument. -/
theorem parse_members :
    DeclaredType.parse "IQueryable< Member >" = .ok (.queryable (.reference "Member")) := by
  let outer : Name :=
    ⟨'I', ['Q', 'u', 'e', 'r', 'y', 'a', 'b', 'l', 'e'], rfl, List.all_eq_true.1 rfl⟩
  let inner : Name := ⟨'M', ['e', 'm', 'b', 'e', 'r'], rfl, List.all_eq_true.1 rfl⟩
  let nothing : Blanks := ⟨[], nofun⟩
  let blank : Blanks := ⟨[' '], List.all_eq_true.1 rfl⟩
  let d : Derivation :=
    .applied ⟨nothing, outer, nothing⟩ (.last (.plain ⟨blank, inner, blank⟩)) nothing
  have hvalue : d.value = .queryable (.reference "Member") := by decide
  rw [DeclaredType.parse_of_derivation d rfl, hvalue]

open DeclaredType.Expression in
theorem parse_scores :
    DeclaredType.parse "List<int>" = .ok (.collection (.primitive .int32)) := by
  let outer : Name := ⟨'L', ['i', 's', 't'], rfl, List.all_eq_true.1 rfl⟩
  let inner : Name := ⟨'i', ['n', 't'], rfl, List.all_eq_true.1 rfl⟩
  let nothing : Blanks := ⟨[], nofun⟩
  let d : Derivation :=
    .applied ⟨nothing, outer, nothing⟩ (.last (.plain ⟨nothing, inner, nothing⟩)) nothing
  have hvalue : d.value = .collection (.primitive .int32) := by decide
  rw [DeclaredType.parse_of_derivation d rfl, hvalue]

open DeclaredType.Expression in
theorem parse_int : DeclaredType.parse "int" = .ok (.primitive .int32) := by
  let nothing : Blanks := ⟨[], nofun⟩
  let d : Derivation := .plain ⟨nothing, ⟨'i', ['n', 't'], rfl, List.all_eq_true.1 rfl⟩, nothing⟩
  have hvalue : d.value = .primitive .int32 := by decide
  rw [DeclaredType.parse_of_derivation d rfl, hvalue]

/-- The document is read, member by member, as the catalog of the club. -/
theorem read_clubDocument : read clubDocument = .ok club := by
  simp [clubDocument, club, read, HostType.read, PropertyDeclaration.read, MethodDeclaration.read,
    ParameterDeclaration.read, OperationMarker.read, StructuralType.read, StructuralProperty.read,
    ModelRegistration.read, HostValue.read, StoreDefinition.read, Query.read, Query.readFields,
    Query.ofFields, Query.fieldNames, Members.readField, Tree.readFields_object,
    Tree.checkFields_of_nodup, Tree.readList_list, Tree.readAll, Tree.readOption, Tree.isNull,
    Tree.readMap, Tree.readMembers, Tree.readType, parse_members, parse_scores, parse_int,
    defaultNamespace]

theorem load_clubDocument : load clubDocument = .ok club :=
  load_eq_ok_iff.2 ⟨read_clubDocument, rfl⟩

/-- The club is loaded, and loaded again from the document that it is written as. -/
theorem load_toJson_club : load clubDocument = .ok club ∧ load club.toJson = .ok club :=
  ⟨load_clubDocument, load_toJson_of_load load_clubDocument⟩

end HostCatalog

end FacetModel
