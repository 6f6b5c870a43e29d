import AtlasManifests.Export.Config
import AtlasManifests.Proofs.ManifestRoundTrips
import AtlasManifests.Proofs.OmittedFields

/-! # Sources and configurations survive being written

What the control plane describes, and a configuration, is the same after it has been written and
read again (`Survives`, `sources_survive`).  So it is for everything that can be read, and it does
not matter whether an optional field is left out or given as `null`, in the record itself or in its
parts.  `layout` says for each kind of record which fields are not optional, and for those `null` is
refused.
-/
namespace AtlasManifests

attribute [local simp] Assoc.lookup_cons

-- fields are read one after the other, from the outside
attribute [local simp ↓] bind_eq_some_iff

@[simp] theorem undoes_float : Undoes Json.float? Json.float where
  read_write _ := by rw [Json.float, Json.float?]
  ne_null _ := nofun

/-! ## Parts of sources -/

@[simp] theorem Tag.undoes : Undoes ofJson? toJson where
  read_write _ := by
    rw [ofJson?]
    simp [toJson]
  ne_null _ := nofun

/-- The fields of a tag. -/
def Tag.layout : Layout where
  names := fields
  plain := fields

@[simp] theorem Tag.respects : Respects ofJson? (.Record layout) :=
  .record (fun _ => rfl) fun r r' h => by
    rw [layout, fields] at h
    simp (disch := simp) only [h.text]

@[simp] theorem Hardware.undoes : Undoes ofJson? toJson where
  read_write _ := by
    rw [ofJson?]
    simp [toJson]
  ne_null _ := nofun

/-- The fields of the hardware of nodes. -/
def Hardware.layout : Layout where
  names := fields
  plain := []

@[simp] theorem Hardware.respects : Respects ofJson? (.Record layout) :=
  .record (fun _ => rfl) fun r r' h => by
    rw [layout, fields] at h
    simp (disch := simp) only [h.optional]

@[simp] theorem ComputeScaling.undoes : Undoes ofJson? toJson where
  read_write _ := by
    rw [ofJson?]
    simp [toJson]
  ne_null _ := nofun

/-- The fields of compute scaling. -/
def ComputeScaling.layout : Layout where
  names := fields
  plain := []

@[simp] theorem ComputeScaling.respects : Respects ofJson? (.Record layout) :=
  .record (fun _ => rfl) fun r r' h => by
    rw [layout, fields] at h
    simp (disch := simp) only [h.optional]

@[simp] theorem DiskScaling.undoes : Undoes ofJson? toJson where
  read_write _ := by
    rw [ofJson?]
    simp [toJson]
  ne_null _ := nofun

/-- The fields of disk scaling. -/
def DiskScaling.layout : Layout where
  names := fields
  plain := []

@[simp] theorem DiskScaling.respects : Respects ofJson? (.Record layout) :=
  .record (fun _ => rfl) fun r r' h => by
    rw [layout, fields] at h
    simp (disch := simp) only [h.optional]

@[simp] theorem AutoScaling.undoes : Undoes ofJson? toJson where
  read_write _ := by
    rw [ofJson?]
    simp [toJson]
  ne_null _ := nofun

/-- The fields of automatic scaling. -/
def AutoScaling.layout : Layout where
  names := fields
  plain := []
  parts := [("compute", .Record ComputeScaling.layout),
    ("diskGB", .Record DiskScaling.layout)]

@[simp] theorem AutoScaling.respects : Respects ofJson? (.Record layout) :=
  .record (fun _ => rfl) fun r r' h => by
    rw [layout, fields] at h
    simp (disch := simp) only [h.optional]

@[simp] theorem Region.undoes : Undoes ofJson? toJson where
  read_write _ := by
    rw [ofJson?]
    simp [toJson]
  ne_null _ := nofun

/-- The fields of a region. -/
def Region.layout : Layout where
  names := fields
  plain := []
  parts := [("electableSpecs", .Record Hardware.layout),
    ("readOnlySpecs", .Record Hardware.layout),
    ("analyticsSpecs", .Record Hardware.layout),
    ("autoScaling", .Record AutoScaling.layout)]

@[simp] theorem Region.respects : Respects ofJson? (.Record layout) :=
  .record (fun _ => rfl) fun r r' h => by
    rw [layout, fields] at h
    simp (disch := simp) only [h.optional]

@[simp] theorem Zone.undoes : Undoes ofJson? toJson where
  read_write _ := by
    rw [ofJson?]
    simp [toJson]
  ne_null _ := nofun

/-- The fields of a zone. -/
def Zone.layout : Layout where
  names := fields
  plain := ["regionConfigs"]
  parts := [("regionConfigs", .Items (.Record Region.layout))]

@[simp] theorem Zone.respects : Respects ofJson? (.Record layout) :=
  .record (fun _ => rfl) fun r r' h => by
    rw [layout, fields] at h
    simp (disch := simp) only [h.optional, h.list]

@[simp] theorem Role.undoes : Undoes ofJson? toJson where
  read_write _ := by
    rw [ofJson?]
    simp [toJson]
  ne_null _ := nofun

/-- The fields of a role. -/
def Role.layout : Layout where
  names := fields
  plain := ["roleName", "databaseName"]

@[simp] theorem Role.respects : Respects ofJson? (.Record layout) :=
  .record (fun _ => rfl) fun r r' h => by
    rw [layout, fields] at h
    simp (disch := simp) only [h.text, h.optional]

@[simp] theorem Scope.undoes : Undoes ofJson? toJson where
  read_write _ := by
    rw [ofJson?]
    simp [toJson]
  ne_null _ := nofun

/-- The fields of a scope. -/
def Scope.layout : Layout where
  names := fields
  plain := fields

@[simp] theorem Scope.respects : Respects ofJson? (.Record layout) :=
  .record (fun _ => rfl) fun r r' h => by
    rw [layout, fields] at h
    simp (disch := simp) only [h.text]

@[simp] theorem AwsAccess.undoes : Undoes ofJson? toJson where
  read_write _ := by
    rw [ofJson?]
    simp [toJson]
  ne_null _ := nofun

/-- The fields of access to AWS. -/
def AwsAccess.layout : Layout where
  names := fields
  plain := []

@[simp] theorem AwsAccess.respects : Respects ofJson? (.Record layout) :=
  .record (fun _ => rfl) fun r r' h => by
    rw [layout, fields] at h
    simp (disch := simp) only [h.optional]

@[simp] theorem CloudAccess.undoes : Undoes ofJson? toJson where
  read_write _ := by
    rw [ofJson?]
    simp [toJson]
  ne_null _ := nofun

/-- The fields of access to clouds. -/
def CloudAccess.layout : Layout where
  names := fields
  plain := []
  parts := [("aws", .Record AwsAccess.layout)]

@[simp] theorem CloudAccess.respects : Respects ofJson? (.Record layout) :=
  .record (fun _ => rfl) fun r r' h => by
    rw [layout, fields] at h
    simp (disch := simp) only [h.optional]

@[simp] theorem ProcessingRegion.undoes : Undoes ofJson? toJson where
  read_write _ := by
    rw [ofJson?]
    simp [toJson]
  ne_null _ := nofun

/-- The fields of a processing region. -/
def ProcessingRegion.layout : Layout where
  names := fields
  plain := []

@[simp] theorem ProcessingRegion.respects : Respects ofJson? (.Record layout) :=
  .record (fun _ => rfl) fun r r' h => by
    rw [layout, fields] at h
    simp (disch := simp) only [h.optional]

@[simp] theorem DataSource.undoes : Undoes ofJson? toJson where
  read_write _ := by
    rw [ofJson?]
    simp [toJson]
  ne_null _ := nofun

/-- The fields of a data source. -/
def DataSource.layout : Layout where
  names := fields
  plain := ["urls"]

@[simp] theorem DataSource.respects : Respects ofJson? (.Record layout) :=
  .record (fun _ => rfl) fun r r' h => by
    rw [layout, fields] at h
    simp (disch := simp) only [h.optional, h.list]

@[simp] theorem Collection.undoes : Undoes ofJson? toJson where
  read_write _ := by
    rw [ofJson?]
    simp [toJson]
  ne_null _ := nofun

/-- The fields of a collection. -/
def Collection.layout : Layout where
  names := fields
  plain := fields
  parts := [("dataSources", .Items (.Record DataSource.layout))]

@[simp] theorem Collection.respects : Respects ofJson? (.Record layout) :=
  .record (fun _ => rfl) fun r r' h => by
    rw [layout, fields] at h
    simp (disch := simp) only [h.text, h.list]

@[simp] theorem View.undoes : Undoes ofJson? toJson where
  read_write _ := by
    rw [ofJson?]
    simp [toJson]
  ne_null _ := nofun

/-- The fields of a view. -/
def View.layout : Layout where
  names := fields
  plain := ["name"]

@[simp] theorem View.respects : Respects ofJson? (.Record layout) :=
  .record (fun _ => rfl) fun r r' h => by
    rw [layout, fields] at h
    simp (disch := simp) only [h.text, h.optional]

@[simp] theorem Database.undoes : Undoes ofJson? toJson where
  read_write _ := by
    rw [ofJson?]
    simp [toJson]
  ne_null _ := nofun

/-- The fields of a federated database. -/
def Database.layout : Layout where
  names := fields
  plain := ["name", "collections", "views"]
  parts := [("collections", .Items (.Record Collection.layout)),
    ("views", .Items (.Record View.layout))]

@[simp] theorem Database.respects : Respects ofJson? (.Record layout) :=
  .record (fun _ => rfl) fun r r' h => by
    rw [layout, fields] at h
    simp (disch := simp) only [h.text, h.optional, h.list]

@[simp] theorem Store.undoes : Undoes ofJson? toJson where
  read_write _ := by
    rw [ofJson?]
    simp [toJson]
  ne_null _ := nofun

/-- The fields of a store. -/
def Store.layout : Layout where
  names := fields
  plain := ["name", "provider", "additionalStorageClasses"]

@[simp] theorem Store.respects : Respects ofJson? (.Record layout) :=
  .record (fun _ => rfl) fun r r' h => by
    rw [layout, fields] at h
    simp (disch := simp) only [h.text, h.optional, h.list]

@[simp] theorem Storage.undoes : Undoes ofJson? toJson where
  read_write _ := by
    rw [ofJson?]
    simp [toJson]
  ne_null _ := nofun

/-- The fields of a storage. -/
def Storage.layout : Layout where
  names := fields
  plain := fields
  parts := [("databases", .Items (.Record Database.layout)),
    ("stores", .Items (.Record Store.layout))]

@[simp] theorem Storage.respects : Respects ofJson? (.Record layout) :=
  .record (fun _ => rfl) fun r r' h => by
    rw [layout, fields] at h
    simp (disch := simp) only [h.list]

/-! ## Sources -/

@[simp] theorem Project.undoes : Undoes ofJson? toJson where
  read_write _ := by
    rw [ofJson?]
    simp [toJson]
  ne_null _ := nofun

/-- The fields of a project. -/
def Project.layout : Layout where
  names := fields
  plain := ["id", "name", "orgId", "tags"]
  parts := [("tags", .Items (.Record Tag.layout))]

@[simp] theorem Project.respects : Respects ofJson? (.Record layout) :=
  .record (fun _ => rfl) fun r r' h => by
    rw [layout, fields] at h
    simp (disch := simp) only [h.text, h.optional, h.list]

theorem Project.refuses : Refuses ofJson? layout :=
  .record (fun _ => rfl) fun r name hname hnull => by
    simp only [layout, List.mem_cons, List.not_mem_nil, or_false] at hname
    rcases hname with rfl | rfl | rfl | rfl
    all_goals
      repeat first
        | exact bind_of_eq_none (Record.text_of_null hnull)
        | exact bind_of_eq_none (Record.list_of_null hnull)
        | refine bind_of_forall fun _ => ?_

@[simp] theorem ProjectSettings.undoes (reading : Reading) (writing : Writing) :
    Undoes (ofJson? reading) (toJson writing) where
  read_write _ := by
    rw [ofJson?]
    simp [toJson]
  ne_null _ := nofun

/-- The fields of project settings. -/
def ProjectSettings.layout : Layout where
  names := fields
  plain := []

@[simp] theorem ProjectSettings.respects : Respects (ofJson? .lenient) (.Record layout) :=
  .record (fun _ => rfl) fun r r' h => by
    rw [layout, fields] at h
    simp (disch := simp) only [h.optional]

theorem ProjectSettings.refuses : Refuses (ofJson? .lenient) layout := nofun

@[simp] theorem AccessEntry.undoes : Undoes ofJson? toJson where
  read_write _ := by
    rw [ofJson?]
    simp [toJson]
  ne_null _ := nofun

/-- The fields of an entry of an access list. -/
def AccessEntry.layout : Layout where
  names := fields
  plain := []

@[simp] theorem AccessEntry.respects : Respects ofJson? (.Record layout) :=
  .record (fun _ => rfl) fun r r' h => by
    rw [layout, fields] at h
    simp (disch := simp) only [h.optional]

theorem AccessEntry.refuses : Refuses ofJson? layout := nofun

@[simp] theorem Cluster.undoes : Undoes ofJson? toJson where
  read_write _ := by
    rw [ofJson?]
    simp [toJson]
  ne_null _ := nofun

/-- The fields of a cluster. -/
def Cluster.layout : Layout where
  names := fields
  plain := ["name", "replicationSpecs", "tags", "labels"]
  parts := [("replicationSpecs", .Items (.Record Zone.layout)),
    ("tags", .Items (.Record Tag.layout)),
    ("labels", .Items (.Record Tag.layout))]

@[simp] theorem Cluster.respects : Respects ofJson? (.Record layout) :=
  .record (fun _ => rfl) fun r r' h => by
    rw [layout, fields] at h
    simp (disch := simp) only [h.text, h.optional, h.list]

theorem Cluster.refuses : Refuses ofJson? layout :=
  .record (fun _ => rfl) fun r name hname hnull => by
    simp only [layout, List.mem_cons, List.not_mem_nil, or_false] at hname
    rcases hname with rfl | rfl | rfl | rfl
    all_goals
      repeat first
        | exact bind_of_eq_none (Record.text_of_null hnull)
        | exact bind_of_eq_none (Record.list_of_null hnull)
        | refine bind_of_forall fun _ => ?_

@[simp] theorem DatabaseUser.undoes : Undoes ofJson? toJson where
  read_write _ := by
    rw [ofJson?]
    simp [toJson]
  ne_null _ := nofun

/-- The fields of a database user. -/
def DatabaseUser.layout : Layout where
  names := fields
  plain := ["username", "databaseName", "roles", "scopes", "labels"]
  parts := [("roles", .Items (.Record Role.layout)),
    ("scopes", .Items (.Record Scope.layout)),
    ("labels", .Items (.Record Tag.layout))]

@[simp] theorem DatabaseUser.respects : Respects ofJson? (.Record layout) :=
  .record (fun _ => rfl) fun r r' h => by
    rw [layout, fields] at h
    simp (disch := simp) only [h.text, h.optional, h.list]

theorem DatabaseUser.refuses : Refuses ofJson? layout :=
  .record (fun _ => rfl) fun r name hname hnull => by
    simp only [layout, List.mem_cons, List.not_mem_nil, or_false] at hname
    rcases hname with rfl | rfl | rfl | rfl | rfl
    all_goals
      repeat first
        | exact bind_of_eq_none (Record.text_of_null hnull)
        | exact bind_of_eq_none (Record.list_of_null hnull)
        | refine bind_of_forall fun _ => ?_

@[simp] theorem Container.undoes : Undoes ofJson? toJson where
  read_write _ := by
    rw [ofJson?]
    simp [toJson]
  ne_null _ := nofun

/-- The fields of a network container. -/
def Container.layout : Layout where
  names := fields
  plain := ["regions"]

@[simp] theorem Container.respects : Respects ofJson? (.Record layout) :=
  .record (fun _ => rfl) fun r r' h => by
    rw [layout, fields] at h
    simp (disch := simp) only [h.optional, h.list]

theorem Container.refuses : Refuses ofJson? layout :=
  .record (fun _ => rfl) fun r name hname hnull => by
    obtain rfl := List.mem_singleton.mp hname
    repeat first
      | exact bind_of_eq_none (Record.list_of_null hnull)
      | refine bind_of_forall fun _ => ?_

@[simp] theorem Peering.undoes : Undoes ofJson? toJson where
  read_write _ := by
    rw [ofJson?]
    simp [toJson]
  ne_null _ := nofun

/-- The fields of a network peering. -/
def Peering.layout : Layout where
  names := fields
  plain := ["containerId"]

@[simp] theorem Peering.respects : Respects ofJson? (.Record layout) :=
  .record (fun _ => rfl) fun r r' h => by
    rw [layout, fields] at h
    simp (disch := simp) only [h.text, h.optional]

theorem Peering.refuses : Refuses ofJson? layout :=
  .record (fun _ => rfl) fun r name hname hnull => by
    obtain rfl := List.mem_singleton.mp hname
    repeat first
      | exact bind_of_eq_none (Record.text_of_null hnull)
      | refine bind_of_forall fun _ => ?_

@[simp] theorem Integration.undoes : Undoes ofJson? toJson where
  read_write _ := by
    rw [ofJson?]
    simp [toJson]
  ne_null _ := nofun

/-- The fields of an integration. -/
def Integration.layout : Layout where
  names := fields
  plain := ["type"]

@[simp] theorem Integration.respects : Respects ofJson? (.Record layout) :=
  .record (fun _ => rfl) fun r r' h => by
    rw [layout, fields] at h
    simp (disch := simp) only [h.text, h.optional]

theorem Integration.refuses : Refuses ofJson? layout :=
  .record (fun _ => rfl) fun r name hname hnull => by
    obtain rfl := List.mem_singleton.mp hname
    repeat first
      | exact bind_of_eq_none (Record.text_of_null hnull)
      | refine bind_of_forall fun _ => ?_

@[simp] theorem Federation.undoes : Undoes ofJson? toJson where
  read_write _ := by
    rw [ofJson?]
    simp [toJson]
  ne_null _ := nofun

/-- The fields of a data federation. -/
def Federation.layout : Layout where
  names := fields
  plain := ["name"]
  parts := [("cloudProviderConfig", .Record CloudAccess.layout),
    ("dataProcessRegion", .Record ProcessingRegion.layout),
    ("storage", .Record Storage.layout)]

@[simp] theorem Federation.respects : Respects ofJson? (.Record layout) :=
  .record (fun _ => rfl) fun r r' h => by
    rw [layout, fields] at h
    simp (disch := simp) only [h.text, h.optional]

theorem Federation.refuses : Refuses ofJson? layout :=
  .record (fun _ => rfl) fun r name hname hnull => by
    obtain rfl := List.mem_singleton.mp hname
    repeat first
      | exact bind_of_eq_none (Record.text_of_null hnull)
      | refine bind_of_forall fun _ => ?_

/-! ## Configurations -/

@[simp] theorem undoes_uint32 : Undoes Json.uint32? (fun n => Json.int n.toNat) where
  read_write n := by
    have hlow : (0 : Int) ≤ n.toNat := Int.natCast_nonneg _
    have hhigh : (n.toNat : Int) ≤ 4294967295 := by
      have := n.toNat_lt
      omega
    rw [Json.uint32?, Json.int, Json.intIn?, if_pos ⟨hlow, hhigh⟩, Option.map_some,
      Int.toNat_natCast, UInt32.ofNat_toNat]
  ne_null _ := nofun

/-- A choice is read back if each word is that of one choice. -/
theorem undoes_choice {α : Type} {all : List α} {word : α → String}
    (h : ∀ x, all.find? (fun y => word y == word x) = some x) :
    Undoes (choiceOf? all word) (fun x => .str (word x)) where
  read_write x := h x
  ne_null _ := nofun

@[simp] theorem CuratedKind.undoes : Undoes (choiceOf? all word) (fun k => .str k.word) :=
  undoes_choice fun k => by cases k <;> decide

@[simp] theorem GeneratedKind.undoes : Undoes (choiceOf? all word) (fun k => .str k.word) :=
  undoes_choice fun k => by cases k <;> decide

@[simp] theorem choicesOf?_written {α : Type} {all : List α} {word : α → String}
    (h : Undoes (choiceOf? all word) (fun x => .str (word x))) (xs : List α) :
    choicesOf? all word (.arr (xs.map fun x => .str (word x))) = some xs :=
  Field.mapM_written h xs

@[simp] theorem Credentials.undoes : Undoes ofJson? toJson where
  read_write _ := rfl
  ne_null _ := nofun

@[simp] theorem GeneratedConfig.undoes : Undoes ofJson? toJson where
  read_write c := by
    have hwritten : toJson c = .ofFields [("crdVersion", some (.str c.crdVersion)),
      ("apiVersionTag", some (.str c.apiTag)),
      ("kinds", some (.arr (c.kinds.map fun k => .str k.word)))] := rfl
    rw [ofJson?, hwritten]
    simp
  ne_null _ := nofun

@[simp] theorem Field.orNull_written {α : Type} {read : Json → Option α} {write : α → Json}
    (h : Undoes read write) (x : Option α) :
    withDefault (fun value => if value.isNull then some none else (read value).map some) none
      (x.map write) = some x := by
  cases x with
  | none => rfl
  | some a =>
    have hnull : ¬ (write a).isNull = true := fun heq => h.ne_null a (Json.isNull_iff.mp heq)
    rw [Option.map_some, withDefault, if_neg hnull, h.read_write, Option.map_some]

@[simp] theorem Config.undoes : Undoes ofJson? toJson where
  read_write c := by
    rw [ofJson?]
    simp [toJson, undoes_uint32.read_write, -Bool.exists_bool]
  ne_null _ := nofun

/-- The fields of a configuration. -/
def Config.layout : Layout where
  reading := .strict
  names := fields
  plain := ["namespace", "operatorVersion", "independentResources", "includeSecrets", "projectId",
    "kinds", "pageSize", "baseUrl"]

@[simp] theorem Config.respects : Respects ofJson? (.Record layout) :=
  .record (fun _ => rfl) fun r r' h => by
    rw [layout, fields] at h
    simp (disch := simp) only [h.withDefault, h.orNull]

theorem Config.refuses : Refuses ofJson? layout :=
  .record (fun _ => rfl) fun r name hname hnull => by
    have htext (default : String) : r.withDefault Json.text? default name = none :=
      Record.withDefault_of_null hnull default rfl
    have hflag (default : Bool) : r.withDefault Json.bool? default name = none :=
      Record.withDefault_of_null hnull default rfl
    have hkinds (default : List CuratedKind) :
        r.withDefault (choicesOf? CuratedKind.all CuratedKind.word) default name = none :=
      Record.withDefault_of_null hnull default rfl
    have hsize (default : UInt32) : r.withDefault Json.uint32? default name = none :=
      Record.withDefault_of_null hnull default rfl
    simp only [layout, List.mem_cons, List.not_mem_nil, or_false] at hname
    rcases hname with rfl | rfl | rfl | rfl | rfl | rfl | rfl | rfl
    all_goals
      repeat first
        | exact bind_of_eq_none (htext _)
        | exact bind_of_eq_none (hflag _)
        | exact bind_of_eq_none (hkinds _)
        | exact bind_of_eq_none (hsize _)
        | refine bind_of_forall fun _ => ?_

/-! ## All of them -/

/-- What is written is read back, and what is read does not depend on how it is given. -/
structure Survives {α : Type} (read : Json → Option α) (write : α → Json) (l : Layout) : Prop where
  /-- What is written is read as what it was. -/
  read_write (a : α) : read (write a) = some a
  /-- To read, to write and to read again is to read once. -/
  reread (j : Json) : ((read j).bind fun a => read (write a)) = read j
  /-- An optional field given as `null` is read as one that is left out. -/
  of_null {before after : List (String × Json)} {name : String} (hoptional : name ∉ l.plain)
    (hbefore : name ∉ before.map (·.1)) (hafter : name ∉ after.map (·.1)) :
    read (.obj (before ++ (name, .null) :: after)) = read (.obj (before ++ after))
  /-- So it is with any number of optional fields, of the record and of its parts. -/
  read_eq {j j' : Json} (h : Likeness.Record l j j') : read j = read j'
  /-- For the other fields `null` is refused. -/
  refuses : Refuses read l

theorem Survives.of_laws {α : Type} {read : Json → Option α} {write : α → Json} {l : Layout}
    (hundoes : Undoes read write) (hrespects : Respects read (.Record l))
    (hrefuses : Refuses read l) : Survives read write l where
  read_write := hundoes.read_write
  reread j := by
    cases read j with
    | none => rfl
    | some a => exact hundoes.read_write a
  of_null hoptional hbefore hafter := hrespects.read_eq (.of_null hoptional hbefore hafter)
  read_eq := hrespects.read_eq
  refuses := hrefuses

/-- **Sources and configurations survive being written.**  Whatever the control plane describes and
every configuration is read back from the value that is written of it, so that to read, to write and
to read again is to read once.  An optional field is read alike given as `null` and left out, for
any number of them and in all parts, and no other field can be given as `null`. -/
theorem sources_survive :
    Survives Project.ofJson? Project.toJson Project.layout ∧
    Survives (ProjectSettings.ofJson? .lenient) (ProjectSettings.toJson .explicit)
      ProjectSettings.layout ∧
    Survives AccessEntry.ofJson? AccessEntry.toJson AccessEntry.layout ∧
    Survives Cluster.ofJson? Cluster.toJson Cluster.layout ∧
    Survives DatabaseUser.ofJson? DatabaseUser.toJson DatabaseUser.layout ∧
    Survives Container.ofJson? Container.toJson Container.layout ∧
    Survives Peering.ofJson? Peering.toJson Peering.layout ∧
    Survives Integration.ofJson? Integration.toJson Integration.layout ∧
    Survives Federation.ofJson? Federation.toJson Federation.layout ∧
    Survives Config.ofJson? Config.toJson Config.layout :=
  ⟨.of_laws Project.undoes Project.respects Project.refuses,
    .of_laws (ProjectSettings.undoes _ _) ProjectSettings.respects ProjectSettings.refuses,
    .of_laws AccessEntry.undoes AccessEntry.respects AccessEntry.refuses,
    .of_laws Cluster.undoes Cluster.respects Cluster.refuses,
    .of_laws DatabaseUser.undoes DatabaseUser.respects DatabaseUser.refuses,
    .of_laws Container.undoes Container.respects Container.refuses,
    .of_laws Peering.undoes Peering.respects Peering.refuses,
    .of_laws Integration.undoes Integration.respects Integration.refuses,
    .of_laws Federation.undoes Federation.respects Federation.refuses,
    .of_laws Config.undoes Config.respects Config.refuses⟩

/-- A user until a leap second, and a cluster with `null` for itself and within its zone. -/
theorem sources_survive_nested :
    let user : DatabaseUser := {
      username := "app_user"
      deleteAfterDate := some ⟨⟨2016, 12, 31, by decide⟩, 23, 59, 60, 5000000, by decide⟩ }
    DatabaseUser.ofJson? user.toJson = some user ∧
    Cluster.ofJson? (.obj [("name", .str "Orders"), ("paused", .null),
        ("replicationSpecs", .arr [.obj [("zoneName", .null)]])]) =
      Cluster.ofJson? (.obj [("name", .str "Orders"), ("replicationSpecs", .arr [.obj []])]) := by
  intro user
  obtain ⟨-, -, -, hcluster, huser, -⟩ := sources_survive
  have hzone : Likeness.Record Zone.layout (.obj [("zoneName", .null)]) (.obj []) :=
    show Likeness.Record _ (.obj ([] ++ ("zoneName", .null) :: [])) (.obj ([] ++ [])) from
      .of_null (by decide) List.not_mem_nil List.not_mem_nil
  have hzones : Cluster.layout.part "replicationSpecs" (.arr [.obj [("zoneName", .null)]])
      (.arr [.obj []]) := Likeness.Items.items (.cons hzone .nil)
  refine ⟨huser.read_write user, ?_⟩
  calc Cluster.ofJson? (.obj ([("name", .str "Orders")] ++ ("paused", .null) ::
        [("replicationSpecs", .arr [.obj [("zoneName", .null)]])]))
    _ = Cluster.ofJson? (.obj ([("name", .str "Orders")] ++
          ("replicationSpecs", .arr [.obj [("zoneName", .null)]]) :: [])) :=
      hcluster.of_null (by decide) (by decide) (by decide)
    _ = Cluster.ofJson? (.obj ([("name", .str "Orders")] ++
          ("replicationSpecs", .arr [.obj []]) :: [])) := hcluster.read_eq (.of_part hzones)

end AtlasManifests
