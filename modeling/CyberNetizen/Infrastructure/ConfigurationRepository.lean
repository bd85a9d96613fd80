import Mathlib.Data.List.Sort
import CyberNetizen.Domain.Channel
import CyberNetizen.Domain.Configuration
import CyberNetizen.Lib.Exclusive
import CyberNetizen.Lib.Table
import CyberNetizen.Lib.UnitOfWork

namespace CyberNetizen.Infrastructure

open Domain KeyedTable

/-- A call of one of the three writing operations, with the identifier that `uuid4` draws for a new
version and the clock readings on the way. -/
inductive ConfigurationCommand
  | createDraft (note : Option String) (values : List ConfigEntry) (id : UUID) (now : Datetime)
  | publish (versionId : UUID) (now : Datetime)
  | rollback (versionId : UUID) (id : UUID) (createdAt publishedAt : Datetime)

def ConfigurationCommand.newId : ConfigurationCommand → Option UUID
  | .createDraft _ _ id _ => some id
  | .publish _ _ => none
  | .rollback _ id _ _ => some id

def versionNotFound (versionId : UUID) : ConfigurationError :=
  .notFound ("配置版本不存在：" ++ uuidString versionId)

def onlyDraftsPublish : ConfigurationError := .conflict "只有草稿状态的配置版本可以发布"

def draftNoRollback : ConfigurationError := .conflict "草稿不能作为回滚目标"

def rollbackNote (version : ℕ) : String := "回滚到配置 v" ++ toString version

/-- What `create_draft` makes. -/
def draftVersion (version : ℕ) (note : Option String) (values : List ConfigEntry) (id : UUID)
    (now : Datetime) : ConfigVersion where
  id
  version
  status := .draft
  note
  createdAt := now
  publishedAt := none
  values

/-- What `rollback` makes of its target. -/
def rolledBackVersion (version : ℕ) (target : ConfigVersion) (id : UUID)
    (createdAt publishedAt : Datetime) : ConfigVersion where
  id
  version
  status := .published
  note := some (rollbackNote target.version)
  createdAt
  publishedAt := some publishedAt
  values := target.values

namespace MemoryConfigurationRepository

structure Store where
  versions : Table ConfigVersion.id
  nextVersion : ℕ

def Store.empty : Store := ⟨.empty, 1⟩

def getVersion (store : Store) (versionId : UUID) : Option ConfigVersion :=
  store.versions.find? versionId

def getPublished (store : Store) : Option ConfigVersion :=
  store.versions.rows.find? fun item ↦ item.status = .published

/-- `replace(existing, status=SUPERSEDED)`. -/
def superseded : Update ConfigVersion.id := ⟨fun v ↦ { v with status := .superseded }, fun _ ↦ rfl⟩

def supersedePublished (versions : Table ConfigVersion.id) : Table ConfigVersion.id :=
  versions.updateWhere (fun v ↦ v.status = .published) superseded

def createDraft (store : Store) (note : Option String) (values : List ConfigEntry) (id : UUID)
    (now : Datetime) : ConfigVersion × Store :=
  let snapshot := draftVersion store.nextVersion note values id now
  (snapshot, ⟨store.versions.put snapshot, store.nextVersion + 1⟩)

def publish (store : Store) (versionId : UUID) (now : Datetime) :
    Except ConfigurationError ConfigVersion × Store :=
  match store.versions.find? versionId with
  | none => (.error (versionNotFound versionId), store)
  | some target =>
    if target.status ≠ .draft then (.error onlyDraftsPublish, store)
    else
      let published := { target with status := .published, publishedAt := some now }
      (.ok published, { store with versions := (supersedePublished store.versions).put published })

def rollback (store : Store) (versionId id : UUID) (createdAt publishedAt : Datetime) :
    Except ConfigurationError ConfigVersion × Store :=
  match store.versions.find? versionId with
  | none => (.error (versionNotFound versionId), store)
  | some target =>
    if target.status = .draft then (.error draftNoRollback, store)
    else
      let rolledBack := rolledBackVersion store.nextVersion target id createdAt publishedAt
      (.ok rolledBack, ⟨(supersedePublished store.versions).put rolledBack, store.nextVersion + 1⟩)

/-- A call; the lock of the repository is held from its first line to its last. -/
def call (store : Store) : ConfigurationCommand → Except ConfigurationError ConfigVersion × Store
  | .createDraft note values id now =>
    ((.ok (createDraft store note values id now).1), (createDraft store note values id now).2)
  | .publish versionId now => publish store versionId now
  | .rollback versionId id createdAt publishedAt => rollback store versionId id createdAt publishedAt

end MemoryConfigurationRepository

namespace SqlAlchemyConfigurationRepository

open Exclusive UnitOfWork

inductive ConfigurationMapper
  | configurationValue
  | configurationVersion
  deriving DecidableEq

def ConfigurationMapper.className : ConfigurationMapper → String
  | .configurationValue => "ConfigurationValue"
  | .configurationVersion => "ConfigurationVersion"

/-- No `relationship()` joins these classes, so a flush takes them by the name of the class, the
values before the version that they belong to. -/
def configurationMappers : List ConfigurationMapper := [.configurationValue, .configurationVersion]

example : (configurationMappers.map ConfigurationMapper.className).Pairwise (· < ·) := by decide

/-- A row of `configuration_versions`. -/
structure VersionRow where
  id : UUID
  version : ℕ
  status : ConfigVersionStatus
  note : Option String
  createdAt : Datetime
  publishedAt : Option Datetime

/-- A row of `configuration_values`. -/
structure ValueRow where
  versionId : UUID
  scopeType : ConfigScope
  scopeId : Option UUID
  key : String
  value : JsonValue

/-- The columns of `uq_configuration_values_scope_key`, whose nulls are not distinct. -/
def ValueRow.scopeKey (row : ValueRow) : UUID × ConfigIdentity :=
  (row.versionId, row.key, row.scopeType, row.scopeId)

structure Tables where
  versions : Table VersionRow.id
  values : List ValueRow

def Tables.empty : Tables := ⟨.empty, []⟩

def valueModel (versionId : UUID) (entry : ConfigEntry) : ValueRow where
  versionId
  scopeType := entry.scopeType
  scopeId := entry.scopeId
  key := entry.key
  value := entry.value

def ValueRow.entry (row : ValueRow) : ConfigEntry where
  key := row.key
  scopeType := row.scopeType
  value := row.value
  scopeId := row.scopeId

section snapshot

-- `ORDER BY key, scope_type, scope_id` in the collation of the database.
variable (orderBy : ConfigEntry → ConfigEntry → Bool)

def valuesOf (tables : Tables) (versionId : UUID) : List ConfigEntry :=
  ((tables.values.filter fun row ↦ row.versionId = versionId).map ValueRow.entry).insertionSort
    fun entry entry' ↦ orderBy entry entry'

def snapshot (tables : Tables) (row : VersionRow) : ConfigVersion where
  id := row.id
  version := row.version
  status := row.status
  note := row.note
  createdAt := row.createdAt
  publishedAt := row.publishedAt
  values := valuesOf orderBy tables row.id

def getVersion (tables : Tables) (versionId : UUID) : Option ConfigVersion :=
  (tables.versions.find? versionId).map (snapshot orderBy tables)

def getPublished (tables : Tables) : Option ConfigVersion :=
  (tables.versions.rows.find? fun row ↦ row.status = .published).map (snapshot orderBy tables)

end snapshot

def nextVersion (tables : Tables) : ℕ := (tables.versions.rows.map VersionRow.version).max?.getD 0 + 1

def superseded : Update VersionRow.id := ⟨fun row ↦ { row with status := .superseded }, fun _ ↦ rfl⟩

/-- `UPDATE configuration_versions SET status = 'superseded' WHERE status = 'published'`. -/
def supersedePublished (tables : Tables) : Tables :=
  { tables with versions := tables.versions.updateWhere (fun row ↦ row.status = .published) superseded }

def published (now : Datetime) : Update VersionRow.id :=
  ⟨fun row ↦ { row with status := .published, publishedAt := some now }, fun _ ↦ rfl⟩

/-- The flush of the row that `publish` has changed. -/
def markPublished (versionId : UUID) (now : Datetime) (tables : Tables) : Tables :=
  { tables with versions := tables.versions.updateWhere (fun row ↦ row.id = versionId) (published now) }

def insertVersion (row : VersionRow) (tables : Tables) : Option Tables :=
  if row.version ∈ tables.versions.rows.map VersionRow.version then none
  else (tables.versions.insert? row).map fun versions ↦ { tables with versions }

def insertValue (row : ValueRow) (tables : Tables) : Option Tables :=
  if row.versionId ∉ tables.versions.rows.map VersionRow.id then none
  else if ¬((tables.values ++ [row]).map ValueRow.scopeKey).Nodup then none
  else some { tables with values := tables.values ++ [row] }

def addVersion (row : VersionRow) : Pending ConfigurationMapper Tables :=
  ⟨.configurationVersion, insertVersion row⟩

def addValue (row : ValueRow) : Pending ConfigurationMapper Tables :=
  ⟨.configurationValue, insertValue row⟩

def flushVersion (row : VersionRow) (values : List ConfigEntry) (tables : Tables) : Option Tables :=
  UnitOfWork.flush configurationMappers
    (addVersion row :: values.map fun entry ↦ addValue (valueModel row.id entry)) tables

section transactions

variable (orderBy : ConfigEntry → ConfigEntry → Bool)

abbrev Transaction := Body Tables ConfigurationError ConfigVersion

def newDraftRow (version : ℕ) (note : Option String) (id : UUID) (now : Datetime) : VersionRow where
  id
  version
  status := .draft
  note
  createdAt := now
  publishedAt := none

def newRollbackRow (version : ℕ) (target : VersionRow) (id : UUID)
    (createdAt publishedAt : Datetime) : VersionRow where
  id
  version
  status := .published
  note := some (rollbackNote target.version)
  createdAt
  publishedAt := some publishedAt

def createDraft (note : Option String) (values : List ConfigEntry) (id : UUID) (now : Datetime) :
    Transaction :=
  .select nextVersion fun version ↦
    let row := newDraftRow version note id now
    .flush .integrity (flushVersion row values) <|
      .select (fun tables ↦ snapshot orderBy tables row) .done

def publish (versionId : UUID) (now : Datetime) : Transaction :=
  .select (fun tables ↦ tables.versions.find? versionId) fun
    | none => .fail (versionNotFound versionId)
    | some row =>
      if row.status ≠ .draft then .fail onlyDraftsPublish
      else
        .execute supersedePublished <|
          .execute (markPublished versionId now) <|
            .select (fun tables ↦ snapshot orderBy tables (published now row)) .done

def rollback (versionId id : UUID) (createdAt publishedAt : Datetime) : Transaction :=
  .select (fun tables ↦ tables.versions.find? versionId) fun
    | none => .fail (versionNotFound versionId)
    | some target =>
      if target.status = .draft then .fail draftNoRollback
      else
        .select (fun tables ↦ valuesOf orderBy tables target.id) fun values ↦
          .execute supersedePublished <|
            .select nextVersion fun version ↦
              let row := newRollbackRow version target id createdAt publishedAt
              .flush .integrity (flushVersion row values) <|
                .select (fun tables ↦ snapshot orderBy tables row) .done

def transaction : ConfigurationCommand → Transaction
  | .createDraft note values id now => createDraft orderBy note values id now
  | .publish versionId now => publish orderBy versionId now
  | .rollback versionId id createdAt publishedAt => rollback orderBy versionId id createdAt publishedAt

end transactions

end SqlAlchemyConfigurationRepository

end CyberNetizen.Infrastructure
