import CyberNetizen.Domain.Task
import CyberNetizen.Domain.Channel
import CyberNetizen.Lib.ReadCommitted

namespace CyberNetizen.Domain

inductive CognitionResourceKind
  | persona | prompt | modelProfile | modelRoute | tool | policy
  deriving DecidableEq

inductive CognitionVersionStatus
  | draft | published | superseded
  deriving DecidableEq

structure ResourceScope where
  tenantId : UUID
  agentId : UUID
  kind : CognitionResourceKind
  key : String
  deriving DecidableEq

structure CognitionResourceVersion where
  id : UUID
  tenantId : UUID
  agentId : UUID
  kind : CognitionResourceKind
  key : String
  name : String
  version : ℕ
  status : CognitionVersionStatus
  payload : JsonObject
  note : Option String
  createdBy : UUID
  createdAt : Datetime
  publishedAt : Option Datetime

def CognitionResourceVersion.scope (r : CognitionResourceVersion) : ResourceScope :=
  ⟨r.tenantId, r.agentId, r.kind, r.key⟩

inductive CognitionError
  | notFound (message : String)
  | validation (message : String)
  /-- A constraint of the database. -/
  | integrity
  deriving DecidableEq

end CyberNetizen.Domain

namespace CyberNetizen.Infrastructure

open Domain KeyedTable

/-- A call of one of the operations that write versions, with the identifier that `uuid4` draws for a
new version and the clock readings. -/
inductive CognitionCommand
  | createResourceDraft (scope : ResourceScope) (name : String) (payload : JsonObject)
      (note : Option String) (actorId : UUID) (id : UUID) (now : Datetime)
  | publishResource (resourceId tenantId agentId : UUID) (now : Datetime)
  | rollbackResource (resourceId tenantId agentId actorId : UUID) (id : UUID)
      (createdAt publishedAt : Datetime)

namespace SqlAlchemyCognitionRepository

/-- `uq_cognition_resource_versions_number` and `uq_cognition_resource_versions_published`. -/
inductive UniqueKey
  | number (scope : ResourceScope) (version : ℕ)
  | published (scope : ResourceScope)
  deriving DecidableEq

def uniqueKeys (r : CognitionResourceVersion) : List UniqueKey :=
  .number r.scope r.version :: if r.status = .published then [.published r.scope] else []

abbrev Resources := Table CognitionResourceVersion.id

abbrev Session :=
  ReadCommitted.Body CognitionResourceVersion.id uniqueKeys CognitionError CognitionResourceVersion

def resourceNotFound (resourceId : UUID) : CognitionError :=
  .notFound ("认知资源版本不存在：" ++ uuidString resourceId)

def onlyDraftsPublish : CognitionError := .validation "只有草稿版本可以直接发布"

def rollbackNote (version : ℕ) : String := "回滚自 v" ++ toString version

/-- `SET status = 'superseded'`. -/
def superseded : ReadCommitted.Shrink CognitionResourceVersion.id uniqueKeys where
  toFun := fun r ↦ { r with status := .superseded }
  key_eq := fun _ ↦ rfl
  keys_subset := fun _ ↦ List.cons_subset_cons _ (List.nil_subset _)

def publishedIn (scope : ResourceScope) (r : CognitionResourceVersion) : Bool :=
  r.scope = scope && r.status = .published

/-- `func.max(version)` over the rows of the key. -/
def latest (scope : ResourceScope) (rows : List CognitionResourceVersion) : Option ℕ :=
  ((rows.filter fun r ↦ r.scope = scope).map CognitionResourceVersion.version).max?

def draftRow (scope : ResourceScope) (version : ℕ) (name : String) (payload : JsonObject)
    (note : Option String) (actorId id : UUID) (now : Datetime) : CognitionResourceVersion where
  id
  tenantId := scope.tenantId
  agentId := scope.agentId
  kind := scope.kind
  key := scope.key
  name
  version
  status := .draft
  payload
  note
  createdBy := actorId
  createdAt := now
  publishedAt := none

def publishedRow (row : CognitionResourceVersion) (now : Datetime) : CognitionResourceVersion :=
  { row with status := .published, publishedAt := some now }

def rolledBackRow (version : ℕ) (source : CognitionResourceVersion) (actorId id : UUID)
    (createdAt publishedAt : Datetime) : CognitionResourceVersion where
  id
  tenantId := source.tenantId
  agentId := source.agentId
  kind := source.kind
  key := source.key
  name := source.name
  version
  status := .published
  payload := source.payload
  note := some (rollbackNote source.version)
  createdBy := actorId
  createdAt
  publishedAt := some publishedAt

def createResourceDraft (scope : ResourceScope) (name : String) (payload : JsonObject)
    (note : Option String) (actorId id : UUID) (now : Datetime) : Session :=
  .select fun rows ↦
    let row := draftRow scope ((latest scope rows).getD 0 + 1) name payload note actorId id now
    .write true row .integrity (.done row)

/-- `_owned_resource`, with the row lock. -/
def ownedResource (resourceId tenantId agentId : UUID)
    (next : CognitionResourceVersion → Session) : Session :=
  .lock resourceId (fun r ↦ r.tenantId = tenantId && r.agentId = agentId) fun
    | none => .fail (resourceNotFound resourceId)
    | some row => next row

def publishResource (resourceId tenantId agentId : UUID) (now : Datetime) : Session :=
  ownedResource resourceId tenantId agentId fun row ↦
    if row.status ≠ .draft then .fail onlyDraftsPublish
    else
      .update (publishedIn row.scope) superseded
        (.write false (publishedRow row now) .integrity (.done (publishedRow row now)))

def rollbackResource (resourceId tenantId agentId actorId id : UUID)
    (createdAt publishedAt : Datetime) : Session :=
  ownedResource resourceId tenantId agentId fun source ↦
    .select fun rows ↦
      let row := rolledBackRow ((latest source.scope rows).getD 0 + 1) source actorId id createdAt
        publishedAt
      .update (publishedIn source.scope) superseded (.write true row .integrity (.done row))

def transaction : CognitionCommand → Session
  | .createResourceDraft scope name payload note actorId id now =>
    createResourceDraft scope name payload note actorId id now
  | .publishResource resourceId tenantId agentId now =>
    publishResource resourceId tenantId agentId now
  | .rollbackResource resourceId tenantId agentId actorId id createdAt publishedAt =>
    rollbackResource resourceId tenantId agentId actorId id createdAt publishedAt

def getResourceVersion (resources : Resources) (scope : ResourceScope) (version : ℕ) :
    Option CognitionResourceVersion :=
  resources.rows.find? fun r ↦ r.scope = scope && r.version = version

end SqlAlchemyCognitionRepository

end CyberNetizen.Infrastructure
