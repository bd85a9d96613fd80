import CyberNetizen.Infrastructure.AttachmentRepository
import CyberNetizen.Infrastructure.ObjectStorage

namespace CyberNetizen.Application

open Domain Infrastructure KeyedTable

structure AttachmentStore where
  attachments : AttachmentTable
  objects : ObjectTable

def AttachmentStore.empty : AttachmentStore := ⟨.empty, .empty⟩

namespace AttachmentService

open AttachmentRepository

section reserve

/-- The checked and normalised arguments of `reserve`. -/
structure Upload where
  conversationId : UUID
  clientMessageId : UUID
  originalName : String
  /-- `_safe_object_name` of the name. -/
  safeObjectName : String
  contentType : String
  sizeBytes : ℤ
  sha256 : String
  expirySeconds : ℕ
  deriving DecidableEq

def objectKey (tenantId attachmentId : UUID) (safeObjectName : String) : String :=
  "tenants/" ++ uuidString tenantId ++ "/attachments/" ++ uuidString attachmentId ++ "/" ++
    safeObjectName

/-- The attachment that `reserve` creates. -/
def reserved (identity : DevelopmentIdentity) (upload : Upload) (attachmentId : UUID)
    (now : Datetime) : Attachment where
  id := attachmentId
  tenantId := identity.tenantId
  ownerId := identity.userId
  conversationId := upload.conversationId
  clientMessageId := upload.clientMessageId
  originalName := upload.originalName
  contentType := upload.contentType
  sizeBytes := upload.sizeBytes
  sha256 := upload.sha256
  status := .pending
  createdAt := now
  expiresAt := now + upload.expirySeconds * 1000000
  objectKey := objectKey identity.tenantId attachmentId upload.safeObjectName

end reserve

section complete

def mediaType (contentType : String) : String :=
  String.ofList ((contentType.toLower.toList).takeWhile (· ≠ ';'))

/-- What an inspected object contradicts in the reservation. -/
def mismatch (attachment : Attachment) (observed : StoredObjectInfo) : Option String :=
  if observed.sizeBytes ≠ attachment.sizeBytes then some "对象大小与预留声明不一致"
  else if mediaType observed.contentType ≠ attachment.contentType then
    some "对象媒体类型与预留声明不一致"
  else if observed.sha256 ≠ attachment.sha256 then some "对象 SHA-256 与预留声明不一致"
  else if observed.metadataSha256 ≠ none ∧ observed.metadataSha256 ≠ some attachment.sha256 then
    some "对象摘要元数据与预留声明不一致"
  else if observed.detectedContentType ≠ attachment.contentType then
    some "对象真实类型与预留声明不一致"
  else none

end complete

def get (table : AttachmentTable) (attachmentId userId : UUID) :
    Except AttachmentError Attachment :=
  match getAttachmentForUser table attachmentId userId with
  | none => .error (.notFound ("附件不存在：" ++ uuidString attachmentId))
  | some item =>
    if item.status = .deleted then .error (.notFound ("附件不存在：" ++ uuidString attachmentId))
    else .ok item

/-- What a request returns. -/
inductive Answer
  | attachment (item : Attachment)
  | attachments (items : List Attachment)
  | count (n : ℕ)
  deriving DecidableEq

/-- Where a request stands: the call that it makes next, with the local values that it holds, or how
it has ended. -/
inductive Phase
  | completing (userId attachmentId : UUID)
  | checking (attachment : Attachment)
  | inspecting (attachment : Attachment)
  | readying (attachmentId : UUID)
  | rejecting (attachment : Attachment) (reason message : String)
  | removingRejected (objectKey message : String)
  | deleting (userId attachmentId : UUID)
  | removingDeleted (userId : UUID) (attachment : Attachment)
  | markingDeleted (userId attachmentId : UUID)
  | listing (before : Datetime) (limit : ℕ)
  | removingStale (count : ℕ) (attachment : Attachment) (rest : List Attachment)
  | markingStale (count : ℕ) (attachment : Attachment) (rest : List Attachment)
  | attaching (userId : UUID) (message : Message) (attachmentIds : List UUID)
  | returned (answer : Answer)
  | raised (error : AttachmentError)
  | crashed
  deriving DecidableEq

/-- The loop of `cleanup_expired` goes on with the attachments that are left. -/
def nextStale (count : ℕ) : List Attachment → Phase
  | [] => .returned (.count count)
  | attachment :: rest => .removingStale count attachment rest

def Phase.ofResult {α : Type} (answer : α → Answer) : Except AttachmentError α → Phase
  | .ok a => .returned (answer a)
  | .error e => .raised e

/-- The next call of a request, and what the request does with its result. -/
def advance (repository : AttachmentRepository) (now : Datetime) (s : AttachmentStore) :
    Phase → Phase × AttachmentStore
  | .completing userId attachmentId =>
    match get s.attachments attachmentId userId with
    | .error e => (.raised e, s)
    | .ok item => (.checking item, s)
  | .checking item =>
    if item.status ∈ [AttachmentStatus.ready, .attached] then
      (.returned (.attachment item), s)
    else if item.status ≠ .pending then (.raised (.validation "附件已不能完成上传"), s)
    else if item.expiresAt ≤ now then
      (.rejecting item "上传授权已过期" "上传授权已过期，请重新选择文件", s)
    else (.inspecting item, s)
  | .inspecting item =>
    match inspectObject s.objects item.objectKey item.sizeBytes with
    | .error (.notFound _) => (.raised (.validation "对象尚未上传完成"), s)
    | .error (.inspection _) => (.rejecting item "对象内容未通过安全检查" "对象内容未通过安全检查", s)
    | .ok observed =>
      match mismatch item observed with
      | some reason => (.rejecting item reason reason, s)
      | none => (.readying item.id, s)
  | .readying attachmentId =>
    let (result, attachments) := markAttachmentReady s.attachments attachmentId now
    (.ofResult .attachment result, { s with attachments })
  | .rejecting item reason message =>
    match rejectAttachment s.attachments item.id reason with
    | (.error e, attachments) => (.raised e, { s with attachments })
    | (.ok _, attachments) =>
      (.removingRejected item.objectKey message, { s with attachments })
  | .removingRejected objectKey message =>
    (.raised (.validation message), { s with objects := deleteObject s.objects objectKey })
  | .deleting userId attachmentId =>
    match get s.attachments attachmentId userId with
    | .error e => (.raised e, s)
    | .ok item =>
      if item.status = .attached then
        (.raised (.validation "已随消息发送的附件不能直接删除"), s)
      else (.removingDeleted userId item, s)
  | .removingDeleted userId item =>
    (.markingDeleted userId item.id, { s with objects := deleteObject s.objects item.objectKey })
  | .markingDeleted userId attachmentId =>
    let (result, attachments) := markAttachmentDeleted s.attachments attachmentId userId now
    (.ofResult .attachment result, { s with attachments })
  | .listing before limit =>
    let stale := listExpiredAttachments s.attachments before limit
    (nextStale stale.length stale, s)
  | .removingStale count item rest =>
    (.markingStale count item rest, { s with objects := deleteObject s.objects item.objectKey })
  | .markingStale count item rest =>
    match markAttachmentDeleted s.attachments item.id item.ownerId now with
    | (.error e, attachments) => (.raised e, { s with attachments })
    | (.ok _, attachments) => (nextStale count rest, { s with attachments })
  | .attaching userId message attachmentIds =>
    if attachmentIds = [] then (.returned (.attachments []), s)
    else
      let (result, attachments) :=
        attachToMessage repository message userId now s.attachments attachmentIds
      (.ofResult .attachments result, { s with attachments })
  | phase => (phase, s)

end AttachmentService

end CyberNetizen.Application
