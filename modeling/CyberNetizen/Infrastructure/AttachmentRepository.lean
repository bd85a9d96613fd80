import Mathlib.Data.List.Sort
import CyberNetizen.Domain.Channel
import CyberNetizen.Domain.Conversation
import CyberNetizen.Lib.Table

namespace CyberNetizen.Infrastructure

open Domain KeyedTable

abbrev AttachmentTable := Table Attachment.id

inductive AttachmentError
  | notFound (message : String)
  | validation (message : String)
  | conflict (message : String)
  deriving DecidableEq

/-- The two repositories. They differ in how they bind attachments to a message. -/
inductive AttachmentRepository
  | memory | sqlAlchemy
  deriving DecidableEq

namespace AttachmentRepository

section rows

def createAttachment (table : AttachmentTable) (attachment : Attachment) : AttachmentTable :=
  (table.insert? attachment).getD table

def getAttachmentForUser (table : AttachmentTable) (attachmentId userId : UUID) :
    Option Attachment :=
  (table.find? attachmentId).filter fun item ↦ item.ownerId = userId

/-- `_required` and `_locked`. -/
def required (table : AttachmentTable) (attachmentId : UUID) : Except AttachmentError Attachment :=
  match table.find? attachmentId with
  | none => .error (.conflict ("附件不存在：" ++ uuidString attachmentId))
  | some item => .ok item

def write (table : AttachmentTable) (attachmentId : UUID) (f : Update Attachment.id) :
    AttachmentTable :=
  table.updateWhere (fun item ↦ item.id = attachmentId) f

def readied (now : Datetime) : Update Attachment.id where
  toFun item := { item with status := .ready, uploadedAt := some now }
  key_eq _ := rfl

def rejected (reason : String) : Update Attachment.id where
  toFun item := { item with status := .rejected, validationError := some reason }
  key_eq _ := rfl

def deleted (now : Datetime) : Update Attachment.id where
  toFun item := { item with status := .deleted, deletedAt := some now }
  key_eq _ := rfl

/-- `mark_attachment_ready`: whatever the status of the row has become meanwhile. -/
def markAttachmentReady (table : AttachmentTable) (attachmentId : UUID) (now : Datetime) :
    Except AttachmentError Attachment × AttachmentTable :=
  match required table attachmentId with
  | .error e => (.error e, table)
  | .ok item => (.ok (readied now item), write table attachmentId (readied now))

def rejectAttachment (table : AttachmentTable) (attachmentId : UUID) (reason : String) :
    Except AttachmentError Attachment × AttachmentTable :=
  match required table attachmentId with
  | .error e => (.error e, table)
  | .ok item => (.ok (rejected reason item), write table attachmentId (rejected reason))

def markAttachmentDeleted (table : AttachmentTable) (attachmentId userId : UUID) (now : Datetime) :
    Except AttachmentError Attachment × AttachmentTable :=
  match required table attachmentId with
  | .error e => (.error e, table)
  | .ok item =>
    if item.ownerId ≠ userId then (.error (.conflict "当前用户无权操作该附件"), table)
    else if item.status = .attached then (.error (.conflict "已随消息发送的附件不能删除"), table)
    else (.ok (deleted now item), write table attachmentId (deleted now))

end rows

section expiry

def ExpiresFirst (a b : Attachment) : Prop :=
  a.expiresAt < b.expiresAt ∨ a.expiresAt = b.expiresAt ∧ a.id ≤ b.id

instance (a b : Attachment) : Decidable (ExpiresFirst a b) :=
  inferInstanceAs (Decidable (_ ∨ _))

def isExpired (before : Datetime) (item : Attachment) : Bool :=
  item.expiresAt < before && item.status ∈ [AttachmentStatus.pending, .rejected]

def listExpiredAttachments (table : AttachmentTable) (before : Datetime) (limit : ℕ) :
    List Attachment :=
  ((table.rows.insertionSort ExpiresFirst).filter (isExpired before)).take limit

end expiry

section binding

variable (repository : AttachmentRepository) (message : Message) (userId : UUID)

/-- The checks before an attachment is bound to a message. -/
def checkBinding (item : Attachment) : Except AttachmentError Unit :=
  match repository with
  | .memory =>
    if item.ownerId ≠ userId ∨ item.conversationId ≠ message.conversationId then
      .error (.conflict "附件不属于当前用户或会话")
    else if some item.clientMessageId ≠ message.clientMessageId then
      .error (.conflict "附件不属于当前消息草稿")
    else .ok ()
  | .sqlAlchemy =>
    if item.ownerId ≠ userId ∨ item.conversationId ≠ message.conversationId ∨
        some item.clientMessageId ≠ message.clientMessageId then
      .error (.conflict "附件不属于当前用户、会话或消息草稿")
    else .ok ()

def isBound (item : Attachment) : Bool :=
  item.status = .attached && item.messageId = some message.id

def bound (now : Datetime) : Update Attachment.id where
  toFun item := { item with
    status := .attached
    messageId := some message.id
    attachedAt := some now }
  key_eq _ := rfl

/-- One attachment of the loop. -/
def bindOne (now : Datetime) (table : AttachmentTable) (attachmentId : UUID) :
    Except AttachmentError (Attachment × AttachmentTable) :=
  match required table attachmentId with
  | .error e => .error e
  | .ok item =>
    match checkBinding repository message userId item with
    | .error e => .error e
    | .ok () =>
      if isBound message item then .ok (item, table)
      else if item.status ≠ .ready then .error (.conflict "附件尚未就绪")
      else .ok (bound message now item, write table attachmentId (bound message now))

/-- The loop over the given attachments, with the table as it is when the loop ends. -/
def bindEach (now : Datetime) (table : AttachmentTable) :
    List UUID → Except AttachmentError (List Attachment) × AttachmentTable
  | [] => (.ok [], table)
  | attachmentId :: attachmentIds =>
    match bindOne repository message userId now table attachmentId with
    | .error e => (.error e, table)
    | .ok (item, table) =>
      let (result, table) := bindEach now table attachmentIds
      (result.map (item :: ·), table)

/-- `attach_to_message`: a transaction that fails is rolled back, a dictionary keeps what the loop
has written. -/
def attachToMessage (now : Datetime) (table : AttachmentTable) (attachmentIds : List UUID) :
    Except AttachmentError (List Attachment) × AttachmentTable :=
  match bindEach repository message userId now table attachmentIds with
  | (.ok result, written) => (.ok result, written)
  | (.error e, written) =>
    match repository with
    | .memory => (.error e, written)
    | .sqlAlchemy => (.error e, table)

end binding

end AttachmentRepository

end CyberNetizen.Infrastructure
