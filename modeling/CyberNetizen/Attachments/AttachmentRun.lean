import CyberNetizen.Application.AttachmentService
import CyberNetizen.Lib.Machine

namespace CyberNetizen.Attachments

open Domain Infrastructure Infrastructure.AttachmentRepository Application
open Application.AttachmentService KeyedTable

/-- The store, the clock, and every request that has ever begun. -/
structure World where
  store : AttachmentStore
  now : Datetime
  requests : List Phase

def World.start : World := ⟨.empty, 0, []⟩

/-- What happens next: time passes, an attachment is reserved, its content is uploaded, a request
begins, a request makes its next call, or the process of a request ends. -/
inductive Action
  | tick (elapsed : ℕ)
  | reserve (identity : DevelopmentIdentity) (upload : Upload) (attachmentId : UUID)
  | upload (attachmentId : UUID)
  | complete (userId attachmentId : UUID)
  | delete (userId attachmentId : UUID)
  | cleanupExpired (limit : ℕ)
  | attachToMessage (userId : UUID) (message : Message) (attachmentIds : List UUID)
  | advance (i : ℕ)
  | crash (i : ℕ)

def uploaded (attachment : Attachment) (now : Datetime) : StoredObject where
  objectKey := attachment.objectKey
  sizeBytes := attachment.sizeBytes
  lastModified := now
  contentType := attachment.contentType
  sha256 := attachment.sha256
  metadataSha256 := some attachment.sha256
  detectedContentType := some attachment.contentType

def begin (w : World) (phase : Phase) : World := { w with requests := w.requests ++ [phase] }

def isOver : Phase → Bool
  | .returned _ | .raised _ | .crashed => true
  | _ => false

def step (repository : AttachmentRepository) (w : World) : Action → Unit × World
  | .tick elapsed => ((), { w with now := w.now + elapsed })
  | .reserve identity upload attachmentId =>
    ((), { w with store := { w.store with
      attachments := createAttachment w.store.attachments
        (reserved identity upload attachmentId w.now) } })
  | .upload attachmentId =>
    match w.store.attachments.find? attachmentId with
    | none => ((), w)
    | some attachment =>
      ((), { w with store := { w.store with
        objects := w.store.objects.put (uploaded attachment w.now) } })
  | .complete userId attachmentId => ((), begin w (.completing userId attachmentId))
  | .delete userId attachmentId => ((), begin w (.deleting userId attachmentId))
  | .cleanupExpired limit => ((), begin w (.listing w.now limit))
  | .attachToMessage userId message attachmentIds =>
    ((), begin w (.attaching userId message attachmentIds))
  | .advance i =>
    match w.requests[i]? with
    | none => ((), w)
    | some phase =>
      let (phase, store) := AttachmentService.advance repository w.now w.store phase
      ((), { w with
        store
        requests := w.requests.set i phase })
  | .crash i =>
    match w.requests[i]? with
    | none => ((), w)
    | some phase =>
      ((), { w with requests := w.requests.set i (if isOver phase then phase else .crashed) })

def callOf (w : World) : Action → Option Phase
  | .advance i => w.requests[i]?
  | _ => none

section agreement

def IsOpen (row : Attachment) : Prop := row.status ∈ [AttachmentStatus.ready, .attached]

def IsGone (row : Attachment) : Prop := row.status ∈ [AttachmentStatus.deleted, .rejected]

instance (row : Attachment) : Decidable (IsOpen row) := inferInstanceAs (Decidable (_ ∈ _))

instance (row : Attachment) : Decidable (IsGone row) := inferInstanceAs (Decidable (_ ∈ _))

def IsStored (objects : ObjectTable) (objectKey : String) : Prop :=
  ∃ item ∈ objects.rows, item.objectKey = objectKey

instance (objects : ObjectTable) (objectKey : String) : Decidable (IsStored objects objectKey) :=
  inferInstanceAs (Decidable (∃ item ∈ objects.rows, _))

def HasObjects (s : AttachmentStore) : Prop :=
  ∀ row ∈ s.attachments.rows, IsOpen row → IsStored s.objects row.objectKey

instance (s : AttachmentStore) : Decidable (HasObjects s) :=
  inferInstanceAs (Decidable (∀ row ∈ s.attachments.rows, IsOpen row → IsStored _ _))

def Becomes (good : Attachment → Attachment → Prop) (before after : AttachmentTable) : Prop :=
  ∀ row ∈ before.rows, ∀ row' ∈ after.rows, row'.id = row.id → good row row'

def IsBoundFor (repository : AttachmentRepository) (message : Message) (userId : UUID)
    (row : Attachment) : Prop :=
  checkBinding repository message userId row = .ok () ∧ isBound message row = true

instance (repository : AttachmentRepository) (message : Message) (userId : UUID)
    (row : Attachment) : Decidable (IsBoundFor repository message userId row) :=
  inferInstanceAs (Decidable (_ ∧ _))

def BindsAllOrNone (repository : AttachmentRepository) (before after : AttachmentTable) :
    Phase → Prop
  | .attaching userId message attachmentIds => after.rows = before.rows ∨
      ∀ attachmentId ∈ attachmentIds, ∃ row ∈ after.rows,
        row.id = attachmentId ∧ IsBoundFor repository message userId row
  | _ => True

def staysGone (row row' : Attachment) : Prop := IsGone row → ¬IsOpen row'

def staysWithMessage (row row' : Attachment) : Prop :=
  row.messageId ≠ none → row'.messageId = row.messageId

def Keeps (repository : AttachmentRepository) (w : World) (a : Action) : Prop :=
  let after := (step repository w a).2.store
  HasObjects after ∧ Becomes staysGone w.store.attachments after.attachments ∧
    Becomes staysWithMessage w.store.attachments after.attachments ∧
    ∀ phase, callOf w a = some phase →
      BindsAllOrNone repository w.store.attachments after.attachments phase

end agreement

section condition

def IsUnused (s : AttachmentStore) (objectKey : String) : Prop :=
  ∀ row ∈ s.attachments.rows, IsOpen row → row.objectKey ≠ objectKey

def MayBeReady (s : AttachmentStore) (attachmentId : UUID) : Prop :=
  ∀ row ∈ s.attachments.rows, row.id = attachmentId →
    ¬IsGone row ∧ IsStored s.objects row.objectKey

def canBind (repository : AttachmentRepository) (message : Message) (userId : UUID)
    (table : AttachmentTable) (attachmentId : UUID) : Bool :=
  (table.find? attachmentId).any fun row ↦
    checkBinding repository message userId row = .ok () ∧
      (isBound message row = true ∨ row.status = .ready)

/-- All given attachments can be bound and none of them was bound to another message, or else the
transaction is rolled back or has nothing to write. -/
def MayAttach (repository : AttachmentRepository) (message : Message) (userId : UUID)
    (attachmentIds : List UUID) (table : AttachmentTable) : Prop :=
  if attachmentIds.all (canBind repository message userId table) then
    ∀ row ∈ table.rows, row.id ∈ attachmentIds →
      row.messageId ≠ none → row.messageId = some message.id
  else repository = .sqlAlchemy ∨ ∀ row ∈ table.rows,
    row.id ∈ attachmentIds.takeWhile (canBind repository message userId table) →
      isBound message row = true

/-- The call removes no object that users need, readies no attachment that is gone, and can bind all
attachments that it is given. -/
def MayCall (repository : AttachmentRepository) (s : AttachmentStore) : Phase → Prop
  | .removingRejected objectKey _ => IsUnused s objectKey
  | .removingDeleted _ item => IsUnused s item.objectKey
  | .removingStale _ item _ => IsUnused s item.objectKey
  | .readying attachmentId => MayBeReady s attachmentId
  | .attaching userId message attachmentIds =>
    MayAttach repository message userId attachmentIds s.attachments
  | _ => True

def Meets (repository : AttachmentRepository) (w : World) (a : Action) : Prop :=
  ∀ phase, callOf w a = some phase → MayCall repository w.store phase

end condition

end CyberNetizen.Attachments
