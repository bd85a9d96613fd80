import CyberNetizen.Lib.Table
import CyberNetizen.Domain.Channel

namespace CyberNetizen.Infrastructure

open Domain KeyedTable

/-- `uq_channel_diagnostic_events_idempotency`. -/
def eventKey (event : ChannelDiagnosticEvent) : UUID × ChannelEventDirection × String :=
  (event.channelId, event.direction, event.idempotencyKey)

structure ChannelRateLimitWindow where
  channelId : UUID
  windowStartedAt : ℕ
  usedCount : ℕ

def windowKey (window : ChannelRateLimitWindow) : UUID × ℕ :=
  (window.channelId, window.windowStartedAt)

structure ChannelStore where
  instances : Table ChannelInstance.id
  events : Table eventKey
  rateWindows : Table windowKey

namespace ChannelStore

def empty : ChannelStore := ⟨.empty, .empty, .empty⟩

end ChannelStore

namespace ChannelRepository

inductive Backend
  | sqlAlchemy | inMemory
  deriving DecidableEq

def getInstance (tenantId agentId channelId : UUID) (s : ChannelStore) : Option ChannelInstance :=
  (s.instances.find? channelId).filter fun row ↦ row.tenantId = tenantId && row.agentId = agentId

/-- The name is unique in its agent; a name that is taken raises and is not modelled. -/
def createInstance (row : ChannelInstance) (s : ChannelStore) : ChannelStore :=
  match s.instances.insert? row with
  | none => s
  | some instances => { s with instances }

def updateInstance (backend : Backend) (row : ChannelInstance) (s : ChannelStore) : ChannelStore :=
  match getInstance row.tenantId row.agentId row.id s with
  | none => s
  | some existing =>
    let updated := match backend with
      | .sqlAlchemy =>
        { existing with status := row.status, rateLimitPerMinute := row.rateLimitPerMinute }
      | .inMemory => row
    { s with instances := s.instances.put updated }

def getEventByIdempotency (tenantId channelId : UUID) (direction : ChannelEventDirection)
    (idempotencyKey : String) (s : ChannelStore) : Option ChannelDiagnosticEvent :=
  (s.events.find? (channelId, direction, idempotencyKey)).filter fun row ↦ row.tenantId = tenantId

/-- The row after an event is stored in place of one with the same key. The database writes the
columns that differ; in memory the event takes the id of the row. -/
def replaced (backend : Backend) (existing event : ChannelDiagnosticEvent) :
    ChannelDiagnosticEvent :=
  match backend with
  | .sqlAlchemy =>
    { existing with
      eventType := event.eventType
      status := event.status
      externalMessageId := event.externalMessageId
      payloadSummary := event.payloadSummary
      errorCode := event.errorCode
      degradations := event.degradations
      occurredAt := event.occurredAt }
  | .inMemory => { event with id := existing.id }

/-- The row after a failed delivery is reserved again. -/
def reoccupied (backend : Backend) (existing event : ChannelDiagnosticEvent) :
    ChannelDiagnosticEvent :=
  match backend with
  | .sqlAlchemy => { replaced .sqlAlchemy existing event with
      externalMessageId := none
      errorCode := none }
  | .inMemory => replaced .inMemory existing event

/-- Whether `record_event` writes over the row. -/
def overwrites (existing event : ChannelEventStatus) : Bool :=
  (existing = .accepted && event ≠ .accepted) || (!existing.isSuccess && event.isSuccess)

/-- `raced` says that the database inserted the row after the select had missed it; the unique key
then makes the insert fail and the stored row is returned. -/
def recordEvent (backend : Backend) (raced : Bool) (event : ChannelDiagnosticEvent)
    (s : ChannelStore) : ChannelDiagnosticEvent × ChannelStore :=
  match s.events.find? (eventKey event) with
  | none => (event, { s with events := s.events.put event })
  | some existing =>
    if backend = .sqlAlchemy ∧ raced then (existing, s)
    else if overwrites existing.status event.status then
      ({ event with id := existing.id },
        { s with events := s.events.put (replaced backend existing event) })
    else (existing, s)

def reserveDelivery (backend : Backend) (raced : Bool) (event : ChannelDiagnosticEvent)
    (s : ChannelStore) : Bool × ChannelStore :=
  match s.events.find? (eventKey event) with
  | none => (true, { s with events := s.events.put event })
  | some existing =>
    if (backend = .sqlAlchemy ∧ raced) ∨ existing.status.isSuccess ∨ existing.status = .accepted then
      (false, s)
    else (true, { s with events := s.events.put (reoccupied backend existing event) })

def rateWindow (now : Datetime) : ℕ := now / 60000000

/-- A first use in the window is stored by the database whatever the limit, in memory only under
it. -/
def reserveRateLimit (backend : Backend) (channelId : UUID) (limit : ℕ) (now : Datetime)
    (s : ChannelStore) : Bool × ChannelStore :=
  let used := fun usedCount ↦
    { s with rateWindows := s.rateWindows.put ⟨channelId, rateWindow now, usedCount⟩ }
  match s.rateWindows.find? (channelId, rateWindow now) with
  | none => if backend = .inMemory ∧ limit = 0 then (false, s) else (true, used 1)
  | some window =>
    if limit ≤ window.usedCount then (false, s) else (true, used (window.usedCount + 1))

end ChannelRepository

end CyberNetizen.Infrastructure
