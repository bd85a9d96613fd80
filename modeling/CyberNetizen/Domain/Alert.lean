import CyberNetizen.Domain.Channel

namespace CyberNetizen.Domain

inductive AlertSeverity
  | warning | critical
  deriving DecidableEq

inductive AlertDispositionStatus
  | acknowledged | suppressed
  deriving DecidableEq

/-- `value or default` on strings. -/
def stringOr (value : Option String) (default : String) : String :=
  match value with
  | none => default
  | some text => if text = "" then default else text

structure ChannelAlert where
  channelId : UUID
  code : String
  errorCode : Option String
  severity : AlertSeverity
  occurrences : ℕ
  firstOccurredAt : Datetime
  lastOccurredAt : Datetime
  dispositionStatus : Option AlertDispositionStatus := none

def ChannelAlert.alertKey (alert : ChannelAlert) : String :=
  uuidString alert.channelId ++ ":" ++ alert.code ++ ":" ++ stringOr alert.errorCode "-"

structure ActiveAlert where
  code : String
  severity : AlertSeverity
  sourceType : String
  sourceKey : Option String
  firstOccurredAt : Option Datetime
  lastOccurredAt : Option Datetime

def ActiveAlert.alertKey (alert : ActiveAlert) : String := stringOr alert.sourceKey alert.code

inductive AlertLifecycleStatus
  | active | resolved
  deriving DecidableEq

structure ChannelAlertSource where
  channelId : UUID
  alertKey : String
  code : String
  errorCode : Option String
  deriving DecidableEq

/-- The columns that say which general alert a lifecycle is of. -/
structure ObservabilityAlertSource where
  sourceType : String
  sourceKey : String
  code : String
  deriving DecidableEq

/-- What is stored of one incident. -/
structure AlertLifecycle (σ : Type) where
  id : UUID
  tenantId : UUID
  agentId : UUID
  source : σ
  status : AlertLifecycleStatus
  severity : AlertSeverity
  occurrences : ℕ
  firstOccurredAt : Datetime
  lastOccurredAt : Datetime
  lastEvaluatedAt : Datetime
  escalatedAt : Option Datetime
  escalationLevel : ℕ
  lastEscalatedAt : Option Datetime
  resolvedAt : Option Datetime
  recoveryDurationSeconds : Option ℕ
  createdAt : Datetime
  updatedAt : Datetime
  deriving DecidableEq

end CyberNetizen.Domain
