import CyberNetizen.Domain.Task

namespace CyberNetizen.Domain

inductive ConfigScope
  | system | tenant | agent | channel | user
  deriving DecidableEq

def ConfigScope.value : ConfigScope → String
  | .system => "system"
  | .tenant => "tenant"
  | .agent => "agent"
  | .channel => "channel"
  | .user => "user"

inductive ConfigVersionStatus
  | draft | published | superseded
  deriving DecidableEq

/-- The value of a setting in one scope. -/
structure ConfigEntry where
  key : String
  scopeType : ConfigScope
  value : JsonValue
  scopeId : Option UUID

abbrev ConfigIdentity := String × ConfigScope × Option UUID

def ConfigEntry.identity (entry : ConfigEntry) : ConfigIdentity :=
  (entry.key, entry.scopeType, entry.scopeId)

structure ConfigVersion where
  id : UUID
  version : ℕ
  status : ConfigVersionStatus
  note : Option String
  createdAt : Datetime
  publishedAt : Option Datetime
  values : List ConfigEntry

inductive ConfigurationError
  | notFound (message : String)
  | conflict (message : String)
  | validation (message : String)
  /-- A constraint of the database. -/
  | integrity
  deriving DecidableEq

end CyberNetizen.Domain
