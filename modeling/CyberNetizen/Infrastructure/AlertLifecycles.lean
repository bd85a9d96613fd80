import Mathlib.Data.List.Nodup
import Mathlib.Data.List.Sort
import CyberNetizen.Domain.Alert

namespace CyberNetizen.Infrastructure

open Domain

variable {α σ κ : Type}

def lifecycleIndex (sourceKey : σ → κ) (r : AlertLifecycle σ) : UUID × UUID × κ :=
  (r.tenantId, r.agentId, sourceKey r.source)

def isActive (r : AlertLifecycle σ) : Bool := r.status = .active

/-- `ck_…_occurrences`, `ck_…_escalation_level` and `ck_…_resolution`. -/
structure LifecycleChecks (r : AlertLifecycle σ) : Prop where
  occurrences : 1 ≤ r.occurrences
  level : r.escalationLevel ≤ 3
  resolution : r.status = .active ∧ r.resolvedAt = none ∧ r.recoveryDurationSeconds = none ∨
    r.status = .resolved ∧ r.resolvedAt ≠ none ∧ r.recoveryDurationSeconds ≠ none

instance (r : AlertLifecycle σ) : Decidable (LifecycleChecks r) :=
  decidable_of_iff (1 ≤ r.occurrences ∧ r.escalationLevel ≤ 3 ∧
      (r.status = .active ∧ r.resolvedAt = none ∧ r.recoveryDurationSeconds = none ∨
        r.status = .resolved ∧ r.resolvedAt ≠ none ∧ r.recoveryDurationSeconds ≠ none))
    ⟨fun h ↦ ⟨h.1, h.2.1, h.2.2⟩, fun h ↦ ⟨h.occurrences, h.level, h.resolution⟩⟩

/-- A lifecycle table with its primary key, its partial unique index and its checks. -/
structure Lifecycles (sourceKey : σ → κ) where
  rows : List (AlertLifecycle σ)
  ids : (rows.map AlertLifecycle.id).Nodup
  activeKeys : ((rows.filter isActive).map (lifecycleIndex sourceKey)).Nodup
  checks : ∀ r ∈ rows, LifecycleChecks r

def Lifecycles.empty (sourceKey : σ → κ) : Lifecycles sourceKey :=
  ⟨[], List.nodup_nil, List.nodup_nil, fun _ h ↦ absurd h List.not_mem_nil⟩

inductive LifecycleError
  | agentNotFound (message : String)
  /-- A constraint of the database. -/
  | integrity
  deriving DecidableEq

/-- The flush of changed and new rows. -/
def Lifecycles.flush [DecidableEq κ] (sourceKey : σ → κ) (rows : List (AlertLifecycle σ)) :
    Except LifecycleError (Lifecycles sourceKey) :=
  if h : (rows.map AlertLifecycle.id).Nodup ∧
      ((rows.filter isActive).map (lifecycleIndex sourceKey)).Nodup ∧
      ∀ r ∈ rows, LifecycleChecks r then
    .ok ⟨rows, h.1, h.2.1, h.2.2⟩
  else .error .integrity

/-- How a repository brings its lifecycles into line with the alerts of an observation: which alert a
lifecycle is of, and the counts and times of one that begins or goes on. -/
structure Reconciler (α σ κ : Type) where
  alertKey : α → κ
  sourceKey : σ → κ
  source : α → σ
  source_key : ∀ a, sourceKey (source a) = alertKey a
  severity : α → AlertSeverity
  occurrences : α → ℕ
  occurrencesAgain : α → ℕ → ℕ
  occurrences_le : ∀ a n, n ≤ occurrencesAgain a n
  firstOccurredAt : Datetime → α → Datetime
  firstAgain : Datetime → α → Datetime → Datetime
  lastOccurredAt : Datetime → α → Datetime
  lastAgain : Datetime → α → Datetime → Datetime

def isCurrent (tenantId agentId : UUID) (r : AlertLifecycle σ) : Bool :=
  r.tenantId = tenantId && r.agentId = agentId && isActive r

/-- The lifecycle of an alert that is no longer observed. -/
def resolveLifecycle (observedAt : Datetime) (r : AlertLifecycle σ) : AlertLifecycle σ :=
  { r with
    status := .resolved
    lastEvaluatedAt := observedAt
    resolvedAt := some observedAt
    -- `max(0, int((observed_at - first_occurred_at).total_seconds()))`
    recoveryDurationSeconds := some ((observedAt - r.firstOccurredAt) / 1000000)
    updatedAt := observedAt }

structure Reconciliation (σ : Type) where
  activeLifecycles : List (AlertLifecycle σ)
  activatedLifecycles : List (AlertLifecycle σ)
  recoveredLifecycles : List (AlertLifecycle σ)

namespace Reconciler

variable (R : Reconciler α σ κ) (tenantId agentId : UUID) (alerts : List α) (observedAt : Datetime)

def openLifecycle (id : UUID) (alert : α) : AlertLifecycle σ where
  id
  tenantId
  agentId
  source := R.source alert
  status := .active
  severity := R.severity alert
  occurrences := R.occurrences alert
  firstOccurredAt := R.firstOccurredAt observedAt alert
  lastOccurredAt := R.lastOccurredAt observedAt alert
  lastEvaluatedAt := observedAt
  escalatedAt := none
  escalationLevel := 0
  lastEscalatedAt := none
  resolvedAt := none
  recoveryDurationSeconds := none
  createdAt := observedAt
  updatedAt := observedAt

def renewLifecycle (alert : α) (r : AlertLifecycle σ) : AlertLifecycle σ :=
  { r with
    severity := R.severity alert
    occurrences := R.occurrencesAgain alert r.occurrences
    firstOccurredAt := R.firstAgain observedAt alert r.firstOccurredAt
    lastOccurredAt := R.lastAgain observedAt alert r.lastOccurredAt
    lastEvaluatedAt := observedAt
    updatedAt := observedAt }

variable [DecidableEq κ]

def matching (r : AlertLifecycle σ) : List α :=
  alerts.filter fun alert ↦ R.alertKey alert = R.sourceKey r.source

def afterwards (r : AlertLifecycle σ) : AlertLifecycle σ :=
  if isCurrent tenantId agentId r then
    if R.matching alerts r = [] then resolveLifecycle observedAt r
    else (R.matching alerts r).foldl (fun r alert ↦ R.renewLifecycle observedAt alert r) r
  else r

def unseen (rows : List (AlertLifecycle σ)) : List α :=
  alerts.filter fun alert ↦
    !rows.any fun r ↦ isCurrent tenantId agentId r && R.sourceKey r.source = R.alertKey alert

/-- The lifecycles that begin, each with the identifier that `uuid4` draws for it. -/
def activated (draw : ℕ → UUID) (rows : List (AlertLifecycle σ)) : List (AlertLifecycle σ) :=
  (R.unseen tenantId agentId alerts rows).zipIdx.map fun p ↦
    R.openLifecycle tenantId agentId observedAt (draw p.2) p.1

def recovered (rows : List (AlertLifecycle σ)) : List (AlertLifecycle σ) :=
  (rows.filter fun r ↦ isCurrent tenantId agentId r && (R.matching alerts r).isEmpty).map
    (resolveLifecycle observedAt)

/-- The one who reconciles holds the lock of the Agent and the locks of its active lifecycles. -/
def reconcile (draw : ℕ → UUID) (t : Lifecycles R.sourceKey) :
    Except LifecycleError (Reconciliation σ × Lifecycles R.sourceKey) :=
  let activated := R.activated tenantId agentId alerts observedAt draw t.rows
  match Lifecycles.flush R.sourceKey
      (t.rows.map (R.afterwards tenantId agentId alerts observedAt) ++ activated) with
  | .error error => .error error
  | .ok t' =>
    .ok (⟨(t'.rows.filter (isCurrent tenantId agentId)).insertionSort
          fun r s ↦ s.firstOccurredAt ≤ r.firstOccurredAt,
        activated, R.recovered tenantId agentId alerts observedAt t.rows⟩, t')

end Reconciler

def escalateLifecycle (escalationLevel : ℕ) (escalatedAt : Datetime) (r : AlertLifecycle σ) :
    AlertLifecycle σ :=
  { r with
    escalatedAt := some (r.escalatedAt.getD escalatedAt)
    escalationLevel
    lastEscalatedAt := some escalatedAt
    updatedAt := escalatedAt }

/-- Mark the selected lifecycles, under their row locks. -/
def markEscalated [DecidableEq κ] {sourceKey : σ → κ} (select : AlertLifecycle σ → Bool)
    (escalationLevel : ℕ) (escalatedAt : Datetime) (t : Lifecycles sourceKey) :
    Except LifecycleError (List (AlertLifecycle σ) × Lifecycles sourceKey) :=
  match Lifecycles.flush sourceKey (t.rows.map fun r ↦
      if select r then escalateLifecycle escalationLevel escalatedAt r else r) with
  | .error error => .error error
  | .ok t' => .ok ((t.rows.filter select).map (escalateLifecycle escalationLevel escalatedAt), t')

namespace SqlAlchemyChannelRepository

def reconciler : Reconciler ChannelAlert ChannelAlertSource String where
  alertKey := ChannelAlert.alertKey
  sourceKey := ChannelAlertSource.alertKey
  source := fun alert ↦ ⟨alert.channelId, alert.alertKey, alert.code, alert.errorCode⟩
  source_key := fun _ ↦ rfl
  severity := ChannelAlert.severity
  occurrences := ChannelAlert.occurrences
  occurrencesAgain := fun alert occurrences ↦ max occurrences alert.occurrences
  occurrences_le := fun _ _ ↦ Nat.le_max_left _ _
  firstOccurredAt := fun observedAt alert ↦ min alert.firstOccurredAt observedAt
  firstAgain := fun observedAt alert first ↦ min first (min alert.firstOccurredAt observedAt)
  lastOccurredAt := fun _ alert ↦ alert.lastOccurredAt
  lastAgain := fun _ alert last ↦ max last alert.lastOccurredAt

abbrev Table := Lifecycles ChannelAlertSource.alertKey

/-- `agents` are the pairs of a tenant and one of its Agents. -/
def reconcileAlertLifecycles (agents : List (UUID × UUID)) (tenantId agentId : UUID)
    (alerts : List ChannelAlert) (observedAt : Datetime) (draw : ℕ → UUID) (t : Table) :
    Except LifecycleError (List (AlertLifecycle ChannelAlertSource) × Table) :=
  if (tenantId, agentId) ∉ agents then
    .error (.agentNotFound ("Agent 不存在：" ++ uuidString agentId))
  else
    match reconciler.reconcile tenantId agentId alerts observedAt draw t with
    | .error error => .error error
    | .ok (_, t') =>
      .ok ((t'.rows.filter (isCurrent tenantId agentId)).insertionSort fun r s ↦
        s.firstOccurredAt < r.firstOccurredAt ∨
          s.firstOccurredAt = r.firstOccurredAt ∧ s.id ≤ r.id, t')

/-- Only from the level below. -/
def markAlertLifecyclesEscalated (tenantId agentId : UUID) (lifecycleIds : List UUID)
    (escalationLevel : ℕ) (escalatedAt : Datetime) (t : Table) :
    Except LifecycleError (List (AlertLifecycle ChannelAlertSource) × Table) :=
  if lifecycleIds = [] then .ok ([], t)
  else
    markEscalated (fun r ↦ isCurrent tenantId agentId r && lifecycleIds.contains r.id &&
      r.escalationLevel + 1 = escalationLevel) escalationLevel escalatedAt t

end SqlAlchemyChannelRepository

namespace SqlAlchemyObservabilityRepository

def reconciler : Reconciler ActiveAlert ObservabilityAlertSource (String × String) where
  alertKey := fun alert ↦ (alert.sourceType, alert.alertKey)
  sourceKey := fun source ↦ (source.sourceType, source.sourceKey)
  source := fun alert ↦ ⟨alert.sourceType, alert.alertKey, alert.code⟩
  source_key := fun _ ↦ rfl
  severity := ActiveAlert.severity
  occurrences := fun _ ↦ 1
  occurrencesAgain := fun _ occurrences ↦ occurrences + 1
  occurrences_le := fun _ _ ↦ Nat.le_succ _
  firstOccurredAt := fun observedAt alert ↦ alert.firstOccurredAt.getD observedAt
  firstAgain := fun _ _ first ↦ first
  lastOccurredAt := fun observedAt alert ↦ alert.lastOccurredAt.getD observedAt
  lastAgain := fun observedAt alert _ ↦ alert.lastOccurredAt.getD observedAt

abbrev Table := Lifecycles reconciler.sourceKey

def reconcileObservabilityAlertLifecycles (tenantId agentId : UUID) (alerts : List ActiveAlert)
    (observedAt : Datetime) (draw : ℕ → UUID) (t : Table) :
    Except LifecycleError (Reconciliation ObservabilityAlertSource × Table) :=
  reconciler.reconcile tenantId agentId alerts observedAt draw t

def markObservabilityAlertLifecyclesEscalated (tenantId agentId : UUID) (lifecycleIds : List UUID)
    (escalationLevel : ℕ) (escalatedAt : Datetime) (t : Table) :
    Except LifecycleError (List (AlertLifecycle ObservabilityAlertSource) × Table) :=
  markEscalated (fun r ↦ isCurrent tenantId agentId r && lifecycleIds.contains r.id &&
    decide (r.escalationLevel < escalationLevel)) escalationLevel escalatedAt t

end SqlAlchemyObservabilityRepository

end CyberNetizen.Infrastructure
