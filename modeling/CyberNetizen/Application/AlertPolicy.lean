import CyberNetizen.Domain.Alert

namespace CyberNetizen.Application

open Domain

structure LocalTime where
  weekday : ℕ
  hour : ℕ

/-- The rules for escalation and for who is on call. Weekdays are counted from Monday. -/
structure AlertEscalationPolicy where
  enabled : Bool
  thresholds : ℕ × ℕ × ℕ
  adapters : String × String × String
  warningMaximumLevel : ℕ
  timezone : String
  weekdays : List ℕ
  startHour : ℕ
  endHour : ℕ
  outOfHoursAdapter : String

structure AlertEscalationPolicyDecision where
  currentLevel : ℕ
  maximumLevel : ℕ
  matchedLevel : ℕ
  targetLevel : Option ℕ
  adapter : Option String
  onCall : Bool
  reasonCode : String

inductive AlertPolicyError
  | invalid (message : String)
  deriving DecidableEq

namespace AlertEscalationPolicy

/-- Component `level - 1` of a triple. -/
def ofLevel {α : Type} (triple : α × α × α) : ℕ → α
  | 1 => triple.1
  | 2 => triple.2.1
  | _ => triple.2.2

def isOnCall (policy : AlertEscalationPolicy) (time : LocalTime) : Bool :=
  if policy.startHour = policy.endHour then policy.weekdays.contains time.weekday
  else if policy.startHour < policy.endHour then
    policy.weekdays.contains time.weekday && decide (policy.startHour ≤ time.hour) &&
      decide (time.hour < policy.endHour)
  else if policy.startHour ≤ time.hour then policy.weekdays.contains time.weekday
  else decide (time.hour < policy.endHour) && policy.weekdays.contains ((time.weekday + 6) % 7)

def maximumLevel (policy : AlertEscalationPolicy) (severity : AlertSeverity) : ℕ :=
  match severity with
  | .warning => policy.warningMaximumLevel
  | .critical => 3

def matchedLevel (policy : AlertEscalationPolicy) (maximum durationMinutes : ℕ) : ℕ :=
  (([1, 2, 3].filter fun level ↦
    level ≤ maximum ∧ ofLevel policy.thresholds level ≤ durationMinutes).max?).getD 0

/-- At most one level on. `astimezone` is what the time zone database gives. -/
def evaluate (astimezone : String → Datetime → LocalTime) (policy : AlertEscalationPolicy)
    (severity : AlertSeverity) (durationMinutes currentLevel : ℕ) (evaluatedAt : Datetime) :
    Except AlertPolicyError AlertEscalationPolicyDecision :=
  if 3 < currentLevel then .error (.invalid "当前升级等级必须位于 0 到 3 之间")
  else
    let onCall := policy.isOnCall (astimezone policy.timezone evaluatedAt)
    let maximum := policy.maximumLevel severity
    let decided (targetLevel : Option ℕ) (adapter : Option String) (reasonCode : String) :
        AlertEscalationPolicyDecision :=
      { currentLevel, maximumLevel := maximum,
        matchedLevel := policy.matchedLevel maximum durationMinutes, targetLevel, adapter, onCall,
        reasonCode }
    if !policy.enabled then .ok (decided none none "disabled")
    else if maximum ≤ currentLevel then .ok (decided none none "maximum_level_reached")
    else if durationMinutes < ofLevel policy.thresholds (currentLevel + 1) then
      .ok (decided none none "waiting_for_threshold")
    else
      .ok (decided (some (currentLevel + 1))
        (some (if onCall then ofLevel policy.adapters (currentLevel + 1)
          else policy.outOfHoursAdapter))
        "eligible_for_escalation")

/-- A target is the next level. -/
theorem target_eq {astimezone : String → Datetime → LocalTime} {policy : AlertEscalationPolicy}
    {severity : AlertSeverity} {durationMinutes currentLevel : ℕ} {evaluatedAt : Datetime}
    {decision : AlertEscalationPolicyDecision} {target : ℕ}
    (h : policy.evaluate astimezone severity durationMinutes currentLevel evaluatedAt =
      .ok decision) (ht : decision.targetLevel = some target) : target = currentLevel + 1 := by
  unfold evaluate at h
  split at h
  · cases h
  · dsimp only at h
    split at h
    · rw [← Except.ok.inj h] at ht
      cases ht
    · split at h
      · rw [← Except.ok.inj h] at ht
        cases ht
      · split at h
        · rw [← Except.ok.inj h] at ht
          cases ht
        · rw [← Except.ok.inj h] at ht
          exact (Option.some.inj ht).symm

end AlertEscalationPolicy

end CyberNetizen.Application
