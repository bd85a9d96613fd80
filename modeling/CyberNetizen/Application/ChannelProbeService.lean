import CyberNetizen.Application.TaskService
import CyberNetizen.Domain.Channel
import CyberNetizen.Lib.Attempt

namespace CyberNetizen.Domain

structure ProbeCandidate extends ChannelInstance where
  lastCheckedAt : Option Datetime
  createdBy : UUID

end CyberNetizen.Domain

namespace CyberNetizen.Application.ChannelConnectionProbeScheduler

open Domain BackgroundTaskService

structure Exception where
  name : String
  message : String
  deriving DecidableEq

/-- What the scheduler is answered by the repository, the configuration and the task service. -/
structure Ports where
  listProbeCandidates : Except Exception (List ProbeCandidate)
  resolveEffective : UUID → UUID → UUID → Except Exception JsonObject
  enqueue : EnqueueCommand → Except Exception Bool

/-- The interval in minutes, 15 unless it is configured. -/
def probeInterval (values : JsonObject) : Except Exception ℕ :=
  match (values.lookup "channel.connection_probe_interval_minutes").getD (.int 15) with
  | .int interval =>
    if 1 ≤ interval ∧ interval ≤ 1440 then .ok interval.toNat
    else .error ⟨"ValueError", "渠道连接探测间隔配置无效"⟩
  | _ => .error ⟨"ValueError", "渠道连接探测间隔配置无效"⟩

def isDue (channel : ProbeCandidate) (interval : ℕ) (endedAt : Datetime) : Bool :=
  match channel.lastCheckedAt with
  | none => true
  | some checkedAt => ¬((endedAt : ℤ) - checkedAt < interval * 60 * 1000000)

def probeCommand (channel : ProbeCandidate) (interval : ℕ) (endedAt : Datetime) : EnqueueCommand where
  tenantId := channel.tenantId
  agentId := some channel.agentId
  kind := .channelConnectionTest
  payload := [("agent_id", .str (uuidString channel.agentId)),
    ("channel_id", .str (uuidString channel.id)), ("actor_id", .str (uuidString channel.createdBy))]
  deduplicationKey :=
    s!"channel-probe:{uuidString channel.id}:{endedAt / 1000000 / (interval * 60)}"
  createdBy := some channel.createdBy
  accepted := fun event h ↦ absurd h (Option.not_mem_none event)

variable (ports : Ports) (endedAt : Datetime)

/-- One round of the loop. -/
def scheduleChannel (scheduled : ℕ) (channel : ProbeCandidate) :
    Attempt Exception EnqueueCommand ℕ := do
  let values ← .ofExcept (ports.resolveEffective channel.tenantId channel.agentId channel.id)
  let interval ← .ofExcept (probeInterval values)
  if isDue channel interval endedAt then
    let command := probeCommand channel interval endedAt
    let created ← .ofExcept (ports.enqueue command)
    .leave command
    return scheduled + created.toNat
  else return scheduled

def schedule : Attempt Exception EnqueueCommand ℕ := do
  let channels ← .ofExcept ports.listProbeCandidates
  channels.foldlM (scheduleChannel ports endedAt) 0

def Schedulable (channel : ProbeCandidate) : Prop :=
  ∃ values, ports.resolveEffective channel.tenantId channel.agentId channel.id = .ok values ∧
    ∃ interval, probeInterval values = .ok interval ∧
      (isDue channel interval endedAt = true →
        ∃ created, ports.enqueue (probeCommand channel interval endedAt) = .ok created)

/-- The probe of a channel that is due. -/
def probes (channel : ProbeCandidate) : List EnqueueCommand :=
  match ports.resolveEffective channel.tenantId channel.agentId channel.id with
  | .error _ => []
  | .ok values =>
    match probeInterval values with
    | .error _ => []
    | .ok interval =>
      if isDue channel interval endedAt then [probeCommand channel interval endedAt] else []

theorem scheduleChannel_performs (scheduled : ℕ) (channel : ProbeCandidate) :
    (scheduleChannel ports endedAt scheduled channel).Performs (Schedulable ports endedAt channel)
      (probes ports endedAt channel) := by
  apply Attempt.Performs.ofExcept_bind
  intro values hvalues
  apply Attempt.Performs.ofExcept_bind
  intro interval hinterval
  unfold probes
  rw [hvalues]
  dsimp only
  rw [hinterval]
  by_cases hdue : isDue channel interval endedAt = true
  · dsimp only
    rw [if_pos hdue, if_pos hdue]
    refine (Attempt.Performs.ofExcept_bind fun created _ ↦
      (Attempt.Performs.leave _).bind fun _ _ ↦ .pure _).congr ?_ fun _ ↦ rfl
    simp [hdue]
  · dsimp only
    rw [if_neg hdue, if_neg hdue]
    exact (Attempt.Performs.pure scheduled).congr (by simp [hdue]) fun _ ↦ rfl

theorem schedule_performs :
    (schedule ports endedAt).Performs
      (∃ channels, ports.listProbeCandidates = .ok channels ∧
        ∀ channel ∈ channels, Schedulable ports endedAt channel)
      (match ports.listProbeCandidates with
        | .ok channels => channels.flatMap (probes ports endedAt)
        | .error _ => []) := by
  apply Attempt.Performs.ofExcept_bind
  intro channels hchannels
  rw [hchannels]
  exact .foldlM (scheduleChannel_performs ports endedAt) channels 0

end CyberNetizen.Application.ChannelConnectionProbeScheduler
