import CyberNetizen.Application.ChannelProbeService
import CyberNetizen.Lib.Machine

namespace CyberNetizen.Domain

/-- An alert of one agent from its first occurrence to its recovery. -/
structure ObservabilityAlertLifecycle where
  id : UUID
  tenantId : UUID
  agentId : UUID
  deriving DecidableEq

/-- The level to which an alert is raised, and the adapter that is told. -/
structure ObservabilityAlertEscalationCandidate where
  lifecycle : ObservabilityAlertLifecycle
  targetLevel : ℕ
  adapter : Option String
  deriving DecidableEq

structure ObservabilityAlertLifecycleEvaluation where
  activatedLifecycles : List ObservabilityAlertLifecycle
  recoveredLifecycles : List ObservabilityAlertLifecycle
  dueEscalations : List ObservabilityAlertEscalationCandidate

end CyberNetizen.Domain

namespace CyberNetizen.Worker

open Domain Application Application.BackgroundTaskService
open Application.ChannelConnectionProbeScheduler (Exception)

inductive Notification
  | active (lifecycle : ObservabilityAlertLifecycle)
  | escalation (candidate : ObservabilityAlertEscalationCandidate)
  | recovery (lifecycle : ObservabilityAlertLifecycle)
  deriving DecidableEq

/-- What everything that one pass calls answers, and what the clock says. -/
structure Environment extends ChannelConnectionProbeScheduler.Ports where
  heartbeat : Except Exception Unit
  recoverExpired : Except Exception ℕ
  listObservabilityAgentIds : Except Exception (List (UUID × UUID))
  reconcileAlertLifecycles : UUID × UUID → Except Exception ObservabilityAlertLifecycleEvaluation
  /-- `enqueue_observability_active`, `_escalation` and `_recovery`. -/
  enqueueObservability : Notification → Except Exception Unit
  publishDue : Except Exception ℕ
  probedAt : Datetime
  observedAt : Datetime

/-- What a pass has done. -/
inductive Effect
  | heartbeat
  | recovered
  | scheduled (command : EnqueueCommand)
  | reconciled (agent : UUID × UUID)
  | notified (notification : Notification)
  /-- `_last_observability_bucket` is set. -/
  | observed (bucket : ℕ)
  | published

def notifications (evaluation : ObservabilityAlertLifecycleEvaluation) : List Notification :=
  evaluation.activatedLifecycles.map .active ++ evaluation.dueEscalations.map .escalation ++
    evaluation.recoveredLifecycles.map .recovery

section pass

variable (env : Environment)

def notify (notification : Notification) : Attempt Exception Effect Unit := do
  let _ ← .ofExcept (env.enqueueObservability notification)
  .leave (.notified notification)

def reconcileAgent (agent : UUID × UUID) : Attempt Exception Effect Unit := do
  let evaluation ← .ofExcept (env.reconcileAlertLifecycles agent)
  let _ ← .leave (.reconciled agent)
  (notifications evaluation).forM (notify env)

def observabilityBucket : ℕ := env.observedAt / 1000000 / 60

/-- The alerts of all agents, once in every minute. -/
def observe (lastBucket : Option ℕ) : Attempt Exception Effect Unit :=
  if some (observabilityBucket env) ≠ lastBucket then do
    let agents ← .ofExcept env.listObservabilityAgentIds
    let _ ← agents.forM (reconcileAgent env)
    .leave (.observed (observabilityBucket env))
  else pure ()

def maintenanceOnce (lastBucket : Option ℕ) : Attempt Exception Effect Unit := do
  let _ ← .ofExcept env.heartbeat
  let _ ← .leave .heartbeat
  let _ ← .ofExcept env.recoverExpired
  let _ ← .leave .recovered
  let _ ← (ChannelConnectionProbeScheduler.schedule env.toPorts env.probedAt).mapTrail .scheduled
  let _ ← observe env lastBucket
  let _ ← .ofExcept env.publishDue
  .leave .published

end pass

def bucketAfter (lastBucket : Option ℕ) (trail : List Effect) : Option ℕ :=
  trail.foldl (fun last effect ↦ match effect with
    | .observed bucket => some bucket
    | _ => last) lastBucket

/-- One pass of `_run`, which logs what is raised and goes on. -/
def maintenanceStep (lastBucket : Option ℕ) (env : Environment) : List Effect × Option ℕ :=
  let pass := maintenanceOnce env lastBucket
  (pass.trail, bucketAfter lastBucket pass.trail)

end CyberNetizen.Worker

namespace CyberNetizen.Worker

open Domain Application Application.BackgroundTaskService
open Application.ChannelConnectionProbeScheduler

/-- The calls that are not about one channel or one agent succeed. -/
structure Serves (env : Environment) : Prop where
  heartbeat : ∃ u, env.heartbeat = .ok u
  recovered : ∃ count, env.recoverExpired = .ok count
  channels : ∃ channels, env.listProbeCandidates = .ok channels
  agents : ∃ agents, env.listObservabilityAgentIds = .ok agents
  published : ∃ count, env.publishDue = .ok count

def Reconcilable (env : Environment) (agent : UUID × UUID) : Prop :=
  ∃ evaluation, env.reconcileAlertLifecycles agent = .ok evaluation ∧
    ∀ notification ∈ notifications evaluation, ∃ u, env.enqueueObservability notification = .ok u

/-- Nothing raises for any channel, nor for any agent that is looked at. -/
structure Undisturbed (env : Environment) (lastBucket : Option ℕ) : Prop where
  channels : ∃ channels, env.listProbeCandidates = .ok channels ∧
    ∀ channel ∈ channels, Schedulable env.toPorts env.probedAt channel
  agents : some (observabilityBucket env) ≠ lastBucket →
    ∃ agents, env.listObservabilityAgentIds = .ok agents ∧ ∀ agent ∈ agents, Reconcilable env agent

/-- Whatever raises for some channels and agents, the pass has served all the others and has
published what was due. -/
structure Isolated (env : Environment) (lastBucket : Option ℕ) (trail : List Effect) : Prop where
  channels : ∀ channels, env.listProbeCandidates = .ok channels → ∀ channel ∈ channels,
    Schedulable env.toPorts env.probedAt channel →
      ∀ command ∈ probes env.toPorts env.probedAt channel, .scheduled command ∈ trail
  agents : some (observabilityBucket env) ≠ lastBucket →
    ∀ agents, env.listObservabilityAgentIds = .ok agents → ∀ agent ∈ agents, Reconcilable env agent →
      .reconciled agent ∈ trail ∧
        ∀ evaluation, env.reconcileAlertLifecycles agent = .ok evaluation →
          ∀ notification ∈ notifications evaluation, .notified notification ∈ trail
  published : .published ∈ trail

section pass

variable (env : Environment)

theorem notify_performs (notification : Notification) :
    (notify env notification).Performs (∃ u, env.enqueueObservability notification = .ok u)
      [.notified notification] := by
  refine (Attempt.Performs.ofExcept_bind fun u _ ↦ Attempt.Performs.leave _).congr ?_ fun _ ↦ rfl
  simp

def agentEffects (agent : UUID × UUID) : List Effect :=
  match env.reconcileAlertLifecycles agent with
  | .ok evaluation => .reconciled agent :: (notifications evaluation).map .notified
  | .error _ => []

theorem reconcileAgent_performs (agent : UUID × UUID) :
    (reconcileAgent env agent).Performs (Reconcilable env agent) (agentEffects env agent) := by
  apply Attempt.Performs.ofExcept_bind
  intro evaluation hevaluation
  unfold agentEffects
  rw [hevaluation]
  refine ((Attempt.Performs.leave (.reconciled agent)).bind fun _ _ ↦
    .forM (notify_performs env) (notifications evaluation)).congr (by rw [true_and]) fun _ ↦ ?_
  show _ = Effect.reconciled agent :: (notifications evaluation).map Effect.notified
  rw [List.map_eq_flatMap, List.singleton_append]

def observeEffects (lastBucket : Option ℕ) : List Effect :=
  if some (observabilityBucket env) ≠ lastBucket then
    match env.listObservabilityAgentIds with
    | .ok agents => agents.flatMap (agentEffects env) ++ [.observed (observabilityBucket env)]
    | .error _ => []
  else []

theorem observe_performs (lastBucket : Option ℕ) :
    (observe env lastBucket).Performs
      (some (observabilityBucket env) ≠ lastBucket →
        ∃ agents, env.listObservabilityAgentIds = .ok agents ∧
          ∀ agent ∈ agents, Reconcilable env agent)
      (observeEffects env lastBucket) := by
  unfold observe observeEffects
  by_cases hbucket : some (observabilityBucket env) ≠ lastBucket
  · rw [if_pos hbucket, if_pos hbucket]
    rw [forall_prop_of_true hbucket]
    apply Attempt.Performs.ofExcept_bind
    intro agents hagents
    rw [hagents]
    exact ((Attempt.Performs.forM (reconcileAgent_performs env) agents).bind fun _ _ ↦
      .leave _).congr (by rw [and_true]) fun _ ↦ rfl
  · rw [if_neg hbucket, if_neg hbucket]
    exact (Attempt.Performs.pure _).congr (by simp [hbucket]) fun _ ↦ rfl

def scheduleEffects : List Effect :=
  match env.listProbeCandidates with
  | .ok channels => (channels.flatMap (probes env.toPorts env.probedAt)).map .scheduled
  | .error _ => []

/-- An undisturbed pass does everything in its order. -/
theorem maintenanceOnce_performs (h : Serves env) (lastBucket : Option ℕ) :
    (maintenanceOnce env lastBucket).Performs (Undisturbed env lastBucket)
      ([.heartbeat, .recovered] ++ scheduleEffects env ++ observeEffects env lastBucket ++
        [.published]) := by
  have hschedule := (schedule_performs env.toPorts env.probedAt).mapTrail Effect.scheduled
  have hpublish := Attempt.Performs.ofExcept_bind (r := env.publishDue) fun _ _ ↦
    Attempt.Performs.leave (ε := Exception) Effect.published
  have hpass := Attempt.Performs.ofExcept_bind (r := env.heartbeat) fun _ _ ↦
    (Attempt.Performs.leave (ε := Exception) Effect.heartbeat).bind fun _ _ ↦
      Attempt.Performs.ofExcept_bind (r := env.recoverExpired) fun _ _ ↦
        (Attempt.Performs.leave Effect.recovered).bind fun _ _ ↦
          hschedule.bind fun _ _ ↦ (observe_performs env lastBucket).bind fun _ _ ↦ hpublish
  refine hpass.congr ?_ fun _ ↦ ?_
  · constructor
    · rintro ⟨-, -, -, -, -, -, hchannels, hagents, -⟩
      exact ⟨hchannels, hagents⟩
    · intro hgood
      obtain ⟨u, hu⟩ := h.heartbeat
      obtain ⟨count, hcount⟩ := h.recovered
      obtain ⟨published, hpublished⟩ := h.published
      exact ⟨u, hu, trivial, count, hcount, trivial, hgood.channels, hgood.agents, published,
        hpublished, trivial⟩
  · unfold scheduleEffects
    obtain ⟨channels, hchannels⟩ := h.channels
    rw [hchannels]
    simp

theorem published_not_mem_schedule :
    Effect.published ∉ ((schedule env.toPorts env.probedAt).mapTrail Effect.scheduled).trail := by
  intro h
  obtain ⟨command, -, hcommand⟩ := List.mem_map.mp h
  cases hcommand

theorem published_not_mem_observe (lastBucket : Option ℕ) :
    Effect.published ∉ (observe env lastBucket).trail := by
  intro h
  unfold observe at h
  split at h
  · rcases Attempt.mem_bind h with h | ⟨agents, -, h⟩
    · exact absurd h List.not_mem_nil
    rcases Attempt.mem_bind h with h | ⟨_, -, h⟩
    · obtain ⟨agent, -, h⟩ := Attempt.mem_forM h
      rcases Attempt.mem_bind h with h | ⟨evaluation, -, h⟩
      · exact absurd h List.not_mem_nil
      rcases Attempt.mem_bind h with h | ⟨_, -, h⟩
      · cases List.mem_singleton.mp h
      obtain ⟨notification, -, h⟩ := Attempt.mem_forM h
      rcases Attempt.mem_bind h with h | ⟨_, -, h⟩
      · exact absurd h List.not_mem_nil
      · cases List.mem_singleton.mp h
    · cases List.mem_singleton.mp h
  · exact absurd h List.not_mem_nil

theorem ok_of_published {lastBucket : Option ℕ}
    (h : Effect.published ∈ (maintenanceOnce env lastBucket).trail) :
    ∃ u, (maintenanceOnce env lastBucket).result = .ok u := by
  have hleave : ∀ {e : Effect}, e ≠ .published →
      Effect.published ∉ (Attempt.leave e : Attempt Exception Effect Unit).trail :=
    fun hne hmem ↦ hne (List.mem_singleton.mp hmem).symm
  refine Attempt.ok_of_mem_bind List.not_mem_nil (fun _ h ↦ ?_) h
  refine Attempt.ok_of_mem_bind (hleave (nomatch ·)) (fun _ h ↦ ?_) h
  refine Attempt.ok_of_mem_bind List.not_mem_nil (fun _ h ↦ ?_) h
  refine Attempt.ok_of_mem_bind (hleave (nomatch ·)) (fun _ h ↦ ?_) h
  refine Attempt.ok_of_mem_bind (published_not_mem_schedule env) (fun _ h ↦ ?_) h
  refine Attempt.ok_of_mem_bind (published_not_mem_observe env lastBucket) (fun _ h ↦ ?_) h
  exact Attempt.ok_of_mem_bind List.not_mem_nil (fun _ _ ↦ ⟨_, rfl⟩) h

theorem published_iff (h : Serves env) {lastBucket : Option ℕ} :
    Effect.published ∈ (maintenanceOnce env lastBucket).trail ↔ Undisturbed env lastBucket := by
  have hpass := maintenanceOnce_performs env h lastBucket
  constructor
  · intro hmem
    exact hpass.ok.mp (ok_of_published env hmem)
  · intro hgood
    rw [hpass.trail hgood]
    exact List.mem_append_right _ (List.mem_singleton_self _)

/-- An undisturbed pass serves every channel and every agent. -/
theorem Undisturbed.isolated (h : Serves env) {lastBucket : Option ℕ}
    (hgood : Undisturbed env lastBucket) :
    Isolated env lastBucket (maintenanceOnce env lastBucket).trail := by
  have htrail := (maintenanceOnce_performs env h lastBucket).trail hgood
  refine ⟨?_, ?_, (published_iff env h).mpr hgood⟩
  · intro channels hchannels channel hchannel _ command hcommand
    rw [htrail]
    unfold scheduleEffects
    rw [hchannels]
    have hmem : Effect.scheduled command ∈
        (channels.flatMap (probes env.toPorts env.probedAt)).map Effect.scheduled :=
      List.mem_map_of_mem (List.mem_flatMap.mpr ⟨channel, hchannel, hcommand⟩)
    exact List.mem_append_left _ (List.mem_append_left _ (List.mem_append_right _ hmem))
  · intro hbucket agents hagents agent hagent hreconcilable
    have heffects : ∀ e ∈ agentEffects env agent,
        e ∈ (maintenanceOnce env lastBucket).trail := by
      intro e he
      rw [htrail]
      unfold observeEffects
      rw [if_pos hbucket, hagents]
      have hmem : e ∈ agents.flatMap (agentEffects env) := List.mem_flatMap.mpr ⟨agent, hagent, he⟩
      simp [hmem]
    obtain ⟨evaluation, hevaluation, -⟩ := hreconcilable
    unfold agentEffects at heffects
    rw [hevaluation] at heffects
    refine ⟨heffects _ List.mem_cons_self, ?_⟩
    intro evaluation' hevaluation' notification hnotification
    rw [hevaluation] at hevaluation'
    cases hevaluation'
    exact heffects _ (List.mem_cons_of_mem _ (List.mem_map_of_mem hnotification))

end pass

/-- In every run of the maintenance loop a pass serves the channels and agents for which nothing
raises, and publishes, exactly if nothing raises for any of them. -/
theorem maintenance_isolates (envs : List Environment) (lastBucket : Option ℕ)
    (h : ∀ env ∈ envs, Serves env) :
    Machine.Along maintenanceStep (fun last env ↦
      (Isolated env last (maintenanceStep last env).1 ↔ Undisturbed env last) ∧
        (Effect.published ∈ (maintenanceStep last env).1 ↔ Undisturbed env last)) lastBucket envs := by
  have hrun : Machine.Along maintenanceStep (fun _ env ↦ True ∧ Serves env) lastBucket envs :=
    Machine.along_true.and_forall h
  refine hrun.mono fun last env hs ↦ ⟨⟨fun hi ↦ ?_, fun hgood ↦ hgood.isolated env hs.2⟩, ?_⟩
  · exact (published_iff env hs.2).mp hi.published
  · exact published_iff env hs.2

section examples

/-- Two agents; the escalation policy of the first may be inconsistent. -/
def twoAgents (consistent : Bool) : Environment where
  listProbeCandidates := .ok []
  resolveEffective _ _ _ := .ok []
  enqueue _ := .ok true
  heartbeat := .ok ()
  recoverExpired := .ok 0
  listObservabilityAgentIds := .ok [(1, 10), (2, 20)]
  reconcileAlertLifecycles agent :=
    if agent = (1, 10) ∧ !consistent then
      .error ⟨"AlertPolicyValidationError", "告警升级三级等待时间必须严格递增"⟩
    else .ok ⟨[⟨agent.2 + 1, agent.1, agent.2⟩], [], []⟩
  enqueueObservability _ := .ok ()
  publishDue := .ok 0
  probedAt := 1700000000000000
  observedAt := 1700000000000000

theorem twoAgents_serves (consistent : Bool) : Serves (twoAgents consistent) :=
  ⟨⟨_, rfl⟩, ⟨_, rfl⟩, ⟨_, rfl⟩, ⟨_, rfl⟩, ⟨_, rfl⟩⟩

theorem maintenance_isolates_consistent :
    Isolated (twoAgents true) none (maintenanceStep none (twoAgents true)).1 := by
  have hrun := maintenance_isolates [twoAgents true] none
    (List.forall_mem_singleton.mpr (twoAgents_serves true))
  apply hrun.1.1.mpr
  refine ⟨⟨_, rfl, fun channel hchannel ↦ absurd hchannel List.not_mem_nil⟩, fun _ ↦ ⟨_, rfl, ?_⟩⟩
  intro agent _
  exact ⟨_, if_neg (by simp), fun notification _ ↦ ⟨(), rfl⟩⟩

/-- However often the pass is repeated, the second agent is never looked at, and nothing is
published. -/
theorem inconsistent_policy_stops_maintenance :
    Serves (twoAgents false) ∧ Reconcilable (twoAgents false) (2, 20) ∧
    ¬Isolated (twoAgents false) none (maintenanceStep none (twoAgents false)).1 ∧
    ∀ n, ∀ trail ∈ Machine.outputs maintenanceStep none (List.replicate n (twoAgents false)),
      Effect.published ∉ trail ∧ Effect.reconciled (2, 20) ∉ trail := by
  have hstep : maintenanceStep none (twoAgents false) = ([.heartbeat, .recovered], none) := rfl
  refine ⟨twoAgents_serves false, ?_, ?_, ?_⟩
  · exact ⟨⟨[⟨21, 2, 20⟩], [], []⟩, rfl, fun notification _ ↦ ⟨(), rfl⟩⟩
  · intro h
    have hmem := h.published
    rw [hstep] at hmem
    simp at hmem
  · intro n
    induction n with
    | zero => exact fun trail htrail ↦ absurd htrail List.not_mem_nil
    | succ n ih =>
      intro trail htrail
      rw [List.replicate_succ, Machine.outputs, hstep] at htrail
      rcases List.mem_cons.mp htrail with rfl | htrail
      · simp
      · exact ih trail htrail

end examples

end CyberNetizen.Worker
