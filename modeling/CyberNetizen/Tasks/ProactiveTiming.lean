import CyberNetizen.Tasks.ScheduledActionHistory

namespace CyberNetizen.Tasks.ScheduledActions

open Domain Application Infrastructure KeyedTable SqlAlchemyTaskRepository ScheduledActionTaskHandler
open Cognition
open ScheduledActionService (actionExpired)

section policy

variable (ports : Ports) (around : Surroundings) (action : ScheduledAction)

def valuesOf : JsonObject := around.values action.tenantId action.agentId action.userId

def enabled : Bool :=
  match settingBool (valuesOf around action) "proactive.enabled" with
  | .ok value => value
  | .error _ => false

def unblocked : Bool := !boundaryBlock ports (relationOf around.memory action)

def awake : Bool :=
  match settingsOf ports (valuesOf around action) around.clock,
    policyOf (valuesOf around action) with
  | .ok settings, .ok policy => ProactivePolicyEvaluator.inQuietHours
      (settings.zone.hour settings.now) policy.quietHoursStart policy.quietHoursEnd = some false
  | _, _ => false

def standing (moment : Moment) : Bool :=
  (moment.store.scheduledActions.find? action.id).all fun row ↦
    row.status ≠ .canceled && row.status ≠ .expired && !actionExpired row moment.around.clock

def allowed (moment : Moment) : Bool :=
  enabled moment.around action && unblocked ports moment.around action &&
    awake ports moment.around action && standing action moment

end policy

def allowedIfSent (ports : Ports) (start : Moment) (found : Option ScheduledAction) : Bool :=
  found.all fun action ↦ !(action.status = .dispatched && action.kind = .proactiveMessage) ||
    allowed ports action start

/-- What an execution reads next forbids whatever was forbidden when it started. -/
def current (ports : Ports) (now start : Moment) (job : BackgroundJob) : Phase → Bool
  | .getScheduledAction =>
    match uuid job.payload "scheduled_action_id" with
    | .error _ => true
    | .ok actionId =>
      allowedIfSent ports start (getScheduledAction job.tenantId actionId now.store)
  | .resolveEffective action =>
    (!enabled now.around action || enabled start.around action) &&
      (!awake ports now.around action || awake ports start.around action)
  | .getRelationship action _ =>
    !unblocked ports now.around action || unblocked ports start.around action
  | .evaluate evaluation =>
    !rereads evaluation || allowedIfSent ports start
      (getScheduledAction evaluation.tenantId evaluation.actionId now.store)
  | .deliver .. | .returned | .raised _ | .settled => true

def timely (ports : Ports) (w : World) : Action → Bool
  | .advance i .. => w.runs[i]?.all fun run ↦ current ports w.toMoment run.start run.job run.phase
  | _ => true

section policies

variable {ports : Ports} {around : Surroundings} {action row : ScheduledAction} {start : Moment}

theorem policyOf_enabled {values : JsonObject} {policy : ProactivePolicy}
    (h : policyOf values = .ok policy) :
    settingBool values "proactive.enabled" = .ok policy.enabled := by
  unfold policyOf at h
  obtain ⟨enabled, henabled, h⟩ := Checks.bind_eq_ok.mp h
  obtain ⟨_, -, h⟩ := Checks.bind_eq_ok.mp h
  obtain ⟨_, -, h⟩ := Checks.bind_eq_ok.mp h
  obtain ⟨_, -, h⟩ := Checks.bind_eq_ok.mp h
  obtain ⟨_, -, h⟩ := Checks.bind_eq_ok.mp h
  obtain ⟨_, -, h⟩ := Checks.bind_eq_ok.mp h
  obtain rfl := Except.ok.inj h
  exact henabled

theorem enabled_of_policy {policy : ProactivePolicy}
    (h : policyOf (valuesOf around action) = .ok policy) : enabled around action = policy.enabled := by
  unfold enabled
  rw [policyOf_enabled h]

theorem settingsOf_eq_ok {values : JsonObject} {now : Datetime} {settings : Settings}
    (h : settingsOf ports values now = .ok settings) : settings.values = values := by
  unfold settingsOf at h
  obtain ⟨name, -, h⟩ := Checks.bind_eq_ok.mp h
  obtain ⟨zone, -, h⟩ := Checks.bind_eq_ok.mp h
  obtain rfl := Except.ok.inj h
  rfl

theorem awake_of_settings {settings : Settings} {policy : ProactivePolicy}
    (hsettings : settingsOf ports (valuesOf around action) around.clock = .ok settings)
    (hpolicy : policyOf (valuesOf around action) = .ok policy)
    (h : ProactivePolicyEvaluator.inQuietHours (settings.zone.hour settings.now)
      policy.quietHoursStart policy.quietHoursEnd = some false) : awake ports around action = true := by
  unfold awake
  rw [hsettings, hpolicy]
  exact decide_eq_true h

theorem actionExpired_mono {early late : Datetime} (hle : early ≤ late)
    (h : actionExpired action late = false) : actionExpired action early = false := by
  unfold actionExpired at *
  cases hexpiry : action.expiresAt with
  | none => rfl
  | some expiry =>
    rw [hexpiry, Option.any_some, decide_eq_false_iff_not] at h
    rw [Option.any_some, decide_eq_false_iff_not]
    exact fun hexpired ↦ h (hexpired.trans hle)

def FromStart (start : Moment) (action : ScheduledAction) : Prop :=
  action.status = .pending ∧
    ∀ row, start.store.scheduledActions.find? action.id = some row → row = action

theorem FromStart.of_grows {s : TaskStore} (hgrows : ActionsGrow start.store s)
    (hrow : s.scheduledActions.find? action.id = some action) (hpending : action.status = .pending) :
    FromStart start action := by
  refine ⟨hpending, fun row hstart ↦ ?_⟩
  obtain ⟨row', hrow', hsettles⟩ := hgrows action.id row hstart
  obtain rfl := Option.some.inj (hrow.symm.trans hrow')
  exact (hsettles.eq_of_pending hpending).symm

theorem FromStart.standing (h : FromStart start action)
    (hopen : actionExpired action start.around.clock = false) : standing action start = true := by
  unfold ScheduledActions.standing
  rw [Option.all_eq_true]
  intro row hrow
  obtain rfl := h.2 row hrow
  rw [h.1, hopen]
  rfl

theorem of_allowedIfSent {found : Option ScheduledAction} (h : allowedIfSent ports start found = true)
    (hfound : found = some action) (hsent : action.status = .dispatched)
    (hkind : action.kind = .proactiveMessage) : allowed ports action start = true := by
  unfold allowedIfSent at h
  rw [hfound, Option.all_some, hsent, hkind] at h
  simpa using h

end policies

/-- What an evaluation has found out, seen from the start of its execution. -/
structure Cleared (ports : Ports) (start : Moment)
    (evaluation : ScheduledActionService.Evaluation) (action : ScheduledAction) : Prop where
  enabled : evaluation.policy.enabled = true → enabled start.around action = true
  awake : ProactivePolicyEvaluator.inQuietHours evaluation.context.localHour
    evaluation.policy.quietHoursStart evaluation.policy.quietHoursEnd = some false →
      awake ports start.around action = true
  unblocked : evaluation.context.hasBoundaryBlock = false →
    unblocked ports start.around action = true

def Judged (ports : Ports) (start : Moment) (action : ScheduledAction) :
    ScheduledActionService.Phase → Prop
  | .socialBudgetUsed .. => actionExpired action start.around.clock = false
  | .decideScheduledAction decision .. => decision.approved = true → allowed ports action start = true
  | .getScheduledAction | .returned => True

/-- What an execution knows of its start, where it has not found its message dispatched already. -/
def Timed (ports : Ports) (start : Moment) (s : TaskStore) (job : BackgroundJob) : Phase → Prop
  | .resolveEffective action => Read s job action ∧ FromStart start action
  | .getRelationship action settings => Read s job action ∧ FromStart start action ∧
      ∀ policy, policyOf settings.values = .ok policy →
        (policy.enabled = true → enabled start.around action = true) ∧
        (ProactivePolicyEvaluator.inQuietHours (settings.zone.hour settings.now)
          policy.quietHoursStart policy.quietHoursEnd = some false →
            awake ports start.around action = true)
  | .evaluate evaluation => ∃ action, Read s job action ∧ FromStart start action ∧
      evaluation.tenantId = job.tenantId ∧ evaluation.actionId = action.id ∧
      Cleared ports start evaluation action ∧ Judged ports start action evaluation.phase
  | .deliver action _ => allowed ports action start = true
  | .getScheduledAction | .returned | .raised _ | .settled => True

section run

variable {ports : Ports} {start : Moment} {s s' : TaskStore} {job : BackgroundJob}
  {around : Surroundings} {action row : ScheduledAction} {phase phase' : Phase}

theorem Timed.mono (h : Timed ports start s job phase) (hgrows : ActionsGrow s s') :
    Timed ports start s' job phase := by
  cases phase with
  | resolveEffective | getRelationship => exact ⟨h.1.mono hgrows, h.2⟩
  | evaluate =>
    obtain ⟨action, hread, hrest⟩ := h
    exact ⟨action, hread.mono hgrows, hrest⟩
  | deliver => exact h
  | getScheduledAction | returned | raised | settled => trivial

theorem timed_dispatch (h : action.status = .dispatched → action.kind = .proactiveMessage →
    allowed ports action start = true) : Timed ports start s job (dispatch ports action) := by
  unfold dispatch
  split
  · rename_i hsent
    cases dispatchProactive ports action with
    | error error => trivial
    | ok delivery => exact h hsent.1 hsent.2
  · trivial

theorem Read.again (h : Read s job action) {tenantId actionId : UUID} (hid : actionId = action.id)
    (hrow : getScheduledAction tenantId actionId s = some row) (hpending : row.status = .pending) :
    row = action := by
  obtain ⟨-, -, found, hfound, hsettles⟩ := h
  obtain ⟨hrow, -⟩ := getScheduledAction_eq_some.mp hrow
  subst hid
  obtain rfl := Option.some.inj (hfound.symm.trans hrow)
  exact hsettles.eq_of_pending hpending

theorem allowed_of_approved {evaluation : ScheduledActionService.Evaluation}
    {context : ProactiveContext} {decision : ProactiveDecision}
    (h : ProactivePolicyEvaluator.evaluate evaluation.policy context = some decision)
    (hhour : context.localHour = evaluation.context.localHour)
    (hblock : context.hasBoundaryBlock = evaluation.context.hasBoundaryBlock)
    (hcleared : Cleared ports start evaluation action) (hstart : FromStart start action)
    (hopen : actionExpired action start.around.clock = false)
    (happroved : decision.approved = true) : allowed ports action start = true := by
  obtain ⟨henabled, hboundary, hawake⟩ := ProactivePolicyEvaluator.evaluate_approved h happroved
  rw [hblock] at hboundary
  rw [hhour] at hawake
  unfold allowed
  rw [hcleared.enabled henabled, hcleared.unblocked hboundary, hcleared.awake hawake,
    hstart.standing hopen]
  rfl

theorem approved_of_dispatched {decision effective : ProactiveDecision}
    (heffective : effective = decision ∨ effective = budgetExhausted decision.score)
    (h : decidedStatus effective = .dispatched) : decision.approved = true := by
  unfold decidedStatus at h
  split at h
  · cases h
  split at h
  · rename_i happroved
    rcases heffective with rfl | rfl
    · exact happroved
    · cases happroved
  · cases h

theorem Handles.timed (h : Handles ports job around s phase phase' s')
    (htimed : Timed ports start s job phase) (hgrows : ActionsGrow start.store s)
    (hclock : start.around.clock ≤ around.clock)
    (hcurrent : current ports ⟨s, around⟩ start job phase = true) :
    Timed ports start s' job phase' := by
  cases h with
  | stays => exact htimed
  | raises => trivial
  | @reads actionId action hid hrow hpending =>
    have hread := Read.of_row hid hrow
    obtain ⟨hfound, -⟩ := getScheduledAction_eq_some.mp hrow
    obtain rfl := Table.key_of_find? hfound
    exact ⟨hread, .of_grows hgrows hfound hpending⟩
  | finds hid hrow hsettled =>
    dsimp only [current] at hcurrent
    rw [hid] at hcurrent
    exact timed_dispatch (of_allowedIfSent hcurrent hrow)
  | @resolves action settings h =>
    obtain ⟨hread, hstart⟩ := htimed
    refine ⟨hread, hstart, fun policy hpolicy ↦ ?_⟩
    dsimp only [current] at hcurrent
    simp only [Bool.and_eq_true, Bool.or_eq_true, Bool.not_eq_true'] at hcurrent
    obtain ⟨henabled, hawake⟩ := hcurrent
    rw [← hread.2.1] at h
    rw [settingsOf_eq_ok h] at hpolicy
    constructor
    · intro hon
      refine henabled.resolve_left fun hoff ↦ ?_
      rw [enabled_of_policy hpolicy, hon] at hoff
      cases hoff
    · intro hquiet
      refine hawake.resolve_left fun hasleep ↦ ?_
      rw [awake_of_settings h hpolicy hquiet] at hasleep
      cases hasleep
  | @relates action settings evaluation h =>
    obtain ⟨hread, hstart, hsettings⟩ := htimed
    obtain ⟨htenant, hid, hphase, hpolicy, hhour, hblock⟩ := evaluationOf_eq_ok h
    obtain ⟨henabled, hawake⟩ := hsettings _ hpolicy
    refine ⟨action, hread, hstart, htenant, hid, ⟨henabled, hhour ▸ hawake, fun hfree ↦ ?_⟩, ?_⟩
    · dsimp only [current] at hcurrent
      rw [Bool.or_eq_true, Bool.not_eq_true'] at hcurrent
      refine hcurrent.resolve_left fun hblocked ↦ ?_
      unfold unblocked at hblocked
      rw [← hblock, hfree] at hblocked
      cases hblocked
    · rw [hphase]
      trivial
  | expires hphase hrow hpending =>
    obtain ⟨action, hread, hstart, htenant, hid, hcleared, -⟩ := htimed
    exact ⟨action, hread, hstart, htenant, hid, ⟨hcleared.1, hcleared.2, hcleared.3⟩,
      fun happroved ↦ (nomatch happroved)⟩
  | opens hphase hrow hpending hopen =>
    obtain ⟨action, hread, hstart, htenant, hid, hcleared, -⟩ := htimed
    obtain rfl := hread.again hid hrow hpending
    exact ⟨_, hread, hstart, htenant, hid, ⟨hcleared.1, hcleared.2, hcleared.3⟩,
      actionExpired_mono hclock hopen⟩
  | judges hphase h =>
    obtain ⟨action, hread, hstart, htenant, hid, hcleared, hjudged⟩ := htimed
    rw [hphase] at hjudged
    exact ⟨action, hread, hstart, htenant, hid, ⟨hcleared.1, hcleared.2, hcleared.3⟩,
      allowed_of_approved h rfl rfl hcleared hstart hjudged⟩
  | refinds hphase hrow hsettled =>
    dsimp only [current] at hcurrent
    rw [hphase] at hcurrent
    exact timed_dispatch (of_allowedIfSent hcurrent hrow)
  | decides hphase hrow hpending heffective hcall hactions =>
    obtain ⟨action, hread, hstart, htenant, hid, hcleared, hjudged⟩ := htimed
    obtain rfl := hread.again hid hrow hpending
    rw [hphase] at hjudged
    refine timed_dispatch fun hsent hkind ↦ ?_
    exact hjudged (approved_of_dispatched heffective hsent)
  | delivers => trivial

structure RunTimed (ports : Ports) (w : World) (run : Run) : Prop where
  clock : run.start.around.clock ≤ w.around.clock
  timed : Timed ports run.start w.store run.job run.phase

theorem Steps.timed {w w' : World} {a : Action} (h : Steps ports w a w') (hinv : Inv w)
    (htimed : ∀ run ∈ w.runs, RunTimed ports w run) (ha : timely ports w a = true) :
    ∀ run ∈ w'.runs, RunTimed ports w' run := by
  have hcall : ∀ call, ∀ run ∈ w.runs, RunTimed ports
      { w with store := (SqlAlchemyTaskRepository.step w.store call).2 } run :=
    fun call run hrun ↦ ⟨(htimed run hrun).clock,
      (htimed run hrun).timed.mono (step_actionChange w.store call).grows⟩
  cases h with
  | idles => exact htimed
  | calls => exact hcall _
  | changes hclock =>
    exact fun run hrun ↦ ⟨(htimed run hrun).clock.trans hclock, (htimed run hrun).timed⟩
  | claims =>
    intro run hrun
    rcases List.mem_append.mp hrun with hrun | hrun
    · exact ⟨(hcall _ run hrun).clock, (hcall _ run hrun).timed⟩
    · obtain rfl := List.mem_singleton.mp hrun
      exact ⟨le_rfl, trivial⟩
  | moves hrun h =>
    have hmem := List.mem_of_getElem? hrun
    dsimp only [timely] at ha
    rw [hrun, Option.all_some] at ha
    refine runs_set (fun r hr ↦ ⟨(htimed r hr).clock, (htimed r hr).timed.mono h.grows⟩)
      ⟨(htimed _ hmem).clock, ?_⟩
    exact h.timed (htimed _ hmem).timed (hinv.runs _ hmem).grows (htimed _ hmem).clock ha
  | interrupts hrun =>
    have hmem := List.mem_of_getElem? hrun
    exact runs_set (fun r hr ↦ ⟨(htimed r hr).clock, (htimed r hr).timed⟩)
      ⟨(htimed _ hmem).clock, trivial⟩
  | settles hrun =>
    have hmem := List.mem_of_getElem? hrun
    exact runs_set (fun r hr ↦ ⟨(hcall _ r hr).clock, (hcall _ r hr).timed⟩)
      ⟨(htimed _ hmem).clock, trivial⟩

/-- A message is sent only where the policy allowed it when the execution started, as long as no
execution finds its message dispatched or sees a block lifted. -/
theorem proactive_messages_allowed (ports : Ports) (around : Surroundings) (as : List Action)
    (h : Machine.Along (step ports) (fun w a ↦ timely ports w a = true) (World.empty around) as) :
    ∀ run ∈ (Machine.run (step ports) (World.empty around) as).runs, ∀ action delivery,
      run.phase = .deliver action delivery → allowed ports action run.start = true := by
  have hrun := Machine.run_invariant (I := fun w ↦ Inv w ∧ ∀ run ∈ w.runs, RunTimed ports w run)
    (fun w a hw ha ↦ ⟨(step_steps ports w a).inv hw.1, (step_steps ports w a).timed hw.1 hw.2 ha⟩)
    ⟨inv_empty around, fun _ h ↦ absurd h List.not_mem_nil⟩ h
  intro run hmem action delivery hphase
  have htimed := (hrun.2 run hmem).timed
  rw [hphase] at htimed
  exact htimed

def sending : Phase → Option ScheduledAction
  | .deliver action _ => some action
  | _ => none

theorem sending_eq_some (h : sending phase = some action) :
    ∃ delivery, phase = .deliver action delivery := by
  cases phase with
  | deliver found delivery =>
    obtain rfl := Option.some.inj h
    exact ⟨delivery, rfl⟩
  | _ => cases h

def sentGreeting : List Action :=
  [createGreeting, executeGreeting 20] ++ List.replicate 6 (.advance 0 21 none)

theorem proactive_messages_allowed_greeting :
    ∃ run ∈ (Machine.run (step utcPorts) (World.empty openDay) sentGreeting).runs,
      ∃ action ∈ sending run.phase, allowed utcPorts action run.start = true := by
  have hall := proactive_messages_allowed utcPorts openDay sentGreeting (by decide +kernel)
  have hsends : ∃ run ∈ (Machine.run (step utcPorts) (World.empty openDay) sentGreeting).runs,
      (sending run.phase).isSome = true := by decide +kernel
  obtain ⟨run, hrun, hsome⟩ := hsends
  obtain ⟨action, hsending⟩ := Option.isSome_iff_exists.mp hsome
  obtain ⟨delivery, hphase⟩ := sending_eq_some hsending
  exact ⟨run, hrun, action, hsending, hall run hrun action delivery hphase⟩

def closedValues : JsonObject :=
  openValues.map fun entry ↦ if entry.1 = "proactive.enabled" then (entry.1, .bool false) else entry

/-- The channel fails after the decision; proactive behaviour is switched off; the job is retried. -/
def resentGreeting : List Action :=
  sentGreeting ++ [.advance 0 21 (some (.other "ChannelDeliveryError" false false)),
    .settle 0 [] 22 0, .configure fun _ _ _ ↦ closedValues, .tick (noon + seconds 60),
    executeGreeting 30, .advance 1 31 none]

theorem retried_message_is_not_allowed :
    ¬∀ ports around as, ∀ run ∈ (Machine.run (step ports) (World.empty around) as).runs,
      ∀ action delivery, run.phase = .deliver action delivery →
        allowed ports action run.start = true := by
  intro h
  have hsends : ∃ run ∈ (Machine.run (step utcPorts) (World.empty openDay) resentGreeting).runs,
      ∃ action ∈ sending run.phase, allowed utcPorts action run.start = false := by
    have hsome : ∃ run ∈ (Machine.run (step utcPorts) (World.empty openDay) resentGreeting).runs,
        (sending run.phase).any (fun action ↦ !allowed utcPorts action run.start) = true := by
      decide +kernel
    obtain ⟨run, hrun, hany⟩ := hsome
    obtain ⟨action, hsending, hnot⟩ := Option.any_eq_true _ _ |>.mp hany
    exact ⟨run, hrun, action, hsending, by simpa using hnot⟩
  obtain ⟨run, hrun, action, hsending, hnot⟩ := hsends
  obtain ⟨delivery, hphase⟩ := sending_eq_some hsending
  rw [h utcPorts openDay resentGreeting run hrun action delivery hphase] at hnot
  cases hnot

end run

end CyberNetizen.Tasks.ScheduledActions
