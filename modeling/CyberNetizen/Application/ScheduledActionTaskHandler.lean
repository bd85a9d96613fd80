import Mathlib.Data.List.Infix
import CyberNetizen.Application.ScheduledActionService
import CyberNetizen.Application.TaskDelivery
import CyberNetizen.Infrastructure.MemoryRepository

namespace CyberNetizen.Application.ScheduledActionTaskHandler

open Domain Cognition Infrastructure SqlAlchemyTaskRepository Checks

/-- What an execution raises. -/
inductive HandlerError
  | permanentTaskError (message : String)
  | valueError (message : String)
  | taskNotFound (message : String)
  | integrityError
  /-- Anything that a port raises. -/
  | other (errorCode : String) (permanent timedOut : Bool)
  deriving DecidableEq

def HandlerError.permanent : HandlerError → Bool
  | .permanentTaskError _ => true
  | .other _ permanent _ => permanent
  | _ => false

def HandlerError.outcome : HandlerError → BackgroundTaskService.Outcome
  | .permanentTaskError _ => .raised "PermanentTaskError" true false
  | .valueError _ => .raised "ValueError" false false
  | .taskNotFound _ => .raised "TaskNotFoundError" false false
  | .integrityError => .raised "IntegrityError" false false
  | .other errorCode permanent timedOut => .raised errorCode permanent timedOut

/-- A time zone: the local hour and the local day of an instant. -/
structure ZoneInfo where
  hour : Datetime → ℤ
  date : Datetime → Date

/-- What `datetime.fromisoformat` makes of a text. -/
structure ParsedDatetime where
  instant : Datetime
  hasZone : Bool

structure Ports where
  zoneInfo : String → Option ZoneInfo
  fromIsoFormat : String → Option ParsedDatetime
  casefold : String → String
  /-- Whether the handler was given a channel service. -/
  hasChannelService : Bool

theorem digitChar_not_space : ∀ d < 16, isSpace (Nat.digitChar d) = false := by decide

section readers

variable (values : JsonObject) (key : String)

def permanent {α : Type} (message : String) : Except HandlerError α :=
  .error (.permanentTaskError message)

/-- `_uuid`, with `_string` and `_value`. -/
def uuid : Except HandlerError UUID :=
  match values.lookup key with
  | none => permanent s!"任务载荷缺少字段：{key}"
  | some (.str value) =>
    if (strip value).isEmpty then permanent s!"任务载荷字段不是有效字符串：{key}"
    else
      match WireText.uuidOfText? (strip value).toList with
      | none => permanent s!"任务载荷字段不是有效 UUID：{key}"
      | some id => .ok id
  | some _ => permanent s!"任务载荷字段不是有效字符串：{key}"

variable {values key} in
/-- The text of an identifier names it. -/
theorem uuid_str {id : UUID} (hid : id < 2 ^ 128)
    (h : values.lookup key = some (.str (uuidString id))) : uuid values key = .ok id := by
  have hlist : (uuidString id).toList = WireText.uuidText id := String.toList_ofList
  have hstrip : strip (uuidString id) = uuidString id := by
    apply strip_eq_self
    intro c hc
    rw [hlist] at hc
    rcases WireText.mem_uuidText hc with rfl | hc
    · rfl
    · obtain ⟨d, hd, rfl⟩ := List.mem_map.mp hc
      exact digitChar_not_space d (Digits.fixed_lt (by decide) 32 id d hd)
  have hfull : (uuidString id).isEmpty = false := by
    rw [Bool.eq_false_iff]
    intro hempty
    have hnil : (uuidString id).toList = [] := by rw [String.isEmpty_iff.mp hempty]; rfl
    rw [hlist] at hnil
    exact absurd (congrArg List.length hnil) (by simp [WireText.uuidText])
  unfold uuid
  rw [h]
  dsimp only
  rw [hstrip, hfull, if_neg Bool.false_ne_true, hlist, WireText.uuidOfText?_uuidText hid]

def settingString : Except HandlerError String :=
  match values.lookup key with
  | some (.str value) =>
    if (strip value).isEmpty then permanent s!"生效配置字符串无效：{key}" else .ok value
  | _ => permanent s!"生效配置字符串无效：{key}"

def settingInt : Except HandlerError ℤ :=
  match values.lookup key with
  | some (.int value) => .ok value
  | _ => permanent s!"生效配置整数无效：{key}"

def settingNumber : Except HandlerError ℚ :=
  match values.lookup key with
  | some (.int value) => .ok value
  | some (.float value) => .ok value
  | _ => permanent s!"生效配置数值无效：{key}"

def settingBool : Except HandlerError Bool :=
  match values.lookup key with
  | some (.bool value) => .ok value
  | _ => permanent s!"生效配置布尔值无效：{key}"

def payloadNumber (default : ℚ) : Except HandlerError ℚ :=
  match values.lookup key with
  | none => .ok default
  | some (.int value) => .ok value
  | some (.float value) => .ok value
  | some _ => permanent s!"主动行为载荷数值无效：{key}"

def payloadDatetime (ports : Ports) : Except HandlerError (Option Datetime) :=
  match values.lookup key with
  | none | some .null => .ok none
  | some (.str value) =>
    match ports.fromIsoFormat value with
    | none => permanent s!"主动行为载荷时间无效：{key}"
    | some parsed =>
      if parsed.hasZone then .ok (some parsed.instant)
      else permanent s!"主动行为载荷时间缺少时区：{key}"
  | some _ => permanent s!"主动行为载荷时间无效：{key}"

/-- `_action_text`, with `_action_value`. -/
def actionText (maximum : ℕ) : Except HandlerError String :=
  match values.lookup key with
  | none | some .null => permanent s!"主动行为载荷缺少字段：{key}"
  | some (.str value) =>
    if (strip value).isEmpty ∨ maximum < (strip value).length then
      permanent s!"主动行为载荷字符串无效：{key}"
    else .ok (strip value)
  | some _ => permanent s!"主动行为载荷字符串无效：{key}"

def actionOptionalText (maximum : ℕ) : Except HandlerError (Option String) :=
  match values.lookup key with
  | none | some .null => .ok none
  | some (.str value) =>
    if maximum < (strip value).length then permanent s!"主动行为载荷字符串无效：{key}"
    else .ok (if (strip value).isEmpty then none else some (strip value))
  | some _ => permanent s!"主动行为载荷字符串无效：{key}"

def actionUuid : Except HandlerError UUID := do
  let value ← actionText values key 36
  found (WireText.uuidOfText? value.toList) (.permanentTaskError s!"主动行为载荷 UUID 无效：{key}")

end readers

/-- What `_proactive_payload` reads for the channel. -/
structure ProactivePayload where
  channelId : UUID
  recipientId : String
  message : String
  threadId : Option String
  editMessageId : Option String
  requestStreaming : Bool

def requestStreaming (payload : JsonObject) : Except HandlerError Bool :=
  match payload.lookup "request_streaming" with
  | none => .ok false
  | some (.bool value) => .ok value
  | some _ => permanent "主动消息载荷 request_streaming 格式无效"

def proactivePayload (action : ScheduledAction) : Except HandlerError ProactivePayload := do
  let channelId ← actionUuid action.payload "channel_id"
  let recipientId ← actionText action.payload "recipient_id" 255
  let message ← actionText action.payload "message" 20000
  let threadId ← actionOptionalText action.payload "thread_id" 255
  let editMessageId ← actionOptionalText action.payload "edit_message_id" 255
  let requestStreaming ← requestStreaming action.payload
  .ok ⟨channelId, recipientId, message, threadId, editMessageId, requestStreaming⟩

/-- The arguments of `ChannelService.deliver`. -/
structure Delivery where
  tenantId : UUID
  agentId : UUID
  payload : ProactivePayload
  idempotencyKey : String

/-- `_dispatch_proactive` up to its call of the channel service. -/
def dispatchProactive (ports : Ports) (action : ScheduledAction) : Except HandlerError Delivery := do
  require ports.hasChannelService (.permanentTaskError "主动消息渠道服务尚未配置")
  let payload ← proactivePayload action
  .ok ⟨action.tenantId, action.agentId, payload, s!"proactive:{uuidString action.id}"⟩

def boundaryMarkers : List String := ["do_not_contact", "不主动联系", "禁止主动"]

def boundaryBlock (ports : Ports) (relation : Option Relationship) : Bool :=
  relation.any fun relation ↦ relation.boundaries.any fun boundary ↦
    boundaryMarkers.any fun marker ↦ decide (marker.toList <:+: (ports.casefold boundary).toList)

/-- The policy that the effective configuration sets. -/
def policyOf (values : JsonObject) : Except HandlerError ProactivePolicy := do
  let enabled ← settingBool values "proactive.enabled"
  let minimumScore ← settingNumber values "proactive.minimum_score"
  let dailyBudget ← settingInt values "proactive.daily_message_budget"
  let quietHoursStart ← settingInt values "proactive.quiet_hours_start"
  let quietHoursEnd ← settingInt values "proactive.quiet_hours_end"
  let requireRecentUserDays ← settingInt values "proactive.require_recent_user_days"
  .ok ⟨enabled, minimumScore, dailyBudget.toNat, quietHoursStart, quietHoursEnd,
    requireRecentUserDays⟩

/-- The configuration and the clock as the execution has read them. -/
structure Settings where
  values : JsonObject
  zone : ZoneInfo
  now : Datetime

def settingsOf (ports : Ports) (values : JsonObject) (now : Datetime) :
    Except HandlerError Settings := do
  let name ← settingString values "system.default_timezone"
  let zone ← found (ports.zoneInfo name) (.permanentTaskError "用户时区配置无效")
  .ok ⟨values, zone, now⟩

def contextOf (action : ScheduledAction) (settings : Settings) (relation : Option Relationship)
    (blocked : Bool) (lastActivity : Datetime) : Except HandlerError ProactiveContext := do
  let importance ← payloadNumber action.payload "importance" (1 / 2)
  let confidence ← payloadNumber action.payload "confidence" (1 / 2)
  .ok {
    localHour := settings.zone.hour settings.now
    daysSinceUserActivity :=
      max 0 (((settings.now : ℚ) - lastActivity) / (1000000 * 86400))
    importance
    confidence
    affinity := (relation.map Relationship.affinity).getD 0
    trust := (relation.map Relationship.trust).getD 0
    familiarity := (relation.map Relationship.familiarity).getD 0
    usedBudget := 0
    socialCost := action.socialCost
    hasBoundaryBlock := blocked }

def checkPayload (action : ScheduledAction) : Except HandlerError Unit :=
  if action.kind = .proactiveMessage then (proactivePayload action).map fun _ ↦ () else .ok ()

/-- The call of `evaluate` that the execution makes when it has read the relationship. -/
def evaluationOf (ports : Ports) (tenantId : UUID) (action : ScheduledAction) (settings : Settings)
    (relation : Option Relationship) :
    Except HandlerError ScheduledActionService.Evaluation := do
  let activity ← payloadDatetime action.payload "last_user_activity_at" ports
  checkPayload action
  let policy ← policyOf settings.values
  let context ← contextOf action settings relation (boundaryBlock ports relation)
    (activity.getD action.createdAt)
  .ok {
    tenantId
    actionId := action.id
    policy
    context
    budgetDate := settings.zone.date settings.now
    phase := .getScheduledAction }

/-- What `_in_quiet_hours` raises. -/
def quietHoursError (hour : ℤ) : String :=
  if 0 ≤ hour ∧ hour ≤ 23 then "安静时段小时必须位于 0 到 23 之间"
  else "本地小时必须位于 0 到 23 之间"

/-- What the next repository call of `evaluate` makes the call return or raise; `none` if it goes
on. -/
def evaluateAnswer (evaluation : ScheduledActionService.Evaluation) (s : TaskStore) :
    Option (Except HandlerError ScheduledAction) :=
  match evaluation.phase with
  | .getScheduledAction =>
    match getScheduledAction evaluation.tenantId evaluation.actionId s with
    | none =>
      some (permanent s!"定时行为不存在：{uuidString evaluation.actionId}")
    | some action => if action.status ≠ .pending then some (.ok action) else none
  | .socialBudgetUsed .. =>
    if (ProactivePolicyEvaluator.inQuietHours evaluation.context.localHour
        evaluation.policy.quietHoursStart evaluation.policy.quietHoursEnd).isNone then
      some (.error (.valueError (quietHoursError evaluation.context.localHour)))
    else none
  | .decideScheduledAction decision budgetUsage now =>
    match decideScheduledAction evaluation.tenantId evaluation.actionId decision budgetUsage
        evaluation.policy.dailyBudget now s with
    | .error _ => some (.error .integrityError)
    | .ok (none, _) =>
      some (.error (.taskNotFound s!"定时行为不存在：{uuidString evaluation.actionId}"))
    | .ok (some action, _) => some (.ok action)
  | .returned => none

/-- Where an execution of `handle` stands: what it does next, with what it has read so far. -/
inductive Phase
  | getScheduledAction
  | resolveEffective (action : ScheduledAction)
  | getRelationship (action : ScheduledAction) (settings : Settings)
  | evaluate (evaluation : ScheduledActionService.Evaluation)
  | deliver (action : ScheduledAction) (delivery : Delivery)
  | returned
  | raised (error : HandlerError)
  | settled

/-- The execution has an action to act on: it is delivered if it is a dispatched message. -/
def dispatch (ports : Ports) (action : ScheduledAction) : Phase :=
  if action.status = .dispatched ∧ action.kind = .proactiveMessage then
    match dispatchProactive ports action with
    | .error error => .raised error
    | .ok delivery => .deliver action delivery
  else .returned

/-- The configuration, the relationships and the time that an execution reads. -/
structure Surroundings where
  values : UUID → UUID → UUID → JsonObject
  memory : MemoryStore
  clock : Datetime

def relationOf (memory : MemoryStore) (action : ScheduledAction) : Option Relationship :=
  memory.relationships.find? ⟨action.tenantId, action.agentId, action.userId⟩

/-- The next step of an execution of the job. `failure` is what the channel service raises. -/
def handle (ports : Ports) (job : BackgroundJob) (around : Surroundings) (usageId : UUID)
    (failure : Option HandlerError) (s : TaskStore) : Phase → Phase × TaskStore
  | .getScheduledAction =>
    match uuid job.payload "scheduled_action_id" with
    | .error error => (.raised error, s)
    | .ok actionId =>
      match getScheduledAction job.tenantId actionId s with
      | none => (.raised (.permanentTaskError s!"定时行为不存在：{uuidString actionId}"), s)
      | some action =>
        if action.status ≠ .pending then (dispatch ports action, s)
        else (.resolveEffective action, s)
  | .resolveEffective action =>
    match settingsOf ports (around.values job.tenantId action.agentId action.userId)
        around.clock with
    | .error error => (.raised error, s)
    | .ok settings => (.getRelationship action settings, s)
  | .getRelationship action settings =>
    match evaluationOf ports job.tenantId action settings (relationOf around.memory action) with
    | .error error => (.raised error, s)
    | .ok evaluation => (.evaluate evaluation, s)
  | .evaluate evaluation =>
    let (next, s') := ScheduledActionService.evaluate evaluation around.clock usageId s
    match evaluateAnswer evaluation s with
    | none => (.evaluate next, s')
    | some (.error error) => (.raised error, s')
    | some (.ok action) => (dispatch ports action, s')
  | .deliver _ _ =>
    match failure with
    | some error => (.raised error, s)
    | none => (.returned, s)
  | phase => (phase, s)

end CyberNetizen.Application.ScheduledActionTaskHandler
