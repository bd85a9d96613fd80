import Mathlib.Data.List.Infix
import CyberNetizen.Cognition.Proactive

namespace CyberNetizen.Cognition

inductive MemoryWriteDecision
  | write | skipCredential | skipSmallTalk | skipQuestion | skipLowSignal
  deriving DecidableEq

inductive RelationshipSignal
  | neutral | warmth | selfDisclosure | correction | boundary | hostility
  deriving DecidableEq

def RelationshipSignal.value : RelationshipSignal → String
  | .neutral => "neutral"
  | .warmth => "warmth"
  | .selfDisclosure => "self_disclosure"
  | .correction => "correction"
  | .boundary => "boundary"
  | .hostility => "hostility"

structure RelationshipContext where
  affinity : ℚ
  trust : ℚ
  familiarity : ℚ
  interactionCount : ℕ
  boundaries : List String

/-- What `__post_init__` accepts. -/
def RelationshipContext.valid (context : RelationshipContext) : Bool :=
  [context.affinity, context.trust, context.familiarity].all fun value ↦ 0 ≤ value && value ≤ 1

/-- The steps of the published configuration, which `__post_init__` keeps within 0 and 0.2. -/
structure ReflectionPolicy where
  positiveRelationshipStep : ℚ
  negativeRelationshipStep : ℚ
  familiarityStep : ℚ
  steps : ∀ step ∈ [positiveRelationshipStep, negativeRelationshipStep, familiarityStep],
    0 ≤ step ∧ step ≤ 2 / 10

/-- The user message a run answers: its folded text and what the engine decides about a memory. -/
structure ReflectionSource where
  folded : String
  decision : MemoryWriteDecision

structure ReflectionPlan where
  relationshipSignals : List RelationshipSignal
  affinityDelta : ℚ
  trustDelta : ℚ
  familiarityDelta : ℚ
  relationshipSummary : String
  boundaries : List String

namespace DeterministicReflectionEngine

def boundaryMarkers : List String :=
  ["不要主动联系", "别主动联系", "不要给我发消息", "别给我发消息", "不要提醒我", "别提醒我", "不要再问",
    "别再问", "我不想聊", "不想谈这个", "do not contact me", "don't contact me"]

def warmthMarkers : List String :=
  ["谢谢", "感谢", "很开心", "太好了", "很贴心", "信任你", "喜欢和你聊", "thank you", "thanks"]

def disclosureMarkers : List String :=
  ["我有点害怕", "我很害怕", "我很担心", "我有点焦虑", "我很难过", "只告诉你", "跟你说个秘密",
    "i am afraid", "i'm worried"]

def correctionMarkers : List String :=
  ["你记错", "不是这个", "我说的是", "你理解错", "别误会", "that's not what i said"]

def hostilityMarkers : List String :=
  ["闭嘴", "滚开", "烦死了", "讨厌你", "别烦我", "你真蠢", "shut up", "go away"]

def contains (value : String) (markers : List String) : Bool :=
  markers.any fun marker ↦ marker.toList <:+: value.toList

def relationshipSignals (folded : String) : List RelationshipSignal :=
  let signals :=
    ([(hostilityMarkers, .hostility), (boundaryMarkers, .boundary),
      (correctionMarkers, .correction), (disclosureMarkers, .selfDisclosure),
      (warmthMarkers, .warmth)].filter fun p ↦ contains folded p.1).map Prod.snd
  if signals.isEmpty then [.neutral] else signals

/-- `round(max(-0.2, min(0.2, value)), 6)`. -/
def boundedDelta (value : ℚ) : ℚ :=
  ProactivePolicyEvaluator.round6 (max (-2 / 10) (min (2 / 10) value))

/-- The affinity, trust and familiarity deltas. -/
def relationshipDeltas (current : RelationshipContext) (signals : List RelationshipSignal)
    (policy : ReflectionPolicy) (decision : MemoryWriteDecision) : ℚ × ℚ × ℚ :=
  let hostile := RelationshipSignal.hostility ∈ signals
  let affinityDelta :=
    if hostile then -min current.affinity policy.negativeRelationshipStep
    else if .warmth ∈ signals then policy.positiveRelationshipStep * (1 - current.affinity)
    else 0
  let trustDelta :=
    if hostile then -min current.trust (policy.negativeRelationshipStep / 2)
    else
      (if .selfDisclosure ∈ signals then
        policy.positiveRelationshipStep / 2 * (1 - current.trust) else 0)
      - (if .correction ∈ signals then
        min current.trust (policy.negativeRelationshipStep / 2) else 0)
  let familiarityFactor : ℚ :=
    if decision = .skipSmallTalk then 25 / 100
    else if hostile then 2 / 10
    else if decision = .skipQuestion ∨ decision = .skipLowSignal then 1 / 2
    else 1
  let familiarityDelta := policy.familiarityStep * familiarityFactor * (1 - current.familiarity)
  (boundedDelta affinityDelta, boundedDelta trustDelta, boundedDelta familiarityDelta)

def signalLabel : RelationshipSignal → String
  | .neutral => "完成一次普通互动"
  | .warmth => "用户表达了友好或感谢"
  | .selfDisclosure => "用户进行了谨慎的自我披露"
  | .correction => "用户纠正了 Agent 的理解"
  | .boundary => "用户明确了互动边界"
  | .hostility => "用户表达了拒绝或敌意"

def relationshipSummary (signals : List RelationshipSignal) : String :=
  "；".intercalate (signals.map signalLabel) ++ "；关系状态按有界规则校准。"

def contactMarkers : List String :=
  ["不要主动联系", "别主动联系", "不要给我发消息", "别给我发消息", "不要提醒我", "别提醒我",
    "do not contact me", "don't contact me"]

def topicMarkers : List String := ["不要再问", "别再问", "我不想聊", "不想谈这个"]

def boundaries (folded : String) : List String :=
  (if contains folded contactMarkers then ["不主动联系"] else [])
  ++ (if contains folded topicMarkers then ["尊重用户暂不讨论的话题"] else [])

def reflect (source : ReflectionSource) (relationship : RelationshipContext)
    (policy : ReflectionPolicy) : ReflectionPlan :=
  let signals := relationshipSignals source.folded
  let (affinityDelta, trustDelta, familiarityDelta) :=
    relationshipDeltas relationship signals policy source.decision
  { relationshipSignals := signals
    affinityDelta
    trustDelta
    familiarityDelta
    relationshipSummary := relationshipSummary signals
    boundaries := boundaries source.folded }

end DeterministicReflectionEngine

end CyberNetizen.Cognition
