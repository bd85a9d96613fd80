import CyberNetizen.Cognition.ContextCompressor
import CyberNetizen.Cognition.Credentials
import CyberNetizen.Cognition.Reflection
import CyberNetizen.Domain.Memory

namespace CyberNetizen.Cognition

open Application (isSpace strip)
open Domain (MemoryKind MemorySensitivity)

inductive MemoryWriteMode
  | highPrecision | balanced
  deriving DecidableEq

/-- The `ValueError` of a text with nothing in it. -/
structure EmptyReflection where
  message : String
  deriving DecidableEq

structure MemoryPlan where
  title : String
  episodeSummary : String
  memoryContent : Option String
  memoryKind : Option MemoryKind
  memorySensitivity : Option MemorySensitivity
  memoryDecision : MemoryWriteDecision
  memoryReasonCodes : List String
  importance : ℚ
  confidence : ℚ
  emotionalWeight : ℚ

def MemoryPlan.isWritten (plan : MemoryPlan) (minimumImportance : ℚ) : Bool :=
  plan.memoryDecision = .write && plan.memoryKind.isSome && plan.memorySensitivity.isSome &&
    plan.memoryContent.isSome && minimumImportance ≤ plan.importance

namespace DeterministicReflectionEngine

def credentialMarkers : List String :=
  ["密码", "验证码", "访问令牌", "密钥", "私钥", "助记词", "银行卡号", "信用卡号", "cvv", "password",
    "api key", "access token", "private key", "secret key"]

def directMemoryMarkers : List String :=
  ["请记住", "帮我记住", "你要记得", "别忘了", "remember that", "please remember"]

def preferenceMarkers : List String :=
  ["我喜欢", "我不喜欢", "我偏好", "我习惯", "我讨厌", "我更喜欢", "叫我", "称呼我", "i like", "i dislike",
    "i prefer"]

def personalFactMarkers : List String :=
  ["我的生日", "我生日", "我的工作", "我在工作", "我住在", "我来自", "我的家人", "我养了", "我是个", "我是一个",
    "我不能吃", "我过敏", "my birthday", "i live in", "i work as"]

def planMarkers : List String :=
  ["我计划", "我的计划", "我的目标", "我打算", "我要在", "我准备", "i plan to", "my goal is"]

def importantEventMarkers : List String :=
  ["我毕业", "我入职", "我离职", "我搬家", "我结婚", "我分手", "我确诊", "我获奖", "我的面试", "我的考试"]

def smallTalk : List String :=
  ["你好", "嗨", "哈喽", "早", "早上好", "中午好", "晚上好", "晚安", "在吗", "哈哈", "哈哈哈", "嗯", "哦", "好的",
    "收到", "hello", "hi", "good morning", "good night"]

section decision

variable (unicode : Unicode) (normalized folded : String)

def credentialPatterns : List Regex.Pattern :=
  [HierarchicalContextCompressor.skKey unicode 16, HierarchicalContextCompressor.akiaKey unicode,
    privateKeyLine "-----BEGIN "]

def looksLikeCredential : Bool :=
  (credentialPatterns unicode).any fun pattern ↦ Regex.search pattern normalized.toList

/-- `value.endswith(("?", "？"))` -/
def endsAsQuestion : Bool :=
  match normalized.toList.getLast? with
  | none => false
  | some c => c = '?' || c = '？'

def isSelfDisclosure : Bool :=
  contains folded ["我", "我的", "i ", "i'm ", "my "] && 12 ≤ normalized.length &&
    !endsAsQuestion normalized

def memoryDecision (mode : MemoryWriteMode) :
    MemoryWriteDecision × Option MemoryKind × List String :=
  if contains folded credentialMarkers || looksLikeCredential unicode normalized then
    (.skipCredential, none, ["credential_content"])
  else
    let direct := contains folded directMemoryMarkers
    let boundary := contains folded boundaryMarkers
    let preference := contains folded preferenceMarkers
    let personalFact := contains folded personalFactMarkers
    let plan := contains folded planMarkers
    let importantEvent := contains folded importantEventMarkers
    let reasons := ([(direct, "explicit_memory_request"), (boundary, "interaction_boundary"),
      (preference, "stable_preference"), (personalFact, "personal_fact"), (plan, "future_plan"),
      (importantEvent, "important_event")].filter Prod.fst).map Prod.snd
    let isQuestion := endsAsQuestion normalized
    if isQuestion && !direct && !boundary then (.skipQuestion, none, ["question_only"])
    else if !reasons.isEmpty then
      (.write, some (if boundary then .relational
        else if preference || personalFact then .semantic else .episodic), reasons)
    else if mode = .balanced && isSelfDisclosure normalized folded then
      (.write, some .episodic, ["self_disclosure"])
    else if folded ∈ smallTalk then (.skipSmallTalk, none, ["small_talk"])
    else if isQuestion then (.skipQuestion, none, ["question_only"])
    else (.skipLowSignal, none, ["low_signal"])

end decision

def importanceWeight (code : String) : ℚ :=
  ([("explicit_memory_request", 42 / 100), ("interaction_boundary", 38 / 100),
    ("stable_preference", 3 / 10), ("personal_fact", 32 / 100), ("future_plan", 28 / 100),
    ("important_event", 36 / 100), ("self_disclosure", 28 / 100)].lookup code).getD 0

def importance (reasonCodes : List String) (normalized : String) : ℚ :=
  let signal := (reasonCodes.map importanceWeight).max?.getD 0
  ProactivePolicyEvaluator.round6
    (min (98 / 100) (2 / 10 + signal + (min normalized.length 240 : ℕ) / 240 * (1 / 10)))

def confidence (reasonCodes : List String) (decision : MemoryWriteDecision) : ℚ :=
  if decision ≠ .write then 9 / 10
  else if "explicit_memory_request" ∈ reasonCodes then 95 / 100
  else if "self_disclosure" ∈ reasonCodes then 68 / 100
  else 84 / 100

def memoryContent (excerpt : String) (kind : MemoryKind) : String :=
  (match kind with
    | .relational => "用户明确表达了互动边界或沟通偏好："
    | .semantic => "用户明确表达了较稳定的信息："
    | .episodic => "用户提到了一项值得保持连续性的计划或经历："
    | _ => "用户明确表达：") ++ excerpt

def memorySensitivity (reasonCodes : List String) : MemorySensitivity :=
  if "self_disclosure" ∈ reasonCodes then .sensitive
  else if ["interaction_boundary", "personal_fact", "future_plan", "important_event"].any
      (· ∈ reasonCodes) then .personal
  else if "stable_preference" ∈ reasonCodes then .normal
  else .personal

def episodeTitle (reasonCodes : List String) (signals : List RelationshipSignal) : String :=
  match [("interaction_boundary", "用户边界表达"), ("stable_preference", "用户偏好交流"),
      ("personal_fact", "用户信息交流"), ("future_plan", "用户计划交流"),
      ("important_event", "重要经历交流"), ("explicit_memory_request", "用户明确记忆请求")].find?
      fun p ↦ p.1 ∈ reasonCodes with
  | some p => p.2
  | none =>
    if .correction ∈ signals then "用户纠错互动"
    else if .hostility ∈ signals then "关系边界互动"
    else "普通对话互动"

section plan

variable (unicode : Unicode)

/-- `" ".join(text.strip().split())` -/
def normalizedText (text : String) : String := HierarchicalContextCompressor.collapse (strip text)

def memoryPlan (normalized folded : String) (signals : List RelationshipSignal)
    (mode : MemoryWriteMode) : MemoryPlan :=
  let (decision, memoryKind, reasonCodes) := memoryDecision unicode normalized folded mode
  let excerpt := String.ofList (normalized.toList.take 360)
  { title := episodeTitle reasonCodes signals
    episodeSummary := "用户与 Agent 完成一次可追溯互动；反思仅保留安全分类与必要记忆。"
    memoryContent := if decision = .write then memoryKind.map (memoryContent excerpt) else none
    memoryKind
    memorySensitivity := if decision = .write then some (memorySensitivity reasonCodes) else none
    memoryDecision := decision
    memoryReasonCodes := reasonCodes
    importance := importance reasonCodes normalized
    confidence := confidence reasonCodes decision
    emotionalWeight :=
      if .warmth ∈ signals then 25 / 100
      else if .hostility ∈ signals ∨ .correction ∈ signals then -35 / 100
      else 0 }

def reflectText (text : String) (relationship : RelationshipContext) (policy : ReflectionPolicy)
    (mode : MemoryWriteMode) : Except EmptyReflection (ReflectionPlan × MemoryPlan) :=
  let normalized := normalizedText text
  if normalized.isEmpty then .error ⟨"反思输入不能为空"⟩
  else
    let folded := unicode.casefold normalized
    let plan := memoryPlan unicode normalized folded (relationshipSignals folded) mode
    .ok (reflect ⟨folded, plan.memoryDecision⟩ relationship policy, plan)

end plan

end DeterministicReflectionEngine

end CyberNetizen.Cognition
