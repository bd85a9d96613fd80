import CyberNetizen.Application.TaskService
import CyberNetizen.Domain.Channel
import CyberNetizen.Domain.Evaluation
import CyberNetizen.Lib.Base64
import CyberNetizen.Lib.JsonText
import CyberNetizen.Lib.Table
import CyberNetizen.Lib.WireText

namespace CyberNetizen.Application

open Domain JsonText KeyedTable Signatures
open WireText (utf8 utf8Text?)

inductive EvaluationApprovalError
  | validation (message : String)
  | conflict (message : String)
  | notFound (message : String)
  | signing (message : String)
  deriving DecidableEq

structure EvaluationApprovalStore where
  decisions : Table EvaluationDecisionRecord.id
  approvals : Table fun record : EvaluationDecisionApprovalRecord ↦ record.decisionId

def EvaluationApprovalStore.empty : EvaluationApprovalStore := ⟨.empty, .empty⟩

namespace EvaluationApprovalRepository

def getDecision (s : EvaluationApprovalStore) (decisionId tenantId agentId : UUID) :
    Option EvaluationDecisionRecord :=
  (s.decisions.find? decisionId).filter fun row ↦ row.tenantId = tenantId ∧ row.agentId = agentId

def getApproval (s : EvaluationApprovalStore) (decisionId tenantId agentId : UUID) :
    Option EvaluationDecisionApprovalRecord :=
  (s.approvals.find? decisionId).filter fun row ↦ row.tenantId = tenantId ∧ row.agentId = agentId

def saveApproval (s : EvaluationApprovalStore) (record : EvaluationDecisionApprovalRecord) :
    Except EvaluationApprovalError EvaluationApprovalStore :=
  match s.approvals.insert? record with
  | none => .error (.conflict "评测决策已经存在终态审批")
  | some approvals => .ok { s with approvals }

end EvaluationApprovalRepository

def canonicalJson (v : Value) : Bytes := utf8 (dumps v)

structure Crypto where
  sha256Hex : Bytes → String
  scheme : Scheme

namespace Ed25519EvaluationApprovalSigner

variable (crypto : Crypto)

/-- `sign`, with the key as the secret store gives it: nothing if the store cannot read it. -/
def sign (storedKey : Option (Option String)) (payload : Bytes) :
    Except EvaluationApprovalError EvaluationDecisionSignature :=
  match storedKey with
  | none => .error (.signing "评测审批签名密钥无法安全读取")
  | some none => .error (.signing "当前 Agent 尚未配置评测审批签名密钥")
  | some (some encodedKey) =>
    match (Base64.decode? encodedKey.toList).filter fun seed ↦ seed.length = 32 with
    | none => .error (.signing "评测审批签名密钥必须是 32 字节 Ed25519 seed 的 Base64 编码")
    | some seed => .ok
        { algorithm := "Ed25519"
          keyId := crypto.sha256Hex (crypto.scheme.publicKey seed)
          publicKey := crypto.scheme.publicKey seed
          value := crypto.scheme.sign seed payload }

def verify (payload : Bytes) (signature : EvaluationDecisionSignature) : Bool :=
  if signature.algorithm ≠ "Ed25519" ∨ signature.publicKey.length ≠ 32 then false
  else if crypto.sha256Hex signature.publicKey ≠ signature.keyId then false
  else crypto.scheme.verify signature.publicKey payload signature.value

end Ed25519EvaluationApprovalSigner

namespace EvaluationApprovalService

open EvaluationApprovalRepository

section proofs

def releaseReference (facts : EvaluationApprovalFacts) : Option (String × String) :=
  match facts.releaseEnvironment, facts.changeReference with
  | some environment, some changeId => some (environment.value, changeId)
  | _, _ => none

def releaseJson : Option (String × String) → Value
  | none => .null
  | some (environment, changeId) =>
    .dict [("environment", .str environment), ("change_id", .str changeId)]

/-- What is signed. -/
def approvalPayload (decisionSha256 : String) (facts : EvaluationApprovalFacts) : Value :=
  .dict [
    ("schema_version", .int 1),
    ("id", .str (uuidString facts.id)),
    ("decision_id", .str (uuidString facts.decisionId)),
    ("decision_sha256", .str decisionSha256),
    ("tenant_id", .str (uuidString facts.tenantId)),
    ("agent_id", .str (uuidString facts.agentId)),
    ("approved_by", .str (uuidString facts.approvedBy)),
    ("approved_at", .str (isoformat facts.approvedAt)),
    ("outcome", .str facts.outcome.value),
    ("reason", .str facts.reason.value),
    ("release_reference", releaseJson (releaseReference facts)),
    ("automatic_actions_allowed", .bool false)]

def signatureJson (signature : EvaluationDecisionSignature) : Value :=
  .dict [
    ("algorithm", .str signature.algorithm),
    ("key_id", .str signature.keyId),
    ("public_key", .str (String.ofList (Base64.encode signature.publicKey))),
    ("value", .str (String.ofList (Base64.encode signature.value)))]

def approvalProof (payload : Value) (signature : EvaluationDecisionSignature) : Value :=
  .dict [("schema_version", .int 1), ("payload", payload), ("signature", signatureJson signature)]

end proofs

section create

/-- The arguments of `create_approval`. -/
structure Command where
  decisionId : UUID
  tenantId : UUID
  actorId : UUID
  outcome : EvaluationApprovalOutcome
  reason : EvaluationApprovalReason
  releaseEnvironment : Option EvaluationReleaseEnvironment
  changeReference : Option String
  deriving DecidableEq

/-- What the call meets: the new identifier, the clock and the configured key. -/
structure Environment where
  approvalId : UUID
  approvedAt : Datetime
  storedKey : Option (Option String)
  deriving DecidableEq

def isChangeCharacter (c : Char) : Bool :=
  c.isAlphanum || c = '.' || c = '_' || c = ':' || c = '/' || c = '-'

/-- `_CHANGE_REFERENCE_PATTERN`. -/
def isChangeReference (l : List Char) : Bool :=
  match l with
  | [] => false
  | c :: rest => c.isAlphanum && rest.all isChangeCharacter && rest.length ≤ 119

def validateReleaseReference (outcome : EvaluationApprovalOutcome)
    (releaseEnvironment : Option EvaluationReleaseEnvironment) (changeReference : Option String) :
    Except EvaluationApprovalError (Option String) :=
  let normalized := (changeReference.filter fun text ↦ !text.isEmpty).map strip
  if releaseEnvironment.isNone ≠ normalized.isNone then
    .error (.validation "发布环境和变更编号必须同时填写")
  else if outcome = .rejected ∧ releaseEnvironment.isSome then
    .error (.validation "驳回审批不能关联发布变更")
  else if normalized.any fun text ↦
      !isChangeReference text.toList || (text.toList.tails.any fun l ↦ "://".toList.isPrefixOf l) then
    .error (.validation "发布变更编号格式无效")
  else .ok normalized

def checkApproval (s : EvaluationApprovalStore) (agentId : UUID) (command : Command) :
    Except EvaluationApprovalError (EvaluationDecisionRecord × Option String) :=
  match getDecision s command.decisionId command.tenantId agentId with
  | none => .error (.notFound ("评测决策不存在：" ++ uuidString command.decisionId))
  | some decision =>
    if decision.createdBy = command.actorId then
      .error (.validation "决策创建人不能审批自己的评测决策")
    else if (getApproval s command.decisionId command.tenantId agentId).isSome then
      .error (.conflict "评测决策已经存在终态审批")
    else if command.outcome = .approved ∧ decision.outcome = .waitForEvidence then
      .error (.validation "等待更多证据的决策不能批准")
    else if command.outcome = .approved ∧ command.reason ≠ .evidenceConfirmed then
      .error (.validation "批准时必须使用证据已确认原因")
    else if command.outcome ≠ .approved ∧ command.reason = .evidenceConfirmed then
      .error (.validation "驳回时不能使用证据已确认原因")
    else (validateReleaseReference command.outcome command.releaseEnvironment
      command.changeReference).map fun reference ↦ (decision, reference)

variable (crypto : Crypto)

def approvalRecord (decisionSha256 : String) (facts : EvaluationApprovalFacts)
    (signature : EvaluationDecisionSignature) : EvaluationDecisionApprovalRecord :=
  let content := canonicalJson (approvalProof (approvalPayload decisionSha256 facts) signature)
  { facts with
    content
    sha256 := crypto.sha256Hex content }

/-- The approval is signed and saved. -/
def signApproval (s : EvaluationApprovalStore) (storedKey : Option (Option String))
    (decisionSha256 : String) (facts : EvaluationApprovalFacts) :
    Except EvaluationApprovalError EvaluationDecisionApprovalRecord × EvaluationApprovalStore :=
  match Ed25519EvaluationApprovalSigner.sign crypto storedKey
      (canonicalJson (approvalPayload decisionSha256 facts)) with
  | .error e => (.error e, s)
  | .ok signature =>
    if signature.algorithm ≠ "Ed25519" then
      (.error (.signing "审批证明只允许使用 Ed25519 签名"), s)
    else
      let record := approvalRecord crypto decisionSha256 facts signature
      match saveApproval s record with
      | .error e => (.error e, s)
      | .ok s => (.ok record, s)

def createApproval (s : EvaluationApprovalStore) (agentId : UUID) (command : Command)
    (env : Environment) :
    Except EvaluationApprovalError EvaluationDecisionApprovalRecord × EvaluationApprovalStore :=
  match checkApproval s agentId command with
  | .error e => (.error e, s)
  | .ok (decision, changeReference) =>
    signApproval crypto s env.storedKey decision.sha256
      { id := env.approvalId
        decisionId := decision.id
        tenantId := command.tenantId
        agentId
        approvedBy := command.actorId
        approvedAt := env.approvedAt
        outcome := command.outcome
        reason := command.reason
        releaseEnvironment := command.releaseEnvironment
        changeReference }

end create

section verify

variable (crypto : Crypto) (repr : Repr)

/-- `str` of a float, which differs from its JSON text for the values that are no numbers. -/
def floatText (t : List Char) : List Char :=
  if t = "NaN".toList then "nan".toList
  else if t = "Infinity".toList then "inf".toList
  else if t = "-Infinity".toList then "-inf".toList
  else t

/-- `str` of a value. The text of a list or an object is no part of a signature. -/
def textOf : Value → Option (List Char)
  | .null => some "None".toList
  | .bool b => some (if b then "True".toList else "False".toList)
  | .int n => some (intText n)
  | .float t => some (floatText t)
  | .str s => some s.toList
  | .list _ | .dict _ => none

def readSignature (signature : Value) : Option EvaluationDecisionSignature := do
  let algorithm ← (signature.get "algorithm").bind textOf
  let keyId ← (signature.get "key_id").bind textOf
  let publicKey ← ((signature.get "public_key").bind textOf).bind Base64.decode?
  let value ← ((signature.get "value").bind textOf).bind Base64.decode?
  return {
    algorithm := String.ofList algorithm
    keyId := String.ofList keyId
    publicKey, value }

/-- `== 1`, which also holds of `True` and `1.0`. -/
def equalsOne : Value → Bool
  | .int n => n = 1
  | .bool b => b
  | .float t => t = "1.0".toList
  | _ => false

def isText (s : String) : Value → Bool
  | .str t => t = s
  | _ => false

def isLiteralFalse : Value → Bool
  | .bool b => !b
  | _ => false

/-- The value is this release, or nothing if there is none. -/
def isRelease (expected : Option (String × String)) : Value → Bool
  | .null => expected = none
  | .dict entries =>
    match expected with
    | none => false
    | some (environment, changeId) => entries.length = 2 &&
        (entries.lookup "environment").any (isText environment) &&
        (entries.lookup "change_id").any (isText changeId)
  | _ => false

/-- `decision_hash_matches`: the proof says what the rows say. -/
def proofMatches (proof payload : Value) (decision : EvaluationDecisionRecord)
    (record : EvaluationDecisionApprovalRecord) (tenantId agentId : UUID) : Bool :=
  (proof.get "schema_version").any equalsOne &&
    (payload.get "schema_version").any equalsOne &&
    (payload.get "id").any (isText (uuidString record.id)) &&
    (payload.get "decision_id").any (isText (uuidString decision.id)) &&
    (payload.get "decision_sha256").any (isText decision.sha256) &&
    (payload.get "tenant_id").any (isText (uuidString tenantId)) &&
    (payload.get "agent_id").any (isText (uuidString agentId)) &&
    (payload.get "approved_by").any (isText (uuidString record.approvedBy)) &&
    (payload.get "approved_at").any (isText (isoformat record.approvedAt)) &&
    (payload.get "outcome").any (isText record.outcome.value) &&
    (payload.get "reason").any (isText record.reason.value) &&
    ((payload.get "release_reference").getD .null |> isRelease
      (releaseReference record.toEvaluationApprovalFacts)) &&
    (payload.get "automatic_actions_allowed").any isLiteralFalse

/-- The checks of the proof: it is canonical, it matches the rows, and it is signed. -/
def checkProof (decision : EvaluationDecisionRecord) (record : EvaluationDecisionApprovalRecord)
    (tenantId agentId : UUID) : Bool × Bool × Bool :=
  match (utf8Text? record.content).bind (loads repr) with
  | some (.dict entries) =>
    let proof := Value.dict entries
    let canonical := canonicalJson proof = record.content
    match proof.get "payload", proof.get "signature" with
    | some (.dict payload), some (.dict signature) =>
      (canonical, proofMatches proof (.dict payload) decision record tenantId agentId,
        match readSignature (.dict signature) with
        | none => false
        | some signature =>
          Ed25519EvaluationApprovalSigner.verify crypto (canonicalJson (.dict payload)) signature)
    | _, _ => (canonical, false, false)
  | _ => (false, false, false)

def verifyApproval (s : EvaluationApprovalStore) (decisionId tenantId agentId : UUID)
    (now : Datetime) : Except EvaluationApprovalError EvaluationApprovalVerification :=
  match getDecision s decisionId tenantId agentId with
  | none => .error (.notFound ("评测决策不存在：" ++ uuidString decisionId))
  | some decision =>
    match getApproval s decisionId tenantId agentId with
    | none => .error (.notFound ("评测决策尚无审批：" ++ uuidString decisionId))
    | some record =>
      let contentHashValid : Bool := crypto.sha256Hex record.content = record.sha256
      let (canonicalContentValid, decisionHashMatches, signatureValid) :=
        checkProof crypto repr decision record tenantId agentId
      .ok
        { valid := contentHashValid && canonicalContentValid && decisionHashMatches && signatureValid
          contentHashValid, canonicalContentValid, decisionHashMatches, signatureValid
          verifiedAt := now }

end verify

end EvaluationApprovalService

end CyberNetizen.Application
