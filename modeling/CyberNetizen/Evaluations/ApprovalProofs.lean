import CyberNetizen.Application.EvaluationApprovalService
import CyberNetizen.Lib.Machine
import CyberNetizen.Lib.JsonRoundTrip

namespace CyberNetizen.Evaluations.Approvals

open Domain Application Application.EvaluationApprovalService JsonText KeyedTable Signatures
open WireText (utf8 utf8Text? utf8Text?_utf8)

/-- What the services do: a decision is recorded, or an approval of one is requested. -/
inductive Action
  | saveDecision (id tenantId agentId createdBy : UUID) (createdAt : Datetime)
      (outcome : EvaluationDecisionOutcome) (reason : EvaluationDecisionReason) (content : Bytes)
  | createApproval (agentId : UUID) (command : Command) (env : Environment)

abbrev Answer := Option (Except EvaluationApprovalError EvaluationDecisionApprovalRecord)

def step (crypto : Crypto) (s : EvaluationApprovalStore) :
    Action → Answer × EvaluationApprovalStore
  | .saveDecision id tenantId agentId createdBy createdAt outcome reason content =>
    (none, { s with decisions := (s.decisions.insert?
      { id, tenantId, agentId, createdBy, createdAt, outcome, reason, content
        sha256 := crypto.sha256Hex content }).getD s.decisions })
  | .createApproval agentId command env =>
    let (answer, s) := createApproval crypto s agentId command env
    (some answer, s)

def IsUuid (id : UUID) : Prop := id < 2 ^ 128

instance (id : UUID) : Decidable (IsUuid id) := inferInstanceAs (Decidable (id < 2 ^ 128))

/-- Identifiers and instants as the columns hold them. -/
structure HasColumnTypes (facts : EvaluationApprovalFacts) : Prop where
  id : IsUuid facts.id
  decisionId : IsUuid facts.decisionId
  tenantId : IsUuid facts.tenantId
  agentId : IsUuid facts.agentId
  approvedBy : IsUuid facts.approvedBy
  approvedAt : facts.approvedAt < WireText.endOfDays * 86400000000

def HasReleasePair (facts : EvaluationApprovalFacts) : Prop :=
  facts.releaseEnvironment.isSome = facts.changeReference.isSome

def Action.IsTyped : Action → Prop
  | .saveDecision id .. => IsUuid id
  | .createApproval agentId command env => IsUuid agentId ∧ IsUuid command.decisionId ∧
      IsUuid command.tenantId ∧ IsUuid command.actorId ∧ IsUuid env.approvalId ∧
      env.approvedAt < WireText.endOfDays * 86400000000

variable (repr : Repr)

def signedPayload (content : Bytes) : Option Bytes :=
  (((utf8Text? content).bind (loads repr)).bind fun proof ↦ proof.get "payload").map canonicalJson

def embeddedSignature (content : Bytes) : Option EvaluationDecisionSignature :=
  (((utf8Text? content).bind (loads repr)).bind fun proof ↦ proof.get "signature").bind readSignature

def embeddedKey (content : Bytes) : Option Bytes :=
  (embeddedSignature repr content).map EvaluationDecisionSignature.publicKey

/-- What the services have signed: the approvals of the store. -/
def IsSigned (s : EvaluationApprovalStore) (payload : Bytes) : Prop :=
  ∃ record ∈ s.approvals, ∃ decision ∈ s.decisions, decision.id = record.decisionId ∧
    payload = canonicalJson (approvalPayload decision.sha256 record.toEvaluationApprovalFacts)

/-- The content comes from a party without the key: a signature in it that the key accepts is one
that the services have made. -/
def IsUnforged (crypto : Crypto) (s : EvaluationApprovalStore) (publicKey content : Bytes) : Prop :=
  ∀ signature, embeddedSignature repr content = some signature → signature.publicKey = publicKey →
    Genuine crypto.scheme (IsSigned s) publicKey signature.value

/-- The rows are those that were approved. The content of the decision is compared through its
digest, the content of the approval through its signed part. -/
structure AreApproved (crypto : Crypto) (decision : EvaluationDecisionRecord)
    (record : EvaluationDecisionApprovalRecord) (decision' : EvaluationDecisionRecord)
    (record' : EvaluationDecisionApprovalRecord) : Prop where
  facts : record'.toEvaluationApprovalFacts = record.toEvaluationApprovalFacts
  payload : signedPayload repr record'.content = signedPayload repr record.content
  digest : record'.sha256 = crypto.sha256Hex record'.content
  decisionDigest : decision'.sha256 = decision.sha256
  decisionContent : crypto.sha256Hex decision'.content = decision'.sha256 →
    decision'.content = decision.content

end CyberNetizen.Evaluations.Approvals

namespace CyberNetizen.Evaluations.Approvals

open Domain Application Application.EvaluationApprovalRepository
open Application.EvaluationApprovalService JsonText KeyedTable Signatures
open WireText (utf8 utf8Text? utf8Text?_utf8)

section text

theorem utf8_injective : Function.Injective utf8 := by
  intro l l' h
  have hl := utf8Text?_utf8 l
  rw [h, utf8Text?_utf8] at hl
  exact (Option.some.inj hl).symm

variable {repr : Repr}

theorem loads_canonicalJson {v : Value} (h : WellFormed repr v) :
    (utf8Text? (canonicalJson v)).bind (loads repr) = some (sortKeys v) := by
  unfold canonicalJson
  rw [utf8Text?_utf8, Option.bind_some, loads_dumps h]

theorem canonicalJson_sortKeys (v : Value) : canonicalJson (sortKeys v) = canonicalJson v :=
  congrArg utf8 (dumps_sortKeys v)

end text

section proofs

variable (repr : Repr) (crypto : Crypto) (decisionSha256 : String)
  (facts : EvaluationApprovalFacts) (signature : EvaluationDecisionSignature)

theorem wellFormed_one : WellFormed repr (.int 1) := by
  unfold WellFormed
  decide

theorem wellFormed_releaseJson (release : Option (String × String)) :
    WellFormed repr (releaseJson release) := by
  cases release with
  | none => trivial
  | some pair => exact ⟨by simp, trivial, trivial, trivial⟩

theorem wellFormed_approvalPayload : WellFormed repr (approvalPayload decisionSha256 facts) := by
  refine ⟨by simp, wellFormed_one repr, trivial, trivial, trivial, trivial, trivial, trivial, trivial,
    trivial, trivial, ?_, trivial, trivial⟩
  exact wellFormed_releaseJson repr _

theorem wellFormed_signatureJson : WellFormed repr (signatureJson signature) :=
  ⟨by simp, trivial, trivial, trivial, trivial, trivial⟩

abbrev proofOf : Value := approvalProof (approvalPayload decisionSha256 facts) signature

theorem wellFormed_proofOf : WellFormed repr (proofOf decisionSha256 facts signature) :=
  ⟨by simp, wellFormed_one repr, wellFormed_approvalPayload repr decisionSha256 facts,
    wellFormed_signatureJson repr signature, trivial⟩

theorem readSignature_signatureJson :
    readSignature (sortKeys (signatureJson signature)) = some signature := by
  have hget := get_sortKeys (wellFormed_signatureJson id signature)
  unfold readSignature
  rw [hget, hget, hget, hget]
  simp [signatureJson, Value.get, List.lookup_cons, sortKeys, textOf, Base64.decode?_encode]

theorem isRelease_releaseJson (release : Option (String × String)) :
    isRelease release (sortKeys (releaseJson release)) = true := by
  cases release with
  | none => simp [releaseJson, sortKeys, isRelease]
  | some pair =>
    have hget := get_sortKeys (wellFormed_releaseJson id (some pair))
    have henvironment := hget "environment"
    have hchange := hget "change_id"
    have hlength : ((sortEntries [("environment", Value.str pair.1),
        ("change_id", Value.str pair.2)]).insertionSort ByKey).length = 2 := by
      rw [List.length_insertionSort]
      rfl
    simp only [releaseJson, sortKeys, Value.get] at henvironment hchange ⊢
    unfold isRelease
    simp only [hlength, henvironment, hchange]
    simp [List.lookup_cons, sortKeys, isText]

theorem proofMatches_proofOf {decision : EvaluationDecisionRecord}
    {record : EvaluationDecisionApprovalRecord} (hdecision : decision.id = record.decisionId) :
    proofMatches
      (sortKeys (proofOf decision.sha256 record.toEvaluationApprovalFacts signature))
      (sortKeys (approvalPayload decision.sha256 record.toEvaluationApprovalFacts))
      decision record record.tenantId record.agentId = true := by
  have hpayload := get_sortKeys
    (wellFormed_approvalPayload id decision.sha256 record.toEvaluationApprovalFacts)
  have hproof := get_sortKeys
    (wellFormed_proofOf id decision.sha256 record.toEvaluationApprovalFacts signature)
  have hrelease := isRelease_releaseJson (releaseReference record.toEvaluationApprovalFacts)
  unfold proofMatches
  rw [hproof]
  simp only [hpayload]
  simp [approvalProof, approvalPayload, Value.get, List.lookup_cons, sortKeys, equalsOne, isText,
    isLiteralFalse, hdecision, hrelease]

variable {repr crypto decisionSha256 facts signature}

def signedBy (crypto : Crypto) (seed payload : Bytes) : EvaluationDecisionSignature where
  algorithm := "Ed25519"
  keyId := crypto.sha256Hex (crypto.scheme.publicKey seed)
  publicKey := crypto.scheme.publicKey seed
  value := crypto.scheme.sign seed payload

theorem verify_signedBy (hscheme : crypto.scheme.Correct) {seed : Bytes} (hseed : seed.length = 32)
    (payload : Bytes) :
    Ed25519EvaluationApprovalSigner.verify crypto payload (signedBy crypto seed payload) = true := by
  have hlength := hscheme.length seed hseed
  have haccepts := hscheme.accepts seed payload
  simp [Ed25519EvaluationApprovalSigner.verify, signedBy, hlength, haccepts]

theorem sign_eq_ok {storedKey : Option (Option String)} {payload : Bytes}
    (h : Ed25519EvaluationApprovalSigner.sign crypto storedKey payload = .ok signature) :
    ∃ seed, seed.length = 32 ∧ signature = signedBy crypto seed payload := by
  unfold Ed25519EvaluationApprovalSigner.sign at h
  split at h
  · cases h
  · cases h
  · split at h
    · cases h
    · rename_i seed hseed
      obtain ⟨-, hlength⟩ := Option.filter_eq_some_iff.mp hseed
      exact ⟨seed, of_decide_eq_true hlength, (Except.ok.inj h).symm⟩

def approvedBy (crypto : Crypto) (decisionSha256 : String) (facts : EvaluationApprovalFacts)
    (seed : Bytes) : EvaluationDecisionApprovalRecord :=
  approvalRecord crypto decisionSha256 facts
    (signedBy crypto seed (canonicalJson (approvalPayload decisionSha256 facts)))

abbrev signatureOf (crypto : Crypto) (decisionSha256 : String) (facts : EvaluationApprovalFacts)
    (seed : Bytes) : EvaluationDecisionSignature :=
  signedBy crypto seed (canonicalJson (approvalPayload decisionSha256 facts))

theorem loads_approvedBy {seed : Bytes} :
    (utf8Text? (approvedBy crypto decisionSha256 facts seed).content).bind (loads repr) =
      some (sortKeys (proofOf decisionSha256 facts
        (signatureOf crypto decisionSha256 facts seed))) :=
  loads_canonicalJson (wellFormed_proofOf repr decisionSha256 facts _)

/-- A proof that passes every check: an object with a payload and a signature, in canonical form,
that says what the rows say, and whose signature its own key accepts. -/
structure Passes (crypto : Crypto) (repr : Repr) (decision : EvaluationDecisionRecord)
    (record : EvaluationDecisionApprovalRecord) (tenantId agentId : UUID) (proof payload : Value)
    (signature : EvaluationDecisionSignature) : Prop where
  load : (utf8Text? record.content).bind (loads repr) = some proof
  objects : (∃ entries, proof = .dict entries) ∧ ∃ entries, payload = .dict entries
  hasPayload : proof.get "payload" = some payload
  hasSignature : ∃ entries, proof.get "signature" = some (.dict entries) ∧
    readSignature (.dict entries) = some signature
  canonical : canonicalJson proof = record.content
  agrees : proofMatches proof payload decision record tenantId agentId = true
  accepted : Ed25519EvaluationApprovalSigner.verify crypto (canonicalJson payload) signature = true

theorem checkProof_iff {decision : EvaluationDecisionRecord}
    {record : EvaluationDecisionApprovalRecord} {tenantId agentId : UUID} :
    checkProof crypto repr decision record tenantId agentId = (true, true, true) ↔
      ∃ proof payload signature,
        Passes crypto repr decision record tenantId agentId proof payload signature := by
  constructor
  · intro h
    unfold checkProof at h
    split at h
    · rename_i entries hload
      dsimp only at h
      split at h
      · rename_i payload signature hpayload hsignature
        simp only [Prod.mk.injEq, decide_eq_true_eq] at h
        obtain ⟨hcanonical, hmatches, hverify⟩ := h
        split at hverify
        · cases hverify
        · rename_i read hread
          exact ⟨_, _, read, hload, ⟨⟨_, rfl⟩, _, rfl⟩, hpayload, ⟨_, hsignature, hread⟩,
            hcanonical, hmatches, hverify⟩
      · simp at h
    · simp at h
  · rintro ⟨proof, payload, signature, h⟩
    obtain ⟨⟨proofEntries, rfl⟩, payloadEntries, rfl⟩ := h.objects
    obtain ⟨entries, hsignature, hread⟩ := h.hasSignature
    unfold checkProof
    rw [h.load]
    dsimp only
    rw [h.hasPayload, hsignature]
    dsimp only
    rw [hread]
    simp [h.canonical, h.agrees, h.accepted]

theorem sortKeys_dict (entries : List (String × Value)) :
    ∃ sorted, sortKeys (.dict entries) = .dict sorted :=
  ⟨(sortEntries entries).insertionSort ByKey, by rw [sortKeys]⟩

/-- The proof of an approval that some key has signed passes every check. -/
theorem passes_approvedBy (hscheme : crypto.scheme.Correct) {seed : Bytes}
    (hseed : seed.length = 32) {decision : EvaluationDecisionRecord}
    (hdecision : decision.id = facts.decisionId) :
    Passes crypto repr decision (approvedBy crypto decision.sha256 facts seed) facts.tenantId
      facts.agentId
      (sortKeys (proofOf decision.sha256 facts (signatureOf crypto decision.sha256 facts seed)))
      (sortKeys (approvalPayload decision.sha256 facts))
      (signatureOf crypto decision.sha256 facts seed) where
  load := loads_approvedBy
  objects := ⟨sortKeys_dict _, sortKeys_dict _⟩
  hasPayload := get_sortKeys (wellFormed_proofOf repr decision.sha256 facts _) "payload"
  hasSignature := by
    have hget := get_sortKeys (wellFormed_proofOf repr decision.sha256 facts
      (signatureOf crypto decision.sha256 facts seed)) "signature"
    have hread := readSignature_signatureJson (signatureOf crypto decision.sha256 facts seed)
    obtain ⟨entries, hentries⟩ : ∃ entries,
        sortKeys (signatureJson (signatureOf crypto decision.sha256 facts seed)) = .dict entries :=
      sortKeys_dict _
    rw [hentries] at hread
    refine ⟨entries, hget.trans ?_, hread⟩
    rw [← hentries]
    rfl
  canonical := canonicalJson_sortKeys _
  agrees := by
    exact @proofMatches_proofOf (signatureOf crypto decision.sha256 facts seed) decision
      (approvedBy crypto decision.sha256 facts seed) hdecision
  accepted := by
    rw [canonicalJson_sortKeys]
    exact verify_signedBy hscheme hseed _

end proofs

section runs

variable {crypto : Crypto} {s : EvaluationApprovalStore}

/-- The approval was signed for a decision of the store. -/
structure IsApproved (crypto : Crypto) (s : EvaluationApprovalStore)
    (decision : EvaluationDecisionRecord) (seed : Bytes)
    (record : EvaluationDecisionApprovalRecord) : Prop where
  mem : decision ∈ s.decisions
  id : decision.id = record.decisionId
  scope : decision.tenantId = record.tenantId ∧ decision.agentId = record.agentId
  length : seed.length = 32
  proof : record = approvedBy crypto decision.sha256 record.toEvaluationApprovalFacts seed

/-- What holds of the rows that the services have written. -/
structure Inv (crypto : Crypto) (s : EvaluationApprovalStore) : Prop where
  approvals : ∀ record ∈ s.approvals, ∃ decision seed, IsApproved crypto s decision seed record
  types : ∀ record ∈ s.approvals, HasColumnTypes record.toEvaluationApprovalFacts ∧
    HasReleasePair record.toEvaluationApprovalFacts
  digests : ∀ decision ∈ s.decisions, decision.sha256 = crypto.sha256Hex decision.content

theorem Inv.empty : Inv crypto .empty :=
  ⟨fun _ h ↦ absurd h (Table.not_mem_empty _), fun _ h ↦ absurd h (Table.not_mem_empty _),
    fun _ h ↦ absurd h (Table.not_mem_empty _)⟩

theorem validateReleaseReference_eq_ok {outcome : EvaluationApprovalOutcome}
    {releaseEnvironment : Option EvaluationReleaseEnvironment}
    {changeReference reference : Option String}
    (h : validateReleaseReference outcome releaseEnvironment changeReference = .ok reference) :
    releaseEnvironment.isSome = reference.isSome := by
  unfold validateReleaseReference at h
  dsimp only at h
  split at h
  · cases h
  · rename_i hpair
    split at h
    · cases h
    · split at h
      · cases h
      · cases h
        rw [ne_eq, not_not] at hpair
        rw [← Option.not_isNone, ← Option.not_isNone, hpair]

theorem checkApproval_eq_ok {agentId : UUID} {command : Command}
    {decision : EvaluationDecisionRecord} {reference : Option String}
    (h : checkApproval s agentId command = .ok (decision, reference)) :
    decision ∈ s.decisions ∧ decision.id = command.decisionId ∧
      decision.tenantId = command.tenantId ∧ decision.agentId = agentId ∧
      command.releaseEnvironment.isSome = reference.isSome := by
  unfold checkApproval at h
  split at h
  · cases h
  · rename_i found hfound
    obtain ⟨hfind, hscope⟩ := Option.filter_eq_some_iff.mp hfound
    obtain ⟨hmem, hid⟩ := Table.find?_eq_some.mp hfind
    obtain ⟨htenant, hagent⟩ := of_decide_eq_true hscope
    split_ifs at h
    cases hreference : validateReleaseReference command.outcome command.releaseEnvironment
        command.changeReference with
    | error e =>
      rw [hreference] at h
      cases h
    | ok normalized =>
      rw [hreference] at h
      obtain ⟨rfl, rfl⟩ := Prod.mk.inj (Except.ok.inj h)
      exact ⟨hmem, hid, htenant, hagent, validateReleaseReference_eq_ok hreference⟩

structure Says (agentId : UUID) (command : Command) (env : Environment)
    (facts : EvaluationApprovalFacts) : Prop where
  decisionId : facts.decisionId = command.decisionId
  tenantId : facts.tenantId = command.tenantId
  agentId : facts.agentId = agentId
  approvedBy : facts.approvedBy = command.actorId
  id : facts.id = env.approvalId
  approvedAt : facts.approvedAt = env.approvedAt
  release : HasReleasePair facts

/-- An approval is refused, or it is signed and saved. -/
theorem signApproval_cases (crypto : Crypto) (s : EvaluationApprovalStore)
    (storedKey : Option (Option String)) (decisionSha256 : String)
    (facts : EvaluationApprovalFacts) :
    (∃ e, signApproval crypto s storedKey decisionSha256 facts = (.error e, s)) ∨
    ∃ seed approvals, seed.length = 32 ∧
      s.approvals.insert? (approvedBy crypto decisionSha256 facts seed) = some approvals ∧
      signApproval crypto s storedKey decisionSha256 facts =
        (.ok (approvedBy crypto decisionSha256 facts seed), { s with approvals }) := by
  unfold signApproval
  cases hsign : Ed25519EvaluationApprovalSigner.sign crypto storedKey
      (canonicalJson (approvalPayload decisionSha256 facts)) with
  | error e => exact .inl ⟨e, rfl⟩
  | ok signature =>
    obtain ⟨seed, hseed, rfl⟩ := sign_eq_ok hsign
    dsimp only
    rw [if_neg fun h ↦ h rfl]
    unfold saveApproval
    cases hinsert : s.approvals.insert? (approvedBy crypto decisionSha256 facts seed) with
    | none =>
      unfold approvedBy at hinsert
      rw [hinsert]
      exact .inl ⟨_, rfl⟩
    | some approvals =>
      refine .inr ⟨seed, approvals, hseed, hinsert, ?_⟩
      unfold approvedBy at hinsert ⊢
      rw [hinsert]

/-- A request for an approval is refused, or its approval is signed and saved. -/
theorem createApproval_cases (crypto : Crypto) (s : EvaluationApprovalStore) (agentId : UUID)
    (command : Command) (env : Environment) :
    (∃ e, createApproval crypto s agentId command env = (.error e, s)) ∨
    ∃ decision seed facts approvals,
      IsApproved crypto s decision seed (approvedBy crypto decision.sha256 facts seed) ∧
      Says agentId command env facts ∧
      s.approvals.insert? (approvedBy crypto decision.sha256 facts seed) = some approvals ∧
      createApproval crypto s agentId command env =
        (.ok (approvedBy crypto decision.sha256 facts seed), { s with approvals }) := by
  unfold createApproval
  cases hcheck : checkApproval s agentId command with
  | error e => exact .inl ⟨e, rfl⟩
  | ok found =>
    obtain ⟨decision, reference⟩ := found
    obtain ⟨hmem, hid, htenant, hagent, hrelease⟩ := checkApproval_eq_ok hcheck
    dsimp only
    generalize hfacts : EvaluationApprovalFacts.mk env.approvalId decision.id command.tenantId
      agentId command.actorId env.approvedAt command.outcome command.reason
      command.releaseEnvironment reference = facts
    have hsaid : Says agentId command env facts := by
      rw [← hfacts]
      exact ⟨hid, rfl, rfl, rfl, rfl, rfl, hrelease⟩
    have hscope : decision.id = facts.decisionId ∧ decision.tenantId = facts.tenantId ∧
        decision.agentId = facts.agentId :=
      ⟨hid.trans hsaid.decisionId.symm, htenant.trans hsaid.tenantId.symm,
        hagent.trans hsaid.agentId.symm⟩
    refine (signApproval_cases crypto s env.storedKey decision.sha256 facts).imp_right ?_
    rintro ⟨seed, approvals, hseed, hinsert, hsigned⟩
    exact ⟨decision, seed, facts, approvals, ⟨hmem, hscope.1, hscope.2, hseed, rfl⟩, hsaid, hinsert,
      hsigned⟩

theorem IsApproved.mono {s' : EvaluationApprovalStore} {decision : EvaluationDecisionRecord}
    {seed : Bytes} {record : EvaluationDecisionApprovalRecord}
    (h : IsApproved crypto s decision seed record) (hsub : decision ∈ s'.decisions) :
    IsApproved crypto s' decision seed record := ⟨hsub, h.id, h.scope, h.length, h.proof⟩

theorem Inv.step {a : Action} (h : Inv crypto s) (ha : a.IsTyped) :
    Inv crypto (step crypto s a).2 := by
  cases a with
  | saveDecision id tenantId agentId createdBy createdAt outcome reason content =>
    unfold Approvals.step
    dsimp only
    generalize hrow : EvaluationDecisionRecord.mk id tenantId agentId createdBy createdAt outcome
      reason content (crypto.sha256Hex content) = row
    have hdigest : row.sha256 = crypto.sha256Hex row.content := by rw [← hrow]
    cases hinsert : s.decisions.insert? row with
    | none => exact h
    | some decisions =>
      have hmem := fun x ↦ @Table.mem_insert? _ _ _ _ _ _ _ x hinsert
      refine ⟨?_, h.types, ?_⟩
      · intro record hrecord
        obtain ⟨decision, seed, happroved⟩ := h.approvals record hrecord
        exact ⟨decision, seed, happroved.mono ((hmem decision).mpr (.inl happroved.mem))⟩
      · intro decision hdecision
        rcases (hmem decision).mp hdecision with hold | rfl
        · exact h.digests decision hold
        · exact hdigest
  | createApproval agentId command env =>
    unfold Approvals.step
    dsimp only
    rcases createApproval_cases crypto s agentId command env with ⟨e, he⟩ |
      ⟨decision, seed, facts, approvals, happroved, hsaid, hinsert, he⟩
    · rw [he]
      exact h
    · rw [he]
      obtain ⟨hagentId, hdecisionId, htenantId, hactorId, happrovalId, hinstant⟩ := ha
      have htypes : HasColumnTypes facts := by
        refine ⟨?_, ?_, ?_, ?_, ?_, ?_⟩
        · rw [hsaid.id]; exact happrovalId
        · rw [hsaid.decisionId]; exact hdecisionId
        · rw [hsaid.tenantId]; exact htenantId
        · rw [hsaid.agentId]; exact hagentId
        · rw [hsaid.approvedBy]; exact hactorId
        · rw [hsaid.approvedAt]; exact hinstant
      refine ⟨?_, ?_, h.digests⟩
      · intro other hother
        rcases (Table.mem_insert? hinsert).mp hother with hother | rfl
        · obtain ⟨decision', seed', happroved'⟩ := h.approvals other hother
          exact ⟨decision', seed', happroved'.mono happroved'.mem⟩
        · exact ⟨decision, seed, happroved.mono happroved.mem⟩
      · intro other hother
        rcases (Table.mem_insert? hinsert).mp hother with hother | rfl
        · exact h.types other hother
        · exact ⟨htypes, hsaid.release⟩

theorem approvals_grow (crypto : Crypto) (s : EvaluationApprovalStore) (a : Action) :
    ∀ record ∈ s.approvals, record ∈ (Approvals.step crypto s a).2.approvals := by
  intro record hrecord
  cases a with
  | saveDecision id tenantId agentId createdBy createdAt outcome reason content => exact hrecord
  | createApproval agentId command env =>
    unfold Approvals.step
    dsimp only
    rcases createApproval_cases crypto s agentId command env with ⟨e, he⟩ |
      ⟨decision, seed, facts, approvals, -, -, hinsert, he⟩
    · rw [he]
      exact hrecord
    · rw [he]
      exact (Table.mem_insert? hinsert).mpr (.inl hrecord)

theorem answered_mem (crypto : Crypto) (s : EvaluationApprovalStore) (a : Action) :
    ∀ record, (Approvals.step crypto s a).1 = some (.ok record) →
      record ∈ (Approvals.step crypto s a).2.approvals := by
  intro record h
  cases a with
  | saveDecision id tenantId agentId createdBy createdAt outcome reason content => cases h
  | createApproval agentId command env =>
    unfold Approvals.step at h ⊢
    dsimp only at h ⊢
    rcases createApproval_cases crypto s agentId command env with ⟨e, he⟩ |
      ⟨decision, seed, facts, approvals, -, -, hinsert, he⟩
    · rw [he] at h
      cases h
    · rw [he] at h ⊢
      obtain rfl := Except.ok.inj (Option.some.inj h)
      exact (Table.mem_insert? hinsert).mpr (.inr rfl)

end runs

section soundness

variable {repr : Repr} {crypto : Crypto} {payload payload' : Value}

theorem text_agrees (h : WellFormed repr payload) (h' : WellFormed repr payload')
    (hsame : canonicalJson payload' = canonicalJson payload) {key s t : String}
    (hget : payload.get key = some (.str t)) (hany : (payload'.get key).any (isText s) = true) :
    s = t := by
  have hsorted := get_eq_of_dumps_eq h' h (utf8_injective hsame) key
  rw [hget, Option.map_some, Option.map_eq_some_iff] at hsorted
  obtain ⟨v, hv, hv'⟩ := hsorted
  rw [sortKeys, sortKeys_eq_str] at hv'
  rw [hv, hv', Option.any_some, isText] at hany
  exact (of_decide_eq_true hany).symm

theorem isText_iff {s : String} {v : Value} : isText s v = true ↔ v = .str s := by
  cases v <;> simp [isText, eq_comm]

/-- Two payloads with one text refer to the same release. -/
theorem release_agrees (h : WellFormed repr payload) (h' : WellFormed repr payload')
    (hsame : canonicalJson payload' = canonicalJson payload)
    (release : Option (String × String)) {release' : Option (String × String)}
    (hget : payload.get "release_reference" = some (releaseJson release))
    (hrelease : isRelease release' ((payload'.get "release_reference").getD .null) = true) :
    release' = release := by
  have hsorted := get_eq_of_dumps_eq h' h (utf8_injective hsame) "release_reference"
  rw [hget, Option.map_some, Option.map_eq_some_iff] at hsorted
  obtain ⟨v, hv, hv'⟩ := hsorted
  have hwell := wellFormed_get h' hv
  rw [hv, Option.getD_some] at hrelease
  cases v with
  | null =>
    cases release with
    | none =>
      unfold isRelease at hrelease
      exact of_decide_eq_true hrelease
    | some pair => simp [releaseJson, sortKeys] at hv'
  | dict entries =>
    cases release with
    | none => simp [releaseJson, sortKeys] at hv'
    | some pair =>
      unfold isRelease at hrelease
      cases release' with
      | none => cases hrelease
      | some pair' =>
        simp only [Bool.and_eq_true, Option.any_eq_true, isText_iff] at hrelease
        obtain ⟨⟨-, environment, henvironment, rfl⟩, changeId, hchange, rfl⟩ := hrelease
        have hboth : ∀ key, ((Value.dict entries).get key).map sortKeys =
            ((releaseJson (some pair)).get key).map sortKeys := by
          intro key
          rw [← get_sortKeys hwell, hv', get_sortKeys (wellFormed_releaseJson repr (some pair))]
        have h1 := hboth "environment"
        have h2 := hboth "change_id"
        simp only [Value.get, henvironment, hchange] at h1 h2
        simp [releaseJson, List.lookup_cons, sortKeys] at h1 h2
        exact congrArg some (Prod.ext h1 h2)
  | bool b => cases hrelease
  | int n => cases hrelease
  | float t => cases hrelease
  | str s => cases hrelease
  | list xs => cases hrelease

theorem uuidString_inj {a b : UUID} (ha : IsUuid a) (hb : IsUuid b)
    (h : uuidString a = uuidString b) : a = b :=
  WireText.uuidText_inj ha hb (String.ofList_injective h)

theorem isoformat_inj {a b : Datetime} (ha : a < WireText.endOfDays * 86400000000)
    (hb : b < WireText.endOfDays * 86400000000) (h : isoformat a = isoformat b) : a = b := by
  have hread := WireText.ofIsoText?_isoText ha
  rw [String.ofList_injective h, WireText.ofIsoText?_isoText hb] at hread
  exact (Option.some.inj hread).symm

theorem releaseReference_inj {facts facts' : EvaluationApprovalFacts} (h : HasReleasePair facts)
    (h' : HasReleasePair facts') (hsame : releaseReference facts' = releaseReference facts) :
    facts'.releaseEnvironment = facts.releaseEnvironment ∧
      facts'.changeReference = facts.changeReference := by
  unfold HasReleasePair at h h'
  unfold releaseReference at hsame
  cases henv : facts.releaseEnvironment with
  | none =>
    cases hchange : facts.changeReference with
    | some _ => simp [henv, hchange] at h
    | none =>
      cases henv' : facts'.releaseEnvironment with
      | none =>
        cases hchange' : facts'.changeReference with
        | none => exact ⟨rfl, rfl⟩
        | some _ => simp [henv', hchange'] at h'
      | some _ =>
        cases hchange' : facts'.changeReference with
        | none => simp [henv', hchange'] at h'
        | some _ => simp [henv, henv', hchange'] at hsame
  | some environment =>
    cases hchange : facts.changeReference with
    | none => simp [henv, hchange] at h
    | some changeId =>
      cases henv' : facts'.releaseEnvironment with
      | none => simp [henv, henv', hchange] at hsame
      | some environment' =>
        cases hchange' : facts'.changeReference with
        | none => simp [henv', hchange'] at h'
        | some changeId' =>
          simp [henv, henv', hchange, hchange'] at hsame
          exact ⟨congrArg some (EvaluationReleaseEnvironment.value_inj hsame.1),
            congrArg some hsame.2⟩

/-- A proof that passes every check and has the payload of an approval: its rows are those of the
approval. -/
theorem rows_of_passes {decision' : EvaluationDecisionRecord}
    {record' : EvaluationDecisionApprovalRecord} {proof : Value}
    {signature : EvaluationDecisionSignature} {decisionSha256 : String}
    {facts : EvaluationApprovalFacts} (hpayload' : WellFormed repr payload')
    (h : Passes crypto repr decision' record' record'.tenantId record'.agentId proof payload'
      signature)
    (hsame : canonicalJson payload' = canonicalJson (approvalPayload decisionSha256 facts))
    (hid : decision'.id = record'.decisionId)
    (htypes : HasColumnTypes facts) (htypes' : HasColumnTypes record'.toEvaluationApprovalFacts)
    (hrelease : HasReleasePair facts)
    (hrelease' : HasReleasePair record'.toEvaluationApprovalFacts) :
    record'.toEvaluationApprovalFacts = facts ∧ decision'.sha256 = decisionSha256 := by
  have hagrees := h.agrees
  unfold proofMatches at hagrees
  simp only [Bool.and_eq_true] at hagrees
  obtain ⟨⟨⟨⟨⟨⟨⟨⟨⟨⟨⟨-, -⟩, h1⟩, h2⟩, h3⟩, h4⟩, h5⟩, h6⟩, h7⟩, h8⟩, h9⟩, h10⟩ := hagrees.1
  have hwell := wellFormed_approvalPayload repr decisionSha256 facts
  have hget : ∀ {key s t : String},
      (approvalPayload decisionSha256 facts).get key = some (.str t) →
        (payload'.get key).any (isText s) = true → s = t := text_agrees hwell hpayload' hsame
  have hreference := release_agrees hwell hpayload' hsame (releaseReference facts) rfl h10
  obtain ⟨henvironment, hchange⟩ := releaseReference_inj hrelease hrelease' hreference
  have hdecision := uuidString_inj htypes'.decisionId htypes.decisionId (hid ▸ hget rfl h2)
  have hrecord := uuidString_inj htypes'.id htypes.id (hget rfl h1)
  have htenant := uuidString_inj htypes'.tenantId htypes.tenantId (hget rfl h4)
  have hagent := uuidString_inj htypes'.agentId htypes.agentId (hget rfl h5)
  have hactor := uuidString_inj htypes'.approvedBy htypes.approvedBy (hget rfl h6)
  have hat := isoformat_inj htypes'.approvedAt htypes.approvedAt (hget rfl h7)
  have houtcome := EvaluationApprovalOutcome.value_inj (hget rfl h8)
  have hreason := EvaluationApprovalReason.value_inj (hget rfl h9)
  refine ⟨?_, hget rfl h3⟩
  cases facts
  exact EvaluationApprovalFacts.mk.injEq .. ▸ ⟨hrecord, hdecision, htenant, hagent, hactor, hat,
    houtcome, hreason, henvironment, hchange⟩

theorem verifyApproval_valid {s : EvaluationApprovalStore} {decisionId tenantId agentId : UUID}
    {now : Datetime} {v : EvaluationApprovalVerification}
    (h : verifyApproval crypto repr s decisionId tenantId agentId now = .ok v)
    (hvalid : v.valid = true) :
    ∃ decision record, getDecision s decisionId tenantId agentId = some decision ∧
      getApproval s decisionId tenantId agentId = some record ∧
      record.sha256 = crypto.sha256Hex record.content ∧
      checkProof crypto repr decision record tenantId agentId = (true, true, true) := by
  unfold verifyApproval at h
  cases hdecision : getDecision s decisionId tenantId agentId with
  | none =>
    rw [hdecision] at h
    cases h
  | some decision =>
    cases hrecord : getApproval s decisionId tenantId agentId with
    | none =>
      rw [hdecision, hrecord] at h
      cases h
    | some record =>
      rw [hdecision, hrecord] at h
      obtain rfl := Except.ok.inj h
      simp only [Bool.and_eq_true, decide_eq_true_eq] at hvalid
      obtain ⟨⟨⟨hhash, hcanonical⟩, hmatches⟩, hsignature⟩ := hvalid
      exact ⟨decision, record, rfl, rfl, hhash.symm,
        Prod.ext hcanonical (Prod.ext hmatches hsignature)⟩

theorem verifyApproval_of_rows {s : EvaluationApprovalStore} {decisionId tenantId agentId : UUID}
    {decision : EvaluationDecisionRecord} {record : EvaluationDecisionApprovalRecord}
    (hdecision : getDecision s decisionId tenantId agentId = some decision)
    (hrecord : getApproval s decisionId tenantId agentId = some record)
    (hhash : record.sha256 = crypto.sha256Hex record.content)
    (hcheck : checkProof crypto repr decision record tenantId agentId = (true, true, true))
    (now : Datetime) :
    ∃ v, verifyApproval crypto repr s decisionId tenantId agentId now = .ok v ∧ v.valid = true := by
  unfold verifyApproval
  rw [hdecision, hrecord]
  dsimp only
  rw [hcheck, hhash]
  exact ⟨_, rfl, by simp⟩

theorem verifyApproval_approvedBy (hscheme : crypto.scheme.Correct) {s : EvaluationApprovalStore}
    {decision : EvaluationDecisionRecord} {seed : Bytes}
    {record : EvaluationDecisionApprovalRecord}
    (h : IsApproved crypto s decision seed record) (hrecord : record ∈ s.approvals)
    (now : Datetime) :
    ∃ v, verifyApproval crypto repr s record.decisionId record.tenantId record.agentId now = .ok v ∧
      v.valid = true := by
  have hfind : getDecision s record.decisionId record.tenantId record.agentId = some decision :=
    Option.filter_eq_some_iff.mpr ⟨Table.find?_eq_some.mpr ⟨h.mem, h.id⟩, decide_eq_true h.scope⟩
  have hfound : getApproval s record.decisionId record.tenantId record.agentId = some record :=
    Option.filter_eq_some_iff.mpr ⟨Table.find?_key hrecord, decide_eq_true ⟨rfl, rfl⟩⟩
  have hpasses := @passes_approvedBy repr _ _ hscheme _ h.length _ h.id
  rw [← h.proof] at hpasses
  refine verifyApproval_of_rows hfind hfound ?_ (checkProof_iff.mpr ⟨_, _, _, hpasses⟩) now
  rw [h.proof]
  rfl

theorem embeddedSignature_of_passes {decision : EvaluationDecisionRecord}
    {record : EvaluationDecisionApprovalRecord} {tenantId agentId : UUID} {proof : Value}
    {signature : EvaluationDecisionSignature}
    (h : Passes crypto repr decision record tenantId agentId proof payload signature) :
    embeddedSignature repr record.content = some signature ∧
      signedPayload repr record.content = some (canonicalJson payload) := by
  obtain ⟨entries, hentries, hread⟩ := h.hasSignature
  unfold embeddedSignature signedPayload
  rw [h.load, Option.bind_some, Option.bind_some, hentries, h.hasPayload]
  exact ⟨hread, rfl⟩

theorem verify_eq_true {bytes : Bytes} {signature : EvaluationDecisionSignature}
    (h : Ed25519EvaluationApprovalSigner.verify crypto bytes signature = true) :
    crypto.scheme.verify signature.publicKey bytes signature.value = true := by
  unfold Ed25519EvaluationApprovalSigner.verify at h
  split_ifs at h
  exact h

/-- What the services have signed is an approval of the store, of the decision that it names. -/
theorem rows_are_approved (hrepr : ∀ literal, IsNormal repr (repr literal))
    (hhash : Function.Injective crypto.sha256Hex) (hscheme : crypto.scheme.Correct)
    {s later : EvaluationApprovalStore} (hinv : Inv crypto s)
    {decision : EvaluationDecisionRecord} {seed : Bytes}
    {record : EvaluationDecisionApprovalRecord} (happroved : IsApproved crypto s decision seed record)
    (hmem : record ∈ s.approvals) {decision' : EvaluationDecisionRecord}
    {record' : EvaluationDecisionApprovalRecord}
    (hdecision' : later.decisions.find? record.decisionId = some decision')
    (hrecord' : later.approvals.find? record.decisionId = some record')
    (htypes' : HasColumnTypes record'.toEvaluationApprovalFacts)
    (hrelease' : HasReleasePair record'.toEvaluationApprovalFacts) {tenantId agentId : UUID}
    {now : Datetime} {v : EvaluationApprovalVerification}
    (hverify : verifyApproval crypto repr later record.decisionId tenantId agentId now = .ok v)
    (hvalid : v.valid = true)
    (hkey : embeddedKey repr record'.content = embeddedKey repr record.content)
    (hforged : ∀ publicKey, embeddedKey repr record.content = some publicKey →
      IsUnforged repr crypto s publicKey record'.content) :
    AreApproved repr crypto decision record decision' record' := by
  obtain ⟨found, row, hfound, hrow, hdigest, hcheck⟩ := verifyApproval_valid hverify hvalid
  obtain ⟨hfind, -⟩ := Option.filter_eq_some_iff.mp hfound
  obtain rfl := Option.some.inj (hdecision'.symm.trans hfind)
  obtain ⟨hfindRow, hscope⟩ := Option.filter_eq_some_iff.mp hrow
  obtain rfl := Option.some.inj (hrecord'.symm.trans hfindRow)
  obtain ⟨rfl, rfl⟩ := of_decide_eq_true hscope
  obtain ⟨proof, payload, signature, hpasses⟩ := checkProof_iff.mp hcheck
  obtain ⟨hembedded, hsigned⟩ := embeddedSignature_of_passes hpasses
  -- The party has no other signature of the key than those on the approvals of the store.
  have hpublic : embeddedKey repr record'.content = some signature.publicKey := by
    unfold embeddedKey
    rw [hembedded, Option.map_some]
  obtain ⟨other, hother, named, hnamed, hnamedId, hsame⟩ :=
    hforged _ (hkey.symm.trans hpublic) signature hembedded rfl _ (verify_eq_true hpasses.accepted)
  have hproof := wellFormed_loads hrepr (Option.bind_eq_some_iff.mp hpasses.load).choose_spec.2
  obtain ⟨htypes, hrelease⟩ := hinv.types other hother
  obtain ⟨hfacts, hsha⟩ := rows_of_passes (wellFormed_get hproof hpasses.hasPayload) hpasses hsame
    ((Table.key_of_find? hfind).trans (Table.key_of_find? hfindRow).symm) htypes htypes' hrelease
    hrelease'
  have hid : other.decisionId = record.decisionId := by
    rw [← Table.key_of_find? hfindRow, ← congrArg (·.decisionId) hfacts]
  obtain rfl := Table.eq_of_key_eq hother hmem hid
  obtain rfl := Table.eq_of_key_eq hnamed happroved.mem (hnamedId.trans happroved.id.symm)
  refine ⟨hfacts, ?_, hdigest, hsha, ?_⟩
  · have hpassesOwn := @passes_approvedBy repr _ _ hscheme _ happroved.length _ happroved.id
    rw [← happroved.proof] at hpassesOwn
    rw [hsigned, (embeddedSignature_of_passes hpassesOwn).2, hsame, canonicalJson_sortKeys]
  · intro hcontent
    rw [hsha, hinv.digests named hnamed] at hcontent
    exact hhash hcontent

end soundness

/-- Every accepted approval verifies as valid, and rows that later verify as valid with the key of
the approval are those that were approved, whatever a party without the key has made of them. -/
theorem approval_proofs_sound {crypto : Crypto} {repr : Repr} (hscheme : crypto.scheme.Correct)
    (hhash : Function.Injective crypto.sha256Hex)
    (hrepr : ∀ literal, IsNormal repr (repr literal)) {as : List Action}
    (htyped : ∀ a ∈ as, a.IsTyped) {record : EvaluationDecisionApprovalRecord}
    (haccepted : some (.ok record) ∈ Machine.outputs (step crypto) .empty as) :
    let s := Machine.run (step crypto) .empty as;
    (∀ now, ∃ v, verifyApproval crypto repr s record.decisionId record.tenantId record.agentId now =
      .ok v ∧ v.valid = true) ∧
    ∃ decision ∈ s.decisions, decision.id = record.decisionId ∧
      ∀ (later : EvaluationApprovalStore) (decision' : EvaluationDecisionRecord)
        (record' : EvaluationDecisionApprovalRecord) (tenantId agentId : UUID) (now : Datetime)
        (v : EvaluationApprovalVerification),
        later.decisions.find? record.decisionId = some decision' →
        later.approvals.find? record.decisionId = some record' →
        HasColumnTypes record'.toEvaluationApprovalFacts →
        HasReleasePair record'.toEvaluationApprovalFacts →
        verifyApproval crypto repr later record.decisionId tenantId agentId now = .ok v →
        v.valid = true →
        embeddedKey repr record'.content = embeddedKey repr record.content →
        (∀ publicKey, embeddedKey repr record.content = some publicKey →
          IsUnforged repr crypto s publicKey record'.content) →
        AreApproved repr crypto decision record decision' record' := by
  have hinv : Inv crypto (Machine.run (step crypto) .empty as) := by
    refine Machine.run_invariant (P := fun _ a ↦ a.IsTyped) (fun s a h ha ↦ h.step ha) Inv.empty ?_
    exact (Machine.along_true.and_forall htyped).mono fun _ _ h ↦ h.2
  have hmem : record ∈ (Machine.run (step crypto) .empty as).approvals :=
    Machine.outputs_keep (I := fun _ ↦ True)
      (Q := fun b s ↦ ∀ record, b = some (.ok record) → record ∈ s.approvals)
      (fun _ _ _ ↦ trivial) (fun s a _ ↦ answered_mem crypto s a)
      (fun b s a _ h other hother ↦ approvals_grow crypto s a other (h other hother)) trivial _
      haccepted record rfl
  obtain ⟨decision, seed, happroved⟩ := hinv.approvals record hmem
  refine ⟨fun now ↦ verifyApproval_approvedBy hscheme happroved hmem now, decision, happroved.mem,
    happroved.id, ?_⟩
  intro later decision' record' tenantId agentId now v hdecision' hrecord' htypes' hrelease' hverify
    hvalid hkey hforged
  exact rows_are_approved hrepr hhash hscheme hinv happroved hmem hdecision' hrecord' htypes'
    hrelease' hverify hvalid hkey hforged

section sample

def sampleCrypto : Crypto where
  sha256Hex bytes := String.ofList (Base64.encode bytes)
  scheme :=
    { publicKey := fun seed ↦ seed
      sign := fun seed payload ↦ seed ++ payload
      verify := fun publicKey payload value ↦ value = publicKey ++ payload }

theorem sampleCrypto_correct : sampleCrypto.scheme.Correct :=
  ⟨fun _ _ ↦ decide_eq_true rfl, fun _ h ↦ h⟩

theorem verify_sampleCrypto {seed seed' payload payload' : Bytes}
    (hlength : seed.length = seed'.length)
    (h : sampleCrypto.scheme.verify seed' payload' (sampleCrypto.scheme.sign seed payload) = true) :
    seed = seed' ∧ payload = payload' :=
  List.append_inj (of_decide_eq_true h) hlength

theorem sampleCrypto_injective : Function.Injective sampleCrypto.sha256Hex := by
  intro bytes bytes' h
  have hread := Base64.decode?_encode bytes
  rw [String.ofList_injective h, Base64.decode?_encode] at hread
  exact (Option.some.inj hread).symm

def sampleRepr : Repr := fun _ ↦ "NaN".toList

theorem sampleRepr_normal (literal : List Char) : IsNormal sampleRepr (sampleRepr literal) :=
  isNormal_word (by unfold sampleRepr; simp [words])

def sampleDecision : EvaluationDecisionRecord where
  id := 1
  tenantId := 2
  agentId := 3
  createdBy := 4
  createdAt := 0
  outcome := .keepBaseline
  reason := .manualReview
  content := []
  sha256 := sampleCrypto.sha256Hex []

def sampleFacts : EvaluationApprovalFacts where
  id := 7
  decisionId := 1
  tenantId := 2
  agentId := 3
  approvedBy := 5
  approvedAt := 0
  outcome := .rejected
  reason := .riskUnresolved
  releaseEnvironment := none
  changeReference := none

def sampleSeed : Bytes := List.replicate 32 0

theorem length_sampleSeed : sampleSeed.length = 32 := List.length_replicate

def sampleKey : String := "AAAAAAAAAAAAAAAAAAAAAAAAAAAAAAAAAAAAAAAAAAA="

def sampleRun : List Action :=
  [.saveDecision 1 2 3 4 0 .keepBaseline .manualReview [],
    .createApproval 3 ⟨1, 2, 5, .rejected, .riskUnresolved, none, none⟩ ⟨7, 0, some (some sampleKey)⟩]

def sampleRecord : EvaluationDecisionApprovalRecord :=
  approvedBy sampleCrypto sampleDecision.sha256 sampleFacts sampleSeed

theorem decode_sampleKey : Base64.decode? sampleKey.toList = some sampleSeed := by decide +kernel

def sampleStore : EvaluationApprovalStore :=
  ⟨⟨[sampleDecision], List.nodup_singleton _⟩, .empty⟩

theorem sign_sample (payload : Bytes) :
    Ed25519EvaluationApprovalSigner.sign sampleCrypto (some (some sampleKey)) payload =
      .ok (signedBy sampleCrypto sampleSeed payload) := by
  unfold Ed25519EvaluationApprovalSigner.sign
  dsimp only
  rw [decode_sampleKey]
  rfl

def approvedStore : EvaluationApprovalStore :=
  ⟨sampleStore.decisions, ⟨[sampleRecord], List.nodup_singleton _⟩⟩

theorem run_sample :
    Machine.outputs (step sampleCrypto) .empty sampleRun = [none, some (.ok sampleRecord)] ∧
      Machine.run (step sampleCrypto) .empty sampleRun = approvedStore := by
  have hcheck : checkApproval sampleStore 3 ⟨1, 2, 5, .rejected, .riskUnresolved, none, none⟩ =
      .ok (sampleDecision, none) := rfl
  have hcreate : createApproval sampleCrypto sampleStore 3
      ⟨1, 2, 5, .rejected, .riskUnresolved, none, none⟩ ⟨7, 0, some (some sampleKey)⟩ =
      (.ok sampleRecord, approvedStore) := by
    unfold createApproval
    rw [hcheck]
    change signApproval sampleCrypto sampleStore (some (some sampleKey)) sampleDecision.sha256
      sampleFacts = _
    unfold signApproval
    rw [sign_sample]
    rfl
  constructor
  · change [none, some (createApproval sampleCrypto sampleStore 3
      ⟨1, 2, 5, .rejected, .riskUnresolved, none, none⟩ ⟨7, 0, some (some sampleKey)⟩).1] = _
    rw [hcreate]
  · change (createApproval sampleCrypto sampleStore 3
      ⟨1, 2, 5, .rejected, .riskUnresolved, none, none⟩ ⟨7, 0, some (some sampleKey)⟩).2 = _
    rw [hcreate]

theorem embeddedSignature_approvedBy {crypto : Crypto} {repr : Repr}
    (hscheme : crypto.scheme.Correct) {seed : Bytes} (hseed : seed.length = 32)
    (decisionSha256 : String) (facts : EvaluationApprovalFacts) :
    embeddedSignature repr (approvedBy crypto decisionSha256 facts seed).content =
      some (signatureOf crypto decisionSha256 facts seed) := by
  have hpasses := @passes_approvedBy repr crypto facts hscheme seed hseed
    ⟨facts.decisionId, 0, 0, 0, 0, .keepBaseline, .manualReview, [], decisionSha256⟩ rfl
  exact (embeddedSignature_of_passes hpasses).1

theorem approval_proofs_sound_sample :
    (∃ v, verifyApproval sampleCrypto sampleRepr approvedStore 1 2 3 0 = .ok v ∧ v.valid = true) ∧
      ∃ decision ∈ approvedStore.decisions,
        AreApproved sampleRepr sampleCrypto decision sampleRecord decision sampleRecord := by
  obtain ⟨houtputs, hrun⟩ := run_sample
  have htyped : ∀ a ∈ sampleRun, a.IsTyped := by
    simp [sampleRun, Action.IsTyped, IsUuid, WireText.endOfDays]
  have hsound := approval_proofs_sound sampleCrypto_correct sampleCrypto_injective sampleRepr_normal
    htyped (by rw [houtputs]; exact List.mem_cons_of_mem _ List.mem_cons_self)
  rw [hrun] at hsound
  obtain ⟨hvalid, decision, hmem, hid, hsame⟩ := hsound
  obtain ⟨v, hv, hv'⟩ := hvalid 0
  refine ⟨⟨v, hv, hv'⟩, decision, hmem, hsame approvedStore decision sampleRecord 2 3 0 v
    (Table.find?_eq_some.mpr ⟨hmem, hid⟩) (Table.find?_key List.mem_cons_self) ?_ rfl hv hv' rfl ?_⟩
  · exact ⟨by decide, by decide, by decide, by decide, by decide, by decide⟩
  · intro publicKey _ signature hsignature hkey payload hverify
    rw [sampleRecord, embeddedSignature_approvedBy sampleCrypto_correct length_sampleSeed]
      at hsignature
    obtain rfl := Option.some.inj hsignature
    rw [← hkey] at hverify
    obtain ⟨-, hpayload⟩ := verify_sampleCrypto rfl hverify
    exact ⟨sampleRecord, List.mem_cons_self, sampleDecision, List.mem_cons_self, rfl,
      hpayload.symm⟩

def forgedRecord : EvaluationDecisionApprovalRecord :=
  approvedBy sampleCrypto sampleDecision.sha256
    { sampleFacts with
      outcome := .approved
      reason := .evidenceConfirmed }
    (List.replicate 32 1)

def forgedStore : EvaluationApprovalStore :=
  ⟨sampleStore.decisions, ⟨[forgedRecord], List.nodup_singleton _⟩⟩

/-- A refusal that a party without the agent's key has turned into an approval verifies as
valid. -/
theorem forged_approval_is_valid :
    some (.ok sampleRecord) ∈ Machine.outputs (step sampleCrypto) .empty sampleRun ∧
      (∀ signature, embeddedSignature sampleRepr forgedRecord.content = some signature →
        ∀ payload, sampleCrypto.scheme.verify sampleSeed payload signature.value = false) ∧
      forgedRecord ∈ forgedStore.approvals ∧ forgedRecord.outcome ≠ sampleRecord.outcome ∧
      ∃ v, verifyApproval sampleCrypto sampleRepr forgedStore 1 2 3 0 = .ok v ∧ v.valid = true := by
  refine ⟨?_, ?_, List.mem_cons_self, by decide, ?_⟩
  · rw [run_sample.1]
    exact List.mem_cons_of_mem _ List.mem_cons_self
  · intro signature hsignature payload
    rw [forgedRecord, embeddedSignature_approvedBy sampleCrypto_correct List.length_replicate]
      at hsignature
    obtain rfl := Option.some.inj hsignature
    rw [Bool.eq_false_iff]
    intro hverify
    have hlength : (List.replicate 32 (1 : UInt8)).length = sampleSeed.length :=
      List.length_replicate.trans length_sampleSeed.symm
    obtain ⟨hseed, -⟩ := verify_sampleCrypto hlength hverify
    exact absurd (congrArg List.head? hseed) (by decide)
  · have hforged : IsApproved sampleCrypto forgedStore sampleDecision (List.replicate 32 1)
        forgedRecord := ⟨List.mem_cons_self, rfl, ⟨rfl, rfl⟩, List.length_replicate, rfl⟩
    exact verifyApproval_approvedBy sampleCrypto_correct hforged List.mem_cons_self 0

end sample

end CyberNetizen.Evaluations.Approvals
