import CyberNetizen.Lib.Machine
import CyberNetizen.Conversations.Begins
import CyberNetizen.Conversations.RunWrites

namespace CyberNetizen.Conversations

open Domain Infrastructure Infrastructure.ConversationRepository KeyedTable

/-- A call of one of the three operations that create a run. -/
inductive BeginCall
  | agentRun (identity : DevelopmentIdentity) (conversationId clientMessageId : UUID)
      (content : String) (attachments : List Attachment)
      (contentBlocks : List MultimodalContentBlock) (snapshot : RunSnapshot)
  | regeneration (identity : DevelopmentIdentity) (responseMessageId clientRequestId : UUID)
      (snapshot : RunSnapshot)
  | editedBranch (identity : DevelopmentIdentity) (sourceMessageId clientMessageId : UUID)
      (content : String) (snapshot : RunSnapshot)

structure Waiting where
  call : BeginCall
  source : Message

structure World where
  store : ConversationStore
  waiting : List Waiting

def World.empty : World := ⟨.empty, []⟩

inductive Action
  | createConversation (identity : DevelopmentIdentity) (title : String) (id : UUID)
      (now : Datetime)
  | updateConversation (conversationId userId : UUID) (title : Option String)
      (status : Option ConversationStatus) (pinned : Option Bool) (now : Datetime)
  | softDeleteConversation (conversationId userId : UUID) (now : Datetime)
  | setMessageFeedback (messageId userId : UUID) (rating : MessageFeedbackRating)
      (comment : Option String) (id : UUID) (now : Datetime)
  | deleteMessageFeedback (messageId userId : UUID) (seen : Bool)
  /-- A begin call arrives. `begin_agent_run` takes the lock at once, the others read first. -/
  | call (call : BeginCall) (ids : NewIds) (now updatedAt : Datetime) (pickTrigger pickRun : ℕ)
  /-- The `i`-th waiting call gets the lock. -/
  | lock (i : ℕ) (ids : NewIds) (now : Datetime)
  | markRunStarted (runId : UUID) (now : Datetime)
  | appendRunDelta (runId : UUID) (delta : String) (now : Datetime)
  | completeRun (runId : UUID) (usage : Option ModelUsage) (suppressResponse : Bool)
      (now : Datetime)
  | failRun (runId : UUID) (errorCode : String) (now : Datetime)
  | cancelRun (runId userId : UUID) (now : Datetime)

abbrev Output := Option (BeginCall × Except ConversationError PendingAgentRun)

section step

variable (w : World)

/-- The tables after a transaction; an error rolls it back. -/
def World.write : Except ConversationError ConversationStore → World
  | .ok store => { w with store }
  | .error _ => w

/-- The first section of a begin call. -/
def enter (call : BeginCall) (ids : NewIds) (now updatedAt : Datetime) (pickTrigger pickRun : ℕ) :
    Output × World :=
  match call with
  | .agentRun identity conversationId clientMessageId content attachments contentBlocks snapshot =>
    let r := beginAgentRun identity snapshot ids now conversationId clientMessageId content
      attachments contentBlocks updatedAt w.store
    (some (call, r.map Prod.fst), w.write (r.map Prod.snd))
  | .regeneration identity responseMessageId _ _ =>
    match readOriginalResponse identity responseMessageId w.store with
    | .error e => (some (call, .error e), w)
    | .ok source => (none, { w with waiting := w.waiting ++ [⟨call, source⟩] })
  | .editedBranch identity sourceMessageId clientMessageId _ _ =>
    match readEditSource identity sourceMessageId clientMessageId pickTrigger pickRun w.store with
    | .error e => (some (call, .error e), w)
    | .ok (.inl pending) => (some (call, .ok pending), w)
    | .ok (.inr source) => (none, { w with waiting := w.waiting ++ [⟨call, source⟩] })

def locked (p : Waiting) (ids : NewIds) (now : Datetime) (s : ConversationStore) :
    Except ConversationError (PendingAgentRun × ConversationStore) :=
  match p.call with
  | .agentRun .. => .error (.conflict "")
  | .regeneration identity _ clientRequestId snapshot =>
    beginRegeneration identity snapshot ids now p.source clientRequestId s
  | .editedBranch identity _ clientMessageId content snapshot =>
    beginEditedBranch identity snapshot ids now p.source clientMessageId content s

def step : Action → Output × World
  | .createConversation identity title id now =>
    (none, w.write (createConversation identity title id now w.store))
  | .updateConversation conversationId userId title status pinned now =>
    (none, w.write (updateConversation conversationId userId title status pinned now w.store))
  | .softDeleteConversation conversationId userId now =>
    (none, w.write (softDeleteConversation conversationId userId now w.store))
  | .setMessageFeedback messageId userId rating comment id now =>
    (none, w.write (setMessageFeedback messageId userId rating comment id now w.store))
  | .deleteMessageFeedback messageId userId seen =>
    (none, w.write (deleteMessageFeedback messageId userId seen w.store))
  | .call call ids now updatedAt pickTrigger pickRun =>
    enter w call ids now updatedAt pickTrigger pickRun
  | .lock i ids now =>
    match w.waiting[i]? with
    | none => (none, w)
    | some p =>
      let r := locked p ids now w.store
      (some (p.call, r.map Prod.fst), { w.write (r.map Prod.snd) with waiting := w.waiting.eraseIdx i })
  | .markRunStarted runId now => (none, w.write ((markRunStarted runId now w.store).map Prod.snd))
  | .appendRunDelta runId delta now =>
    (none, w.write ((appendRunDelta runId now w.store delta).map Prod.snd))
  | .completeRun runId usage suppressResponse now =>
    (none, w.write ((completeRun runId now w.store usage suppressResponse).map Prod.snd))
  | .failRun runId errorCode now =>
    (none, w.write ((failRun runId now w.store errorCode).map Prod.snd))
  | .cancelRun runId userId now =>
    (none, w.write ((cancelRun runId now w.store userId).map Prod.snd))

end step

abbrev run (w : World) (as : List Action) : World := Machine.run step w as

section conditions

variable (w : World)

/-- The messages that a step may copy into an edited branch. A call that is not let into the
conversation copies nothing. -/
def copiedBy : Action → List Message
  | .lock i _ _ =>
    match w.waiting[i]? with
    | some ⟨.editedBranch identity _ _ _ _, source⟩ =>
      match lockedConversation source.conversationId identity.userId w.store with
      | .ok _ => sourceRows source w.store
      | .error _ => []
    | _ => []
  | _ => []

def failedBy : Action → Option AgentRunStatus
  | .failRun runId _ _ => (w.store.runs.find? runId).map (·.status)
  | _ => none

def isBegin : Action → Bool
  | .call .. | .lock .. => true
  | _ => false

structure Permits (p : Allowed) (a : Action) : Prop where
  copies : ∀ item ∈ copiedBy w a, p.copies item
  fails : ∀ status, failedBy w a = some status → status ≠ .cancelled → p.fails status
  opens : isBegin a = true → p.opens

end conditions

section changes

variable {p : Allowed} {w : World} {a : Action}
  {s : ConversationStore}

theorem write_changes {r : Except ConversationError ConversationStore}
    (h : ∀ t, r = .ok t → Changes p w.store t) :
    Changes p w.store (w.write r).store := by
  cases r with
  | error e => exact .refl
  | ok t => exact h t rfl

theorem writeSnd_changes {α : Type} {r : Except ConversationError (α × ConversationStore)}
    (h : ∀ a t, r = .ok (a, t) → Changes p w.store t) :
    Changes p w.store (w.write (r.map Prod.snd)).store := by
  apply write_changes
  intro t ht
  cases r with
  | error e => cases ht
  | ok p =>
    cases ht
    exact h p.1 p.2 rfl

theorem locked_changes {q : Waiting} {ids : NewIds} {now : Datetime} {pending : PendingAgentRun}
    {t : ConversationStore}
    (hopens : p.opens) (hcopies : ∀ identity source clientId content snapshot,
      q.call = .editedBranch identity source clientId content snapshot →
        ∀ row, lockedConversation q.source.conversationId identity.userId s = .ok row →
          ∀ item ∈ sourceRows q.source s, p.copies item)
    (h : locked q ids now s = .ok (pending, t)) : Changes p s t := by
  unfold locked at h
  cases hcall : q.call with
  | agentRun => rw [hcall] at h; cases h
  | regeneration identity responseId clientId snapshot =>
    rw [hcall] at h
    exact (beginRegeneration_eq_ok h).changes hopens
  | editedBranch identity sourceId clientId content snapshot =>
    rw [hcall] at h
    obtain ⟨hbegan, hchanges⟩ := beginEditedBranch_eq_ok h
    obtain ⟨row, hrow⟩ := hbegan.locked
    exact hchanges hopens (hcopies _ _ _ _ _ hcall row hrow)

theorem step_changes (hp : Permits w p a) : Changes p w.store (step w a).2.store := by
  cases a with
  | createConversation => exact write_changes fun t ↦ createConversation_changes
  | updateConversation => exact write_changes fun t ↦ updateConversation_changes
  | softDeleteConversation => exact write_changes fun t ↦ softDeleteConversation_changes
  | setMessageFeedback => exact write_changes fun t ↦ setMessageFeedback_changes
  | deleteMessageFeedback => exact write_changes fun t ↦ deleteMessageFeedback_changes
  | call call ids now updatedAt pickTrigger pickRun =>
    cases call with
    | agentRun => exact writeSnd_changes fun q t h ↦ (beginAgentRun_eq_ok h).changes (hp.opens rfl)
    | regeneration identity responseId clientId snapshot =>
      simp only [step, enter]
      split <;> exact .refl
    | editedBranch identity sourceId clientId content snapshot =>
      simp only [step, enter]
      split <;> exact .refl
  | lock i ids now =>
    simp only [step]
    cases hq : w.waiting[i]? with
    | none => exact .refl
    | some q =>
      apply writeSnd_changes
      intro pending t h
      refine locked_changes (hp.opens rfl) (fun identity source clientId content snapshot hcall row hrow
        item hitem ↦ ?_) h
      apply hp.copies
      obtain ⟨call, source⟩ := q
      subst hcall
      simpa [copiedBy, hq, hrow] using hitem
  | markRunStarted => exact writeSnd_changes fun q t ↦ markRunStarted_changes
  | appendRunDelta => exact writeSnd_changes fun q t ↦ appendRunDelta_changes
  | completeRun => exact writeSnd_changes fun q t ↦ completeRun_changes
  | failRun => exact writeSnd_changes fun q t ↦ failRun_changes hp.fails
  | cancelRun => exact writeSnd_changes fun q t ↦ cancelRun_changes

theorem changes_keep {I : ConversationStore → Prop}
    (hI : ∀ s t, I s → Change p s t → I t) {t : ConversationStore}
    (h : Changes p s t) (hs : I s) : I t := by
  induction h with
  | refl => exact hs
  | tail _ hc ih => exact hI _ _ ih hc

theorem step_keeps {I : ConversationStore → Prop} (hI : ∀ s t, I s → Change p s t → I t)
    (hp : Permits w p a) (h : I w.store) : I (step w a).2.store :=
  changes_keep hI (step_changes hp) h

theorem step_keeps_all {I : ConversationStore → Prop} (hI : ∀ s t, I s → Change {} s t → I t)
    (w : World) (a : Action) (h : I w.store) : I (step w a).2.store :=
  step_keeps hI ⟨fun _ _ ↦ trivial, fun _ _ _ ↦ trivial, fun _ ↦ trivial⟩ h

end changes

end CyberNetizen.Conversations
