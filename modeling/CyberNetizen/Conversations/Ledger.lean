import CyberNetizen.Conversations.Keys
import CyberNetizen.Conversations.Resume

namespace CyberNetizen.Conversations

open Domain Infrastructure Infrastructure.ConversationRepository KeyedTable

/-- What calls that repeat each other have in common. -/
inductive Request
  | agentRun (userId conversationId clientMessageId : UUID)
  | regeneration (agentId responseMessageId clientRequestId : UUID)
  | editedBranch (userId sourceMessageId clientMessageId : UUID)
  deriving DecidableEq

def BeginCall.request : BeginCall → Request
  | .agentRun identity conversationId clientMessageId .. =>
    .agentRun identity.userId conversationId clientMessageId
  | .regeneration identity responseMessageId clientRequestId _ =>
    .regeneration identity.agentId responseMessageId clientRequestId
  | .editedBranch identity sourceMessageId clientMessageId .. =>
    .editedBranch identity.userId sourceMessageId clientMessageId

structure Ledger where
  world : World
  made : List (Request × PendingAgentRun)

def Ledger.empty : Ledger := ⟨.empty, []⟩

def Ledger.store (l : Ledger) : ConversationStore := l.world.store

def record : Output → List (Request × PendingAgentRun)
  | some (call, .ok pending) => if pending.created then [(call.request, pending)] else []
  | _ => []

@[simp] theorem record_none : record none = [] := rfl

@[simp] theorem record_error (call : BeginCall) (e : ConversationError) :
    record (some (call, .error e)) = [] := rfl

theorem record_found (call : BeginCall) {p : PendingAgentRun} (h : p.created = false) :
    record (some (call, .ok p)) = [] := by
  rw [record, h, if_neg Bool.false_ne_true]

theorem record_created (call : BeginCall) {p : PendingAgentRun} (h : p.created = true) :
    record (some (call, .ok p)) = [(call.request, p)] := by
  rw [record, h, if_pos rfl]

def ledgerStep (l : Ledger) (a : Action) : Output × Ledger :=
  let r := step l.world a
  (r.1, ⟨r.2, l.made ++ record r.1⟩)

def branchOf : Request × PendingAgentRun → Option (UUID × Option UUID)
  | (.editedBranch _ sourceMessageId _, p) => some (p.conversation.id, some sourceMessageId)
  | _ => none

def MessageKey.request (key : MessageKey) (clientMessageId : UUID) : Request :=
  match key.editedFromId with
  | none => .agentRun key.senderId key.conversationId clientMessageId
  | some sourceMessageId => .editedBranch key.senderId sourceMessageId clientMessageId

/-- The run that was created for a request is found by the lookups of a repeated call. -/
def MadeFor (s : ConversationStore) (p : PendingAgentRun) : Request → Prop
  | .agentRun userId conversationId clientMessageId =>
    p.conversation.id = conversationId ∧
      (messageKeys s).find? (isClientKey conversationId userId clientMessageId) =
        some (messageKey p.triggerMessage) ∧
      (runKeys s).find? (·.triggerMessageId = p.triggerMessage.id) = some (runKey p.run)
  | .regeneration agentId responseMessageId clientRequestId =>
    ∃ source, (messageKeys s).find? (·.id = responseMessageId) = some source ∧
      source.senderType = .agent ∧ p.conversation.id = source.conversationId ∧
      (messageKeys s).find? (isClientKey source.conversationId agentId clientRequestId) =
        some (messageKey p.responseMessage) ∧
      (runKeys s).find? (·.responseMessageId = p.responseMessage.id) = some (runKey p.run)
  | .editedBranch userId sourceMessageId clientMessageId =>
    (∃ source, (messageKeys s).find? (·.id = sourceMessageId) = some source ∧
      source.senderType = .user) ∧
      p.triggerMessage.editedFromId = some sourceMessageId ∧ p.triggerMessage.senderId = userId ∧
      p.triggerMessage.clientMessageId = some clientMessageId ∧
      p.triggerMessage.conversationId = p.conversation.id ∧
      (runKeys s).find? (·.triggerMessageId = p.triggerMessage.id) = some (runKey p.run)

structure Made (s : ConversationStore) (q : Request) (p : PendingAgentRun) : Prop where
  trigger : messageKey p.triggerMessage ∈ messageKeys s
  response : messageKey p.responseMessage ∈ messageKeys s
  runTrigger : p.run.triggerMessageId = p.triggerMessage.id
  runResponse : p.run.responseMessageId = p.responseMessage.id
  found : MadeFor s p q

theorem Made.grow {s t : ConversationStore} (hg : Grows s t) {q : Request} {p : PendingAgentRun}
    (h : Made s q p) : Made t q p := by
  refine ⟨hg.messages.subset h.trigger, hg.messages.subset h.response, h.runTrigger,
    h.runResponse, ?_⟩
  have hfound := h.found
  cases q with
  | agentRun userId c k =>
    obtain ⟨hc, hkey, hrun⟩ := hfound
    exact ⟨hc, hg.find?_messages hkey, hg.find?_runs hrun⟩
  | regeneration agentId r k =>
    obtain ⟨source, hsource, hagent, hc, hkey, hrun⟩ := hfound
    exact ⟨source, hg.find?_messages hsource, hagent, hc, hg.find?_messages hkey,
      hg.find?_runs hrun⟩
  | editedBranch userId r k =>
    obtain ⟨⟨source, hsource, huser⟩, hedit, hsender, hclient, hc, hrun⟩ := hfound
    exact ⟨⟨source, hg.find?_messages hsource, huser⟩, hedit, hsender, hclient, hc,
      hg.find?_runs hrun⟩

def SourceRead (s : ConversationStore) (w : Waiting) : Prop :=
  (messageKeys s).find? (·.id = w.source.id) = some (messageKey w.source) ∧
  match w.call with
  | .agentRun .. => False
  | .regeneration _ responseMessageId _ _ =>
    w.source.id = responseMessageId ∧ w.source.senderType = .agent
  | .editedBranch _ sourceMessageId .. =>
    w.source.id = sourceMessageId ∧ w.source.senderType = .user

theorem SourceRead.grow {s t : ConversationStore} (hg : Grows s t) {w : Waiting}
    (h : SourceRead s w) : SourceRead t w :=
  ⟨hg.find?_messages h.1, h.2⟩

def SameClient (key key' : MessageKey) : Prop :=
  key.conversationId = key'.conversationId ∧ key.senderId = key'.senderId ∧
    key.clientMessageId = key'.clientMessageId

structure Kept (l : Ledger) : Prop where
  sound : Sound l.store
  once : (l.made.map Prod.fst).Nodup
  made : ∀ e ∈ l.made, Made l.store e.1 e.2
  runs : runKeys l.store = l.made.map fun e ↦ runKey e.2.run
  branches : editedBranches l.store = l.made.filterMap branchOf
  clients : ∀ key ∈ messageKeys l.store, ∀ key' ∈ messageKeys l.store, key.clientMessageId ≠ none →
    SameClient key key' → key = key'
  written : ∀ key ∈ messageKeys l.store, (key.editedFromId = none → key.senderType = .user) →
    ∀ k, key.clientMessageId = some k →
      ∃ e ∈ l.made, e.1 = key.request k ∧ messageKey e.2.triggerMessage = key
  waiting : ∀ w ∈ l.world.waiting, SourceRead l.store w

structure SameRun (p q : PendingAgentRun) : Prop where
  conversation : q.conversation.id = p.conversation.id
  trigger : q.triggerMessage.id = p.triggerMessage.id
  response : q.responseMessage.id = p.responseMessage.id
  run : q.run.id = p.run.id

def Accessible (s : ConversationStore) : BeginCall → Prop
  | .agentRun identity conversationId .. =>
    ∃ row, lockedConversation conversationId identity.userId s = .ok row
  | .regeneration identity messageId .. | .editedBranch identity messageId .. =>
    ∃ source row, s.messages.find? messageId = some source ∧
      lockedConversation source.conversationId identity.userId s = .ok row

/-- Nothing that counts as created has changed, and no call waits that did not wait before. -/
structure Quiet (l : Ledger) (w : World) : Prop where
  messages : messageKeys w.store = messageKeys l.store
  runs : runKeys w.store = runKeys l.store
  branches : editedBranches w.store = editedBranches l.store
  waiting : ∀ x ∈ w.waiting, x ∈ l.world.waiting ∨ SourceRead w.store x

structure FirstRun (l : Ledger) (w : World) (q : Request) (p : PendingAgentRun)
    (new : List MessageKey) : Prop where
  fresh : ∀ e ∈ l.made, e.1 ≠ q
  made : Made w.store q p
  messages : messageKeys w.store = messageKeys l.store ++ new
  runs : runKeys w.store = runKeys l.store ++ [runKey p.run]
  branches : editedBranches w.store = editedBranches l.store ++ (branchOf (q, p)).toList
  clients : ∀ key ∈ new, key.clientMessageId ≠ none →
    (∀ key' ∈ messageKeys l.store, ¬SameClient key key') ∧
      ∀ key' ∈ new, SameClient key key' → key = key'
  written : ∀ key ∈ new, (key.editedFromId = none → key.senderType = .user) →
    ∀ k, key.clientMessageId = some k → q = key.request k ∧ messageKey p.triggerMessage = key
  waiting : ∀ x ∈ w.waiting, x ∈ l.world.waiting

/-- What a step that meets its condition can do. -/
inductive Outcome (l : Ledger) (w : World) : Output → Prop
  | silent (hquiet : Quiet l w) : Outcome l w none
  | refused (call : BeginCall) (e : ConversationError) (hstore : w.store = l.store)
      (hwaiting : ∀ x ∈ w.waiting, x ∈ l.world.waiting)
      (hmade : ∀ r ∈ l.made, r.1 = call.request → ¬Accessible l.store call) :
      Outcome l w (some (call, .error e))
  | found (call : BeginCall) (p : PendingAgentRun) (r : Request × PendingAgentRun)
      (hstore : w.store = l.store) (hwaiting : ∀ x ∈ w.waiting, x ∈ l.world.waiting)
      (hr : r ∈ l.made) (hrequest : r.1 = call.request) (hcreated : p.created = false)
      (hsame : SameRun r.2 p) : Outcome l w (some (call, .ok p))
  | created (call : BeginCall) (p : PendingAgentRun) (new : List MessageKey)
      (hcreated : p.created = true) (hfirst : FirstRun l w call.request p new) :
      Outcome l w (some (call, .ok p))

namespace Kept

variable {l : Ledger}

theorem empty : Kept .empty where
  sound := .empty
  once := List.nodup_nil
  made _ h := absurd h List.not_mem_nil
  runs := rfl
  branches := rfl
  clients _ h := absurd h List.not_mem_nil
  written _ h := absurd h List.not_mem_nil
  waiting _ h := absurd h List.not_mem_nil

theorem unique (h : Kept l) {e e' : Request × PendingAgentRun} (he : e ∈ l.made) (he' : e' ∈ l.made)
    (hq : e.1 = e'.1) : e = e' :=
  List.inj_on_of_nodup_map h.once he he' hq

theorem quiet (h : Kept l) {w : World} (hs : Sound w.store) (hg : Grows l.store w.store)
    (hquiet : Quiet l w) : Kept ⟨w, l.made⟩ := by
  refine ⟨hs, h.once, fun e he ↦ (h.made e he).grow hg, hquiet.runs.trans h.runs,
    hquiet.branches.trans h.branches, ?_, ?_, fun x hx ↦ ?_⟩
  · unfold Ledger.store
    rw [hquiet.messages]
    exact h.clients
  · unfold Ledger.store
    rw [hquiet.messages]
    exact h.written
  · rcases hquiet.waiting x hx with hx | hx
    · exact (h.waiting x hx).grow hg
    · exact hx

theorem created (h : Kept l) {w : World} {q : Request} {p : PendingAgentRun}
    {new : List MessageKey} (hs : Sound w.store) (hg : Grows l.store w.store)
    (hfirst : FirstRun l w q p new) : Kept ⟨w, l.made ++ [(q, p)]⟩ := by
  refine ⟨hs, ?_, ?_, ?_, ?_, ?_, ?_, fun x hx ↦ (h.waiting x (hfirst.waiting x hx)).grow hg⟩
  · rw [List.map_append]
    refine List.nodup_append.mpr ⟨h.once, List.nodup_singleton _, fun a ha b hb ↦ ?_⟩
    obtain ⟨e, he, rfl⟩ := List.mem_map.mp ha
    rw [List.mem_singleton.mp hb]
    exact hfirst.fresh e he
  · intro e he
    rcases List.mem_append.mp he with he | he
    · exact (h.made e he).grow hg
    · rw [List.mem_singleton.mp he]
      exact hfirst.made
  · rw [List.map_append, ← h.runs]
    exact hfirst.runs
  · rw [List.filterMap_append, ← h.branches]
    refine hfirst.branches.trans (congrArg _ ?_)
    cases hb : branchOf (q, p) <;> simp [hb]
  · intro key hkey key' hkey' hsome hsame
    unfold Ledger.store at hkey hkey'
    rw [hfirst.messages] at hkey hkey'
    rcases List.mem_append.mp hkey with hkey | hkey
    · rcases List.mem_append.mp hkey' with hkey' | hkey'
      · exact h.clients key hkey key' hkey' hsome hsame
      · have hsome' : key'.clientMessageId ≠ none := by rw [← hsame.2.2]; exact hsome
        exact absurd ⟨hsame.1.symm, hsame.2.1.symm, hsame.2.2.symm⟩
          ((hfirst.clients key' hkey' hsome').1 key hkey)
    · rcases List.mem_append.mp hkey' with hkey' | hkey'
      · exact absurd hsame ((hfirst.clients key hkey hsome).1 key' hkey')
      · exact (hfirst.clients key hkey hsome).2 key' hkey' hsame
  · intro key hkey huser k hclient
    unfold Ledger.store at hkey
    rw [hfirst.messages] at hkey
    rcases List.mem_append.mp hkey with hkey | hkey
    · obtain ⟨e, he, hrest⟩ := h.written key hkey huser k hclient
      exact ⟨e, List.mem_append_left _ he, hrest⟩
    · exact ⟨(q, p), List.mem_append_right _ (List.mem_singleton_self _),
        hfirst.written key hkey huser k hclient⟩

/-- Whatever a step does, it keeps the record true. -/
theorem outcome (h : Kept l) {w : World} {o : Output} (hs : Sound w.store)
    (hg : Grows l.store w.store) (ho : Outcome l w o) : Kept ⟨w, l.made ++ record o⟩ := by
  have hsame : ∀ w : World, w.store = l.store → (∀ x ∈ w.waiting, x ∈ l.world.waiting) →
      Quiet l w := fun w hw hx ↦
    ⟨congrArg messageKeys hw, congrArg runKeys hw, congrArg editedBranches hw,
      fun x h ↦ .inl (hx x h)⟩
  cases ho with
  | silent hquiet =>
    rw [record_none, List.append_nil]
    exact h.quiet hs hg hquiet
  | refused call e hstore hwaiting =>
    rw [record_error, List.append_nil]
    exact h.quiet hs hg (hsame w hstore hwaiting)
  | found call p r hstore hwaiting hr hrequest hcreated =>
    rw [record_found call hcreated, List.append_nil]
    exact h.quiet hs hg (hsame w hstore hwaiting)
  | created call p new hcreated hfirst =>
    rw [record_created call hcreated]
    exact h.created hs hg hfirst

end Kept

end CyberNetizen.Conversations
