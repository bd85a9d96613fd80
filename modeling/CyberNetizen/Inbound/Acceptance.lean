import CyberNetizen.Inbound.RoundTrip
import CyberNetizen.Tasks.InboxMirror

namespace CyberNetizen.Tasks

open Domain Cognition Infrastructure KeyedTable

/-- The answer of `enqueue` that the job is new. -/
def isNew : TaskReply → Bool
  | .stored _ created => created
  | _ => false

section origins

variable {s : TaskStore} {request : EnqueueRequest}

theorem jobByDeduplication_origin (s : TaskStore) (tenantId : UUID) (key : String) :
    (s.jobByDeduplication tenantId key).map jobOrigin =
      (jobOrigins s).find? fun o ↦ o.tenantId = tenantId && o.deduplicationKey = key := by
  rw [jobOrigins, List.find?_map, TaskStore.jobByDeduplication]
  rfl

theorem jobByDeduplication_run (hs : Linked s) {calls : List TaskCall}
    (hdraws : Machine.Along InMemoryTaskRepository.step DrawsNew s calls) {tenantId : UUID}
    {key : String} {job : BackgroundJob} (h : s.jobByDeduplication tenantId key = some job) :
    ∃ current, (Machine.run InMemoryTaskRepository.step s calls).jobByDeduplication tenantId key =
        some current ∧ jobOrigin current = jobOrigin job := by
  obtain ⟨-, later, hlater⟩ := inMemory_invariant (I := fun t ↦ jobOrigins s <+: jobOrigins t)
    (fun _ _ _ hchange ht ↦ ht.trans hchange.origins) hs List.prefix_rfl hdraws
  have hfound := jobByDeduplication_origin s tenantId key
  rw [h, Option.map_some] at hfound
  have hcurrent :=
    jobByDeduplication_origin (Machine.run InMemoryTaskRepository.step s calls) tenantId key
  rw [← hlater, List.find?_append, ← hfound, Option.some_or] at hcurrent
  exact Option.map_eq_some_iff.mp hcurrent

/-- A new job is stored behind the others, under a key that no job has. -/
theorem enqueue_isNew (hdraws : DrawsNew s (.enqueue request))
    (h : isNew (InMemoryTaskRepository.step s (.enqueue request)).1 = true) :
    (InMemoryTaskRepository.step s (.enqueue request)).2.jobByDeduplication request.job.tenantId
      request.job.deduplicationKey = some request.job := by
  have hput : (s.jobs.put request.job).rows = s.jobs.rows ++ [request.job] := by
    refine Table.put_of_not_mem fun hmem ↦ ?_
    obtain ⟨row, hrow, hid⟩ := List.mem_map.mp hmem
    exact Table.find?_eq_none.mp hdraws.1 row hrow hid
  unfold InMemoryTaskRepository.step InMemoryTaskRepository.enqueue at h ⊢
  dsimp only at h ⊢
  cases hkey : s.jobByDeduplication request.job.tenantId request.job.deduplicationKey with
  | some existing =>
    rw [hkey] at h
    exact absurd h Bool.false_ne_true
  | none =>
    have hfind : (s.jobs.put request.job).rows.find? (fun job ↦
        job.tenantId = request.job.tenantId &&
          job.deduplicationKey = request.job.deduplicationKey) = some request.job := by
      unfold TaskStore.jobByDeduplication at hkey
      rw [hput, List.find?_append, hkey]
      simp
    rw [hkey] at h
    cases hinbox : request.inbox with
    | none => exact hfind
    | some event =>
      rw [hinbox] at h
      dsimp only at h ⊢
      cases hevent : s.inboxByEventKey event.tenantId event.eventKey with
      | none => exact hfind
      | some duplicate =>
        rw [hevent] at h
        dsimp only at h
        split at h <;> exact absurd h Bool.false_ne_true

theorem enqueue_of_key {existing : BackgroundJob}
    (h : s.jobByDeduplication request.job.tenantId request.job.deduplicationKey = some existing) :
    InMemoryTaskRepository.step s (.enqueue request) = (.stored existing false, s) := by
  unfold InMemoryTaskRepository.step InMemoryTaskRepository.enqueue
  dsimp only
  rw [h]
  rfl

theorem sql_enqueue_inbox {event : InboxEvent} (hinbox : request.inbox = some event) :
    isNew (SqlAlchemyTaskRepository.step s (.enqueue request)).1 = false := by
  have hsource := request.sourceInbox
  rw [hinbox] at hsource
  unfold SqlAlchemyTaskRepository.step SqlAlchemyTaskRepository.enqueue
  dsimp only
  rw [hinbox]
  dsimp only [Option.map_some, Option.toList_some, List.singleton_append]
  rw [SqlAlchemyTaskRepository.flush_inbox hsource]
  dsimp only
  cases s.jobByDeduplication request.job.tenantId request.job.deduplicationKey with
  | some existing => rfl
  | none =>
    dsimp only
    split <;> rfl

end origins

end CyberNetizen.Tasks

namespace CyberNetizen.Inbound

open Domain Adapters Infrastructure Application Checks Tasks InMemoryTaskRepository
open Application.InboundGatewayService

structure SameMessage (e e' : InboundEnvelope) : Prop where
  tenantId : e.tenantId = e'.tenantId
  channelId : e.channelId = e'.channelId
  externalMessageId : e.externalMessageId = e'.externalMessageId

theorem envelope_congr {job job' : BackgroundJob} (htenant : job.tenantId = job'.tenantId)
    (hpayload : job.payload = job'.payload) :
    InboundMessageTaskHandler.envelope job = InboundMessageTaskHandler.envelope job' := by
  unfold InboundMessageTaskHandler.envelope
  rw [htenant, hpayload]

/-- A message that the gateway has stored in memory is stored once: however the tasks go on, a later
delivery of it changes nothing and is answered with the job of the first one, which still says what
the first delivery said. The database stores no delivery at all. -/
theorem stored_message_is_stored_once {ports ports' : Ports}
    {tenantId tenantId' agentId agentId' channelId channelId' : UUID}
    {event event' : ChannelInboundEvent} {verification verification' : InboundVerification}
    {envelope envelope' : InboundEnvelope} {request request' : EnqueueRequest}
    {createdBy createdBy' : Option UUID} {jobId jobId' inboxId inboxId' eventId eventId' : UUID}
    {now now' : Datetime} (before after : List TaskCall)
    (hfirst : acceptNormalized ports tenantId agentId channelId event verification createdBy jobId
      inboxId eventId now = .ok (envelope, request))
    (hdraws : Machine.Along step DrawsNew .empty (before ++ .enqueue request :: after))
    (hnew : isNew (step (Machine.run step .empty before) (.enqueue request)).1 = true)
    (hagain : acceptNormalized ports' tenantId' agentId' channelId' event' verification' createdBy'
      jobId' inboxId' eventId' now' = .ok (envelope', request'))
    (hsame : SameMessage envelope envelope') (hsha : ports'.sha256 = ports.sha256) :
    let s := Machine.run step .empty (before ++ .enqueue request :: after)
    (∃ job, step s (.enqueue request') = (.stored job false, s) ∧
      jobOrigin job = jobOrigin request.job ∧ job.payload = envelopePayload envelope ∧
      InboundMessageTaskHandler.envelope job = InboundMessageTaskHandler.envelope request.job) ∧
    ∀ t, isNew (SqlAlchemyTaskRepository.step t (.enqueue request)).1 = false := by
  intro s
  obtain ⟨hbefore, hnow, hafter⟩ := Machine.along_append.mp hdraws
  have hlinked : Linked (Machine.run step .empty (before ++ [.enqueue request])) :=
    inMemory_linked linked_empty (Machine.along_append.mpr ⟨hbefore, hnow, trivial⟩)
  rw [Machine.run_append] at hlinked
  obtain ⟨job, hjob, horigin⟩ := jobByDeduplication_run hlinked hafter (enqueue_isNew hnow hnew)
  obtain ⟨-, hstored, htenant, hkey, inbox, hinbox⟩ := acceptNormalized_spec hfirst
  obtain ⟨-, -, htenant', hkey', -⟩ := acceptNormalized_spec hagain
  rw [hsha, ← hsame.channelId, ← hsame.externalMessageId, hkey] at hkey'
  have hpayload : job.payload = request.job.payload := congrArg JobOrigin.payload horigin
  have hrun : s = Machine.run step (step (Machine.run step .empty before) (.enqueue request)).2 after :=
    Machine.run_append
  refine ⟨⟨job, enqueue_of_key ?_, horigin, hpayload.trans hstored, ?_⟩,
    fun t ↦ sql_enqueue_inbox hinbox⟩
  · rw [← Except.ok.inj hkey', htenant', ← hsame.tenantId, ← htenant, hrun]
    exact hjob
  · exact envelope_congr (congrArg JobOrigin.tenantId horigin) hpayload

def textRedelivered (text : String) : Except InboundError (InboundEnvelope × EnqueueRequest) :=
  acceptNormalized boundUser 0 1 2 (textEvent text)
    { signatureValid := true, payloadSizeBytes := 200, receivedAt := 1700000060000000 } none 16 17
    18 1700000060000000

def textHandled : List TaskCall :=
  [.claimJob 6 "worker" 1700000001000000 9 false,
    .completeJob 6 9 "worker" [] 1700000002000000]

theorem stored_message_is_stored_once_hi :
    ∃ first again job, textAccepted "hi" = .ok (textEnvelope "hi", first) ∧
      textRedelivered "hi" = .ok ({ textEnvelope "hi" with receivedAt := 1700000060000000 }, again) ∧
      (step (Machine.run step .empty (.enqueue first :: textHandled)) (.enqueue again)).1 =
        .stored job false ∧ jobOrigin job = jobOrigin first.job := by
  have hfirst : (textAccepted "hi").toOption.map
      (fun accepted ↦ (accepted.1, isNew (step .empty (.enqueue accepted.2)).1)) =
      some (textEnvelope "hi", true) := by
    decide +kernel
  have hagain : (textRedelivered "hi").toOption.map Prod.fst =
      some { textEnvelope "hi" with receivedAt := 1700000060000000 } := by
    decide +kernel
  obtain ⟨⟨envelope, first⟩, haccepted, hstored⟩ := of_toOption hfirst
  obtain ⟨rfl, hnew⟩ := Prod.mk.inj hstored
  obtain ⟨⟨envelope', again⟩, hredelivered, rfl⟩ := of_toOption hagain
  obtain ⟨⟨job, hanswer, horigin, -⟩, -⟩ := stored_message_is_stored_once [] textHandled haccepted
    ⟨drawsNew_first first, trivial, trivial, trivial⟩ hnew hredelivered ⟨rfl, rfl, rfl⟩ rfl
  exact ⟨first, again, job, haccepted, hredelivered, congrArg Prod.fst hanswer, horigin⟩

end CyberNetizen.Inbound
