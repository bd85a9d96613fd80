import CyberNetizen.Application.TaskService
import CyberNetizen.Tasks.Lifecycle

namespace CyberNetizen.Tasks

open Domain Infrastructure Application KeyedTable SqlAlchemyTaskRepository

structure Numbered (v : JobView) : Prop where
  bound : v.job.attemptCount ≤ v.job.maxAttempts
  numbers : v.attempts.map JobAttempt.attemptNumber = List.range' 1 v.job.attemptCount

def claims (jobId : UUID) (s : TaskStore) (call : TaskCall) : Bool :=
  match (step s call).1 with
  | .claim (some claim) => claim.job.id = jobId
  | _ => false

variable {s : TaskStore} {call : TaskCall} {v v' : JobView} {jobId : UUID}

/-- No call changes a job that has ended. -/
theorem JobStep.open (h : JobStep s call v v') : jobTerminal v.job.status = false := by
  have hwaiting : ∀ {status}, jobWaiting status = true → jobTerminal status = false := by
    intro status hw
    cases status <;> first | rfl | exact absurd hw (by decide)
  cases h with
  | claim hw => exact hwaiting hw
  | claimCanceled hw => exact hwaiting hw
  | renew hrunning => exact hrunning ▸ rfl
  | complete hrunning => exact hrunning ▸ rfl
  | fail hrunning => exact hrunning ▸ rfl
  | cancelWaiting hopen => exact hopen
  | cancelRunning hrunning => exact hrunning ▸ rfl
  | recover hexpired =>
    unfold jobExpired at hexpired
    simp only [Bool.and_eq_true, decide_eq_true_eq] at hexpired
    exact hexpired.1 ▸ rfl
  | cancelScheduled hopen => exact hopen

theorem created_numbered (v : JobView) (h : Created v) : Numbered v where
  bound := by rw [h.fresh.attemptCount]; exact Nat.zero_le _
  numbers := by rw [h.attempts, h.fresh.attemptCount]; rfl

theorem jobStep_numbered (h : JobStep s call v v') (hI : Numbered v) : Numbered v' := by
  have hmap : ∀ g : JobAttempt → JobAttempt, (∀ a, (g a).attemptNumber = a.attemptNumber) →
      (v.attempts.map g).map JobAttempt.attemptNumber = List.range' 1 v.job.attemptCount := by
    intro g hg
    rw [List.map_map, ← hI.numbers]
    exact List.map_congr_left fun a _ ↦ hg a
  cases h with
  | claim hwaiting hdue hcount hcancel hreply =>
    refine ⟨hcount, ?_⟩
    rw [List.map_append, hI.numbers]
    dsimp only [claimed]
    rw [List.range'_concat, Nat.one_mul, Nat.add_comm 1]
    rfl
  | claimCanceled => exact ⟨hI.bound, hI.numbers⟩
  | renew => exact ⟨hI.bound, hI.numbers⟩
  | complete => exact ⟨hI.bound, hmap _ fun a ↦ by split <;> rfl⟩
  | fail => exact ⟨hI.bound, hmap _ fun a ↦ by split <;> rfl⟩
  | cancelWaiting => exact ⟨hI.bound, hI.numbers⟩
  | cancelRunning => exact ⟨hI.bound, hI.numbers⟩
  | recover => exact ⟨hI.bound, hmap _ fun a ↦ by split <;> rfl⟩
  | cancelScheduled => exact ⟨hI.bound, hI.numbers⟩

/-- Only `claim_job` answers with a claim. -/
theorem claims_call (h : claims jobId s call = true) :
    ∃ id workerId now attemptId locked claim s',
      call = .claimJob id workerId now attemptId locked ∧
      claimJob id workerId now attemptId locked s = .ok (some claim, s') ∧
      (step s call).2 = s' ∧ claim.job.id = jobId := by
  obtain ⟨claim, hclaim, hid⟩ :
      ∃ claim, (step s call).1 = .claim (some claim) ∧ claim.job.id = jobId := by
    unfold claims at h
    split at h
    · rename_i claim hc
      exact ⟨claim, hc, by simpa using h⟩
    · exact absurd h Bool.false_ne_true
  have hreply : ∀ {α : Type} {f : α → TaskReply} {x : Transaction α},
      (∀ a, f a ≠ .claim (some claim)) → (reply s f x).1 ≠ .claim (some claim) := by
    intro α f x hf
    unfold reply
    split
    · exact hf _
    · exact fun he ↦ nomatch he
  cases call with
  | claimJob id workerId now attemptId locked =>
    have hrun : step s (.claimJob id workerId now attemptId locked) =
      reply s .claim (claimJob id workerId now attemptId locked s) := rfl
    rw [hrun] at hclaim ⊢
    cases hx : claimJob id workerId now attemptId locked s with
    | error error =>
      rw [hx] at hclaim
      exact nomatch hclaim
    | ok r =>
      obtain ⟨found, s'⟩ := r
      rw [hx] at hclaim
      obtain rfl : found = some claim := TaskReply.claim.inj hclaim
      exact ⟨id, workerId, now, attemptId, locked, claim, s', rfl, hx, rfl, hid⟩
  | enqueue _ => exact absurd hclaim (hreply fun _ he ↦ nomatch he)
  | replay _ _ _ => exact absurd hclaim (hreply fun _ he ↦ nomatch he)
  | failJob _ _ _ _ _ _ _ _ _ _ => exact absurd hclaim (hreply fun _ he ↦ nomatch he)
  | recoverExpiredLeases _ _ _ _ => exact absurd hclaim (hreply fun _ he ↦ nomatch he)
  | createScheduledAction _ => exact absurd hclaim (hreply fun _ he ↦ nomatch he)
  | decideScheduledAction _ _ _ _ _ _ => exact absurd hclaim (hreply fun _ he ↦ nomatch he)
  | _ => exact nomatch hclaim

theorem claims_job (h : claims jobId s call = true) :
    ∃ row job, s.jobs.find? jobId = some row ∧ (step s call).2.jobs.find? jobId = some job ∧
      row.cancelRequestedAt = none ∧ job.status = .running ∧
      job.attemptCount = row.attemptCount + 1 := by
  obtain ⟨id, workerId, now, attemptId, locked, claim, s', rfl, hclaim, hs', hid⟩ := claims_call h
  rcases claimJob_cases hclaim with ⟨hnone, -⟩ | ⟨rfl, row, hrow, -, -, -, hcases⟩
  · exact absurd hnone (by simp)
  rcases hcases with ⟨hnone, -⟩ | ⟨hcancel, t, hr, hinsert, rfl⟩
  · exact absurd hnone (by simp)
  obtain rfl : id = jobId := by
    rw [← hid, Option.some.inj hr]
    exact (Table.key_of_find? hrow).symm.trans ((claimed workerId now).key_eq row).symm
  obtain ⟨attempts, -, rfl⟩ := TaskStore.insertAttempt_eq_some hinsert
  refine ⟨row, claimed workerId now row, hrow, ?_, hcancel, rfl, rfl⟩
  rw [hs', setInboxRow_jobs]
  exact Table.find?_updateWhere_self hrow

def countOf (jobId : UUID) (s : TaskStore) : ℕ :=
  (view s jobId).elim 0 fun v ↦ v.job.attemptCount

theorem countOf_step (hs : Linked s) (call : TaskCall) :
    countOf jobId (step s call).2 = countOf jobId s + if claims jobId s call then 1 else 0 := by
  have hclaims : claims jobId s call = true →
      ∃ v v', view s jobId = some v ∧ view (step s call).2 jobId = some v' ∧
        v'.job.status = .running ∧ v'.job.attemptCount = v.job.attemptCount + 1 := fun h ↦ by
    obtain ⟨row, job, hrow, hjob, -, hstatus, hcount⟩ := claims_job h
    exact ⟨_, _, view_of_find? hrow, view_of_find? hjob, hstatus, hcount⟩
  unfold countOf
  have hview := step_view hs call jobId
  cases hc : claims jobId s call with
  | true =>
    obtain ⟨v, v', hv, hv', -, hcount⟩ := hclaims hc
    simpa [hv, hv'] using hcount
  | false =>
    generalize hold : view s jobId = old at hview
    generalize hnew : view (step s call).2 jobId = new at hview
    cases hview with
    | same => rfl
    | created hcreated => simp [hcreated.fresh.attemptCount]
    | step hj =>
      cases hj with
      | claim hwaiting hdue hcount hcancel hreply =>
        obtain rfl := view_id hold
        rw [claims, hreply] at hc
        simp [claimed] at hc
      | _ => rfl

/-- Every job has at most `max_attempts` attempts, numbered from one without gaps, one for each
execution started; and a job that has ended never changes again. -/
theorem attempts_bounded (calls : List TaskCall) (jobId : UUID) (v : JobView)
    (hv : view (Machine.run step TaskStore.empty calls) jobId = some v) :
    Numbered v ∧
    Machine.countAlong step (claims jobId) TaskStore.empty calls = v.job.attemptCount ∧
    (jobTerminal v.job.status = true → ∀ later,
      (Machine.run step (Machine.run step TaskStore.empty calls) later).jobs.find? jobId =
        some v.job) := by
  refine ⟨?_, ?_, fun hended later ↦ ?_⟩
  · exact view_invariant created_numbered (fun _ _ _ _ _ _ _ h hI ↦ jobStep_numbered h hI)
      Machine.along_true hv
  · have hcount : countOf jobId (Machine.run step TaskStore.empty calls) =
        countOf jobId TaskStore.empty +
          Machine.countAlong step (claims jobId) TaskStore.empty calls :=
      Machine.countAlong_eq (I := Linked) (countOf jobId) (fun s call hs ↦ step_linked hs call)
        (fun s call hs ↦ countOf_step hs call) linked_empty
    have hzero : countOf jobId TaskStore.empty = 0 := rfl
    have hlast : countOf jobId (Machine.run step TaskStore.empty calls) = v.job.attemptCount := by
      rw [countOf, hv, Option.elim_some]
    rw [hzero, Nat.zero_add, hlast] at hcount
    exact hcount.symm
  · have hlater : Machine.Along step (fun _ _ ↦ True)
        (Machine.run step TaskStore.empty calls) later := Machine.along_true
    obtain ⟨v', hv', rfl⟩ := view_tracked (I := fun v' ↦ v' = v)
      (fun s call w w' _ _ _ hj hw ↦ absurd (hw ▸ hj.open) (by simp [hended]))
      (run_linked calls) hlater hv rfl
    exact (view_eq_some.mp hv').1

def twoAttempts : List TaskCall :=
  [.enqueue (reflectionRequest 1 2 2 (by decide)), .claimJob 1 "worker-1" 0 7 false,
    .recoverExpiredLeases (seconds 60) (fun _ ↦ 3) (fun _ ↦ false) (fun _ ↦ false),
    .claimJob 1 "worker-2" (seconds 60) 8 false, .completeJob 1 8 "worker-2" [] (seconds 61)]

theorem attempts_bounded_twoAttempts :
    ∃ v, view (Machine.run step TaskStore.empty twoAttempts) 1 = some v ∧
      v.job.status = .succeeded ∧ v.attempts.map JobAttempt.attemptNumber = [1, 2] ∧
      Machine.countAlong step (claims 1) TaskStore.empty twoAttempts = 2 := by
  obtain ⟨v, hv, hstatus, hcount⟩ : ∃ v, view (Machine.run step TaskStore.empty twoAttempts) 1 =
      some v ∧ v.job.status = .succeeded ∧ v.job.attemptCount = 2 := ⟨_, rfl, rfl, rfl⟩
  obtain ⟨hnumbered, hclaims, -⟩ := attempts_bounded twoAttempts 1 v hv
  exact ⟨v, hv, hstatus, by rw [hnumbered.numbers, hcount]; rfl, hclaims.trans hcount⟩

end CyberNetizen.Tasks
