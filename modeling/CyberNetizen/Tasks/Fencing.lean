import CyberNetizen.Application.TaskService
import CyberNetizen.Tasks.Lifecycle

namespace CyberNetizen.Tasks

open Domain Infrastructure Application KeyedTable SqlAlchemyTaskRepository

section attempts

variable {s : TaskStore} {call : TaskCall} {v v' : JobView}

/-- A job step keeps every attempt, or settles it. -/
theorem JobStep.attempt (h : JobStep s call v v') (hv : view s v.job.id = some v)
    {attempt : JobAttempt} (ha : attempt ∈ v.attempts) :
    ∃ attempt' ∈ v'.attempts, attempt'.id = attempt.id ∧
      (attempt' = attempt ∨ attempt.status = .running ∧ attempt'.status ≠ .running) := by
  have hmem : ∀ a ∈ v.attempts, a ∈ s.attempts := fun a ha ↦ by
    rw [(view_eq_some.mp hv).2.1] at ha
    exact (mem_attemptsOf.mp ha).1
  have hsettle : ∀ {attemptId} {f : Update JobAttempt.id}, (∀ a, (f a).status ≠ .running) →
      (∃ a ∈ v.attempts, a.id = attemptId ∧ a.status = .running) →
      ∃ attempt' ∈ v.attempts.map (fun a ↦ if a.id = attemptId then f a else a),
        attempt'.id = attempt.id ∧
          (attempt' = attempt ∨ attempt.status = .running ∧ attempt'.status ≠ .running) := by
    intro attemptId f hf ⟨b, hb, hid, hrunning⟩
    refine ⟨_, List.mem_map_of_mem ha, ?_⟩
    split
    · rename_i hattempt
      have he : attempt = b := Table.eq_of_key_eq (hmem _ ha) (hmem _ hb) (hattempt.trans hid.symm)
      exact ⟨f.key_eq _, .inr ⟨he ▸ hrunning, hf _⟩⟩
    · exact ⟨rfl, .inl rfl⟩
  cases h with
  | claim => exact ⟨attempt, List.mem_append_left _ ha, rfl, .inl rfl⟩
  | claimCanceled => exact ⟨attempt, ha, rfl, .inl rfl⟩
  | renew => exact ⟨attempt, ha, rfl, .inl rfl⟩
  | complete hrunning hattempt =>
    refine hsettle (fun a ↦ ?_) hattempt
    dsimp only [attemptCompleted]
    split <;> decide
  | fail hrunning hattempt =>
    refine hsettle (fun a ↦ ?_) hattempt
    dsimp only [attemptFailed]
    split_ifs <;> decide
  | cancelWaiting => exact ⟨attempt, ha, rfl, .inl rfl⟩
  | cancelRunning => exact ⟨attempt, ha, rfl, .inl rfl⟩
  | recover =>
    refine ⟨_, List.mem_map_of_mem ha, ?_⟩
    split
    · rename_i hrunning
      exact ⟨rfl, .inr ⟨hrunning, by simp [attemptExpired]⟩⟩
    · exact ⟨rfl, .inl rfl⟩
  | cancelScheduled => exact ⟨attempt, ha, rfl, .inl rfl⟩

theorem view_of_attempt (hs : Linked s) {attempt : JobAttempt} (ha : attempt ∈ s.attempts) :
    ∃ v, view s attempt.jobId = some v ∧ attempt ∈ v.attempts := by
  obtain ⟨job, hjob⟩ := hs.attempt attempt ha
  exact ⟨_, view_of_find? hjob, mem_attemptsOf.mpr ⟨ha, rfl⟩⟩

theorem mem_of_view (hv : view s v.job.id = some v) {attempt : JobAttempt}
    (ha : attempt ∈ v.attempts) : attempt ∈ s.attempts := by
  rw [(view_eq_some.mp hv).2.1] at ha
  exact (mem_attemptsOf.mp ha).1

theorem step_attempt (hs : Linked s) (call : TaskCall) {attempt : JobAttempt}
    (ha : attempt ∈ s.attempts) :
    ∃ attempt' ∈ (step s call).2.attempts, attempt'.id = attempt.id ∧
      (attempt' = attempt ∨ attempt.status = .running ∧ attempt'.status ≠ .running) := by
  obtain ⟨v, hv, hmem⟩ := view_of_attempt hs ha
  have hview := step_view hs call attempt.jobId
  rw [hv] at hview
  generalize hnew : view (step s call).2 attempt.jobId = new at hview
  cases hview with
  | same =>
    obtain hid := view_id hnew
    exact ⟨attempt, mem_of_view (hid ▸ hnew) hmem, rfl, .inl rfl⟩
  | step hj =>
    rename_i v'
    obtain ⟨attempt', ha', hstep⟩ := hj.attempt (view_id hv ▸ hv) hmem
    exact ⟨attempt', mem_of_view (view_id hnew ▸ hnew) ha', hstep⟩

/-- An attempt that has left `running` never changes again. -/
theorem settled_attempt_fixed (hs : Linked s) {attempt : JobAttempt} (ha : attempt ∈ s.attempts)
    (hstatus : attempt.status ≠ .running) (calls : List TaskCall) :
    attempt ∈ (Machine.run step s calls).attempts := by
  refine (Machine.run_invariant_all (I := fun s ↦ Linked s ∧ attempt ∈ s.attempts)
    (fun s call h ↦ ⟨step_linked h.1 call, ?_⟩) ⟨hs, ha⟩ calls).2
  obtain ⟨attempt', ha', -, rfl | ⟨hrunning, -⟩⟩ := step_attempt h.1 call h.2
  · exact ha'
  · exact absurd hrunning hstatus

end attempts

section fence

variable {s : TaskStore} {attempt : JobAttempt} {jobId : UUID} {workerId : String} {now : Datetime}

theorem renewJobLease_of_settled (ha : attempt ∈ s.attempts) (hstatus : attempt.status ≠ .running) :
    renewJobLease jobId attempt.id workerId now s = (false, s) := by
  unfold renewJobLease
  rw [Table.find?_key ha]
  split
  · rename_i row a hrow he
    obtain rfl := Option.some.inj he
    rw [if_pos (.inr (.inr (.inl hstatus)))]
  · rfl

theorem lockedExecution_of_settled (jobId : UUID) (workerId : String)
    (ha : attempt ∈ s.attempts) (hstatus : attempt.status ≠ .running) :
    (lockedExecution s jobId attempt.id workerId).2 = none := by
  unfold lockedExecution
  rw [Table.find?_key ha]
  simp [Option.filter, hstatus]

theorem completeJob_of_settled (ha : attempt ∈ s.attempts) (hstatus : attempt.status ≠ .running)
    (result : JsonObject) : completeJob jobId attempt.id workerId result now s = (none, s) := by
  have hlocked := lockedExecution_of_settled jobId workerId ha hstatus
  unfold completeJob
  split
  · rename_i he
    rw [he] at hlocked
    exact absurd hlocked (by simp)
  · rfl

theorem failJob_of_settled (ha : attempt ∈ s.attempts) (hstatus : attempt.status ≠ .running)
    (errorCode errorSummary : String) (permanent timedOut : Bool) (retryAt : Datetime)
    (retryOutbox : OutboxEvent) :
    failJob jobId attempt.id workerId errorCode errorSummary permanent timedOut retryAt retryOutbox
      now s = .ok (none, s) := by
  have hlocked := lockedExecution_of_settled jobId workerId ha hstatus
  unfold failJob
  split
  · rename_i he
    rw [he] at hlocked
    exact absurd hlocked (by simp)
  · rfl

end fence

section count

/-- The attempt has left `running`. -/
def settled (attemptId : UUID) (s : TaskStore) : Bool :=
  (s.attempts.find? attemptId).any fun attempt ↦ attempt.status ≠ .running

def settles (attemptId : UUID) (s : TaskStore) (call : TaskCall) : Bool :=
  !settled attemptId s && settled attemptId (step s call).2

def records (attemptId : UUID) (s : TaskStore) (call : TaskCall) : Bool :=
  match call, (step s call).1 with
  | .completeJob _ id _ _ _, .job (some _) => id = attemptId
  | .failJob _ id _ _ _ _ _ _ _ _, .job (some _) => id = attemptId
  | _, _ => false

variable {s : TaskStore} {attemptId : UUID}

theorem settled_step (hs : Linked s) (call : TaskCall) (h : settled attemptId s = true) :
    settled attemptId (step s call).2 = true := by
  unfold settled at h ⊢
  obtain ⟨attempt, hattempt, hstatus⟩ := (Option.any_eq_true ..).mp h
  obtain ⟨ha, hid⟩ := Table.find?_eq_some.mp hattempt
  have hstatus : attempt.status ≠ .running := by simpa using hstatus
  have hmem : attempt ∈ (step s call).2.attempts := settled_attempt_fixed hs ha hstatus [call]
  rw [← hid, Table.find?_key hmem]
  simpa using hstatus

theorem settled_count (attemptId : UUID) (hs : Linked s) (calls : List TaskCall) :
    (if settled attemptId (Machine.run step s calls) then 1 else 0) =
      (if settled attemptId s then 1 else 0) +
        Machine.countAlong step (settles attemptId) s calls := by
  refine Machine.countAlong_eq (I := Linked) (fun s ↦ if settled attemptId s then 1 else 0)
    (fun s call hs ↦ step_linked hs call) (fun s call hs ↦ ?_) hs
  unfold settles
  cases hbefore : settled attemptId s with
  | true => simp [settled_step hs call hbefore]
  | false => simp

theorem settled_of_update {s' : TaskStore} {f : Update JobAttempt.id} {attempt : JobAttempt}
    (hattempt : s.attempts.find? attemptId = some attempt) (hf : ∀ a, (f a).status ≠ .running)
    (hs' : s'.attempts = s.attempts.updateWhere (fun row ↦ row.id = attemptId) f) :
    settled attemptId s' = true := by
  rw [settled, hs', Table.find?_updateWhere_self hattempt]
  simpa using hf attempt

/-- Only a running attempt takes an outcome, and it is settled by it. -/
theorem records_settles (call : TaskCall) (h : records attemptId s call = true) :
    settles attemptId s call = true := by
  have hopen : ∀ {jobId workerId row attempt},
      lockedExecution s jobId attemptId workerId = (some row, some attempt) →
      settled attemptId s = false := fun hlocked ↦ by
    obtain ⟨-, -, -, hattempt, -, hstatus⟩ := lockedExecution_eq_some hlocked
    simp [settled, hattempt, hstatus]
  cases call with
  | completeJob jobId id workerId result now =>
    have hrun : step s (.completeJob jobId id workerId result now) =
      (.job (completeJob jobId id workerId result now s).1,
        (completeJob jobId id workerId result now s).2) := rfl
    unfold completeJob at hrun
    unfold records at h
    split at hrun
    · rename_i row attempt hlocked
      have hid : id = attemptId := by simpa [hrun] using h
      subst hid
      obtain ⟨-, -, -, hattempt, -, -⟩ := lockedExecution_eq_some hlocked
      unfold settles
      rw [hopen hlocked, hrun, settled_of_update (f := attemptCompleted _ now) hattempt
        (fun a ↦ by dsimp only [attemptCompleted]; split <;> decide)
        (setInboxRow_attempts _ _ _ _ _)]
      rfl
    · simp [hrun] at h
  | failJob jobId id workerId errorCode errorSummary permanent timedOut retryAt retry now =>
    unfold records at h
    have hrun : step s (.failJob jobId id workerId errorCode errorSummary permanent timedOut
      retryAt retry now) = reply s .job (failJob jobId id workerId errorCode errorSummary permanent
        timedOut retryAt retry.outbox now s) := rfl
    generalize hx : failJob jobId id workerId errorCode errorSummary permanent timedOut retryAt
      retry.outbox now s = x at hrun
    cases x with
    | error error => simp [hrun, reply] at h
    | ok r =>
      rcases failJob_cases hx with ⟨hnone, -⟩ | ⟨row, attempt, t, inboxStatus, error, hlocked, hq,
        -, hs', -⟩
      · simp [hrun, reply, hnone] at h
      · have hid : id = attemptId := by
          rw [hrun] at h
          cases hr : r.1 with
          | none => simp [reply, hr] at h
          | some job => simpa [reply, hr] using h
        subst hid
        obtain ⟨-, -, -, hattempt, -, -⟩ := lockedExecution_eq_some hlocked
        unfold settles
        rw [hopen hlocked, hrun]
        have hafter : r.2.attempts = s.attempts.updateWhere (fun row ↦ row.id = id)
            (attemptFailed (failStatus permanent row) timedOut errorCode errorSummary now) := by
          rw [hs', setInboxRow_attempts, hq.attempts]
          rfl
        exact settled_of_update hattempt
          (fun a ↦ by dsimp only [attemptFailed]; split_ifs <;> decide) hafter
  | _ => simp [records] at h

/-- Stale executions are fenced: once an attempt has left `running`, in every later state its
renewal, completion and failure are refused and change nothing. Each attempt is settled once at
most, and the calls that record an outcome are among those that settle. -/
theorem stale_execution_fenced (calls : List TaskCall) :
    (∀ attempt ∈ (Machine.run step TaskStore.empty calls).attempts, attempt.status ≠ .running →
      ∀ later jobId workerId now,
        let s := Machine.run step (Machine.run step TaskStore.empty calls) later
        step s (.renewJobLease jobId attempt.id workerId now) = (.renewed false, s) ∧
        (∀ result, step s (.completeJob jobId attempt.id workerId result now) = (.job none, s)) ∧
        ∀ errorCode errorSummary permanent timedOut retryAt retry,
          step s (.failJob jobId attempt.id workerId errorCode errorSummary permanent timedOut
            retryAt retry now) = (.job none, s)) ∧
    ∀ attemptId,
      Machine.countAlong step (settles attemptId) TaskStore.empty calls =
        (if settled attemptId (Machine.run step TaskStore.empty calls) then 1 else 0) ∧
      Machine.countAlong step (records attemptId) TaskStore.empty calls ≤ 1 := by
  refine ⟨fun attempt ha hstatus later jobId workerId now ↦ ?_, fun attemptId ↦ ?_⟩
  · have hlater := settled_attempt_fixed (run_linked calls) ha hstatus later
    refine ⟨?_, fun result ↦ ?_, fun errorCode errorSummary permanent timedOut retryAt retry ↦ ?_⟩
    · dsimp only [step]
      rw [renewJobLease_of_settled hlater hstatus]
    · dsimp only [step]
      rw [completeJob_of_settled hlater hstatus]
    · dsimp only [step]
      rw [failJob_of_settled hlater hstatus]
      rfl
  · have hcount := settled_count attemptId linked_empty calls
    have hempty : settled attemptId TaskStore.empty = false := rfl
    rw [hempty, if_neg Bool.false_ne_true, Nat.zero_add] at hcount
    refine ⟨hcount.symm, ?_⟩
    calc Machine.countAlong step (records attemptId) TaskStore.empty calls
        ≤ Machine.countAlong step (settles attemptId) TaskStore.empty calls :=
          Machine.countAlong_le fun _ call h ↦ records_settles call h
      _ ≤ 1 := by
          rw [← hcount]
          split <;> decide

/-- The worker loses its lease, the recovery takes the attempt away and the same worker claims the
job again: the first execution can no longer report. -/
theorem stale_execution_fenced_reclaim :
    let s := Machine.run step TaskStore.empty
      [.enqueue (reflectionRequest 1 2 3 (by decide)), .claimJob 1 "worker-1" 0 7 false,
        .recoverExpiredLeases (seconds 60) (fun _ ↦ 3) (fun _ ↦ false) (fun _ ↦ false)]
    let s' := Machine.run step s [.claimJob 1 "worker-1" (seconds 61) 8 false]
    step s' (.completeJob 1 7 "worker-1" [] (seconds 62)) = (.job none, s') := by
  intro s s'
  obtain ⟨attempt, ha, hid, hstatus⟩ :
      ∃ attempt ∈ s.attempts.rows, attempt.id = 7 ∧ attempt.status ≠ .running :=
    ⟨_, List.mem_cons_self, rfl, by decide⟩
  have hfenced := (stale_execution_fenced _).1 attempt ha hstatus
    [.claimJob 1 "worker-1" (seconds 61) 8 false] 1 "worker-1" (seconds 62)
  rw [hid] at hfenced
  exact hfenced.2.1 []

end count

end CyberNetizen.Tasks
