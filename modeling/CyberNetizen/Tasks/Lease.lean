import CyberNetizen.Application.TaskService
import CyberNetizen.Tasks.Lifecycle

namespace CyberNetizen.Tasks

open Domain Infrastructure Application KeyedTable SqlAlchemyTaskRepository

/-- The lease columns, the attempts and the status of a job tell the same story. -/
structure LeaseConsistent (v : JobView) : Prop where
  running_iff : v.job.status = .running ↔
    ∃ attempt, v.attempts.filter (fun a ↦ a.status = .running) = [attempt] ∧
      attempt.attemptNumber = v.job.attemptCount ∧ v.job.leaseOwner = some attempt.workerId
  idle : v.job.status ≠ .running →
    v.job.leaseOwner = none ∧ v.job.leaseExpiresAt = none ∧
      ∀ attempt ∈ v.attempts, attempt.status ≠ .running
  ended : jobTerminal v.job.status = true → v.job.completedAt.isSome

/-- The one attempt that runs, and that it carries the job's count and lease. -/
structure Held (v : JobView) (attempt : JobAttempt) : Prop where
  alone : v.attempts.filter (fun a ↦ a.status = .running) = [attempt]
  number : attempt.attemptNumber = v.job.attemptCount
  worker : v.job.leaseOwner = some attempt.workerId

section leaseConsistent

variable {v : JobView}

theorem leaseConsistent_of_held {attempt : JobAttempt} (hstatus : v.job.status = .running)
    (h : Held v attempt) : LeaseConsistent v where
  running_iff := iff_of_true hstatus ⟨attempt, h.alone, h.number, h.worker⟩
  idle hidle := absurd hstatus hidle
  ended hended := by simp [hstatus, jobTerminal] at hended

theorem leaseConsistent_of_idle (hstatus : v.job.status ≠ .running)
    (howner : v.job.leaseOwner = none) (hexpiry : v.job.leaseExpiresAt = none)
    (hattempts : ∀ attempt ∈ v.attempts, attempt.status ≠ .running)
    (hended : jobTerminal v.job.status = true → v.job.completedAt.isSome) :
    LeaseConsistent v where
  running_iff := iff_of_false hstatus fun ⟨attempt, halone, _⟩ ↦ by
    have hmem : attempt ∈ v.attempts.filter (fun a ↦ a.status = .running) := by simp [halone]
    obtain ⟨hin, hrunning⟩ := List.mem_filter.mp hmem
    exact hattempts attempt hin (by simpa using hrunning)
  idle _ := ⟨howner, hexpiry, hattempts⟩
  ended := hended

theorem LeaseConsistent.held (h : LeaseConsistent v) (hstatus : v.job.status = .running) :
    ∃ attempt, Held v attempt := by
  obtain ⟨attempt, halone, hnumber, hworker⟩ := h.running_iff.mp hstatus
  exact ⟨attempt, halone, hnumber, hworker⟩

/-- Settling an attempt known to run leaves none running. -/
theorem Held.settled {attempt : JobAttempt} (h : Held v attempt) {attemptId : UUID}
    (hrunning : ∃ a ∈ v.attempts, a.id = attemptId ∧ a.status = .running)
    {f : JobAttempt → JobAttempt} (hf : ∀ a, (f a).status ≠ .running) :
    ∀ a ∈ v.attempts.map (fun a ↦ if a.id = attemptId then f a else a), a.status ≠ .running := by
  have honly : ∀ a ∈ v.attempts, a.status = .running → a = attempt := fun a ha hstatus ↦ by
    have hmem : a ∈ v.attempts.filter (fun a ↦ a.status = .running) := by simp [ha, hstatus]
    rw [h.alone] at hmem
    exact List.mem_singleton.mp hmem
  obtain ⟨b, hb, hid, hstatus⟩ := hrunning
  obtain rfl := honly b hb hstatus
  intro a ha
  obtain ⟨c, hc, rfl⟩ := List.mem_map.mp ha
  split
  · exact hf c
  · rename_i hne
    intro hrunning
    exact hne (honly c hc hrunning ▸ hid)

end leaseConsistent

def SparesRunning (s : TaskStore) : TaskCall → Prop
  | .cancelScheduledAction tenantId actionId _ =>
    ∀ jobId ∈ cancelTarget s tenantId actionId, ∀ job ∈ s.jobs.find? jobId, job.status ≠ .running
  | _ => True

theorem created_leaseConsistent (v : JobView) (h : Created v) : LeaseConsistent v := by
  have hstatus : v.job.status = .pending := h.fresh.status
  exact leaseConsistent_of_idle (by simp [hstatus]) h.fresh.leaseOwner h.fresh.leaseExpiresAt
    (by simp [h.attempts]) (by simp [hstatus, jobTerminal])

theorem ne_running_of_waiting {status : BackgroundJobStatus} (h : jobWaiting status = true) :
    status ≠ .running := by
  rintro rfl
  exact absurd h (by decide)

theorem failStatus_ne_running (permanent : Bool) (row : BackgroundJob) :
    failStatus permanent row ≠ .running := by
  rcases failStatus_cases permanent row with h | h | h | h <;> simp [h]

theorem recoverStatus_ne_running (row : BackgroundJob) : recoverStatus row ≠ .running := by
  rcases recoverStatus_cases row with h | h <;> simp [h]

theorem jobStep_leaseConsistent {s : TaskStore} {call : TaskCall} {v v' : JobView}
    (hP : SparesRunning s call) (hv : view s v.job.id = some v) (h : JobStep s call v v')
    (hI : LeaseConsistent v) : LeaseConsistent v' := by
  cases h with
  | claim hwaiting hdue hcount hcancel hreply =>
    rename_i job attempts inbox workerId now attemptId
    obtain ⟨-, -, hidle⟩ := hI.idle (ne_running_of_waiting hwaiting)
    have hnone : attempts.filter (fun a ↦ a.status = .running) = [] :=
      List.filter_eq_nil_iff.mpr fun a ha ↦ by simpa using hidle a ha
    have hheld : Held ⟨claimed workerId now job,
        attempts ++ [newAttempt attemptId workerId now (claimed workerId now job)],
        inbox.map (inboxSet .processing now none)⟩
        (newAttempt attemptId workerId now (claimed workerId now job)) :=
      ⟨by rw [List.filter_append, hnone]; rfl, rfl, rfl⟩
    exact leaseConsistent_of_held rfl hheld
  | claimCanceled hwaiting hcancel =>
    obtain ⟨howner, hexpiry, hidle⟩ := hI.idle (ne_running_of_waiting hwaiting)
    exact leaseConsistent_of_idle (by simp [claimCanceled]) howner hexpiry hidle fun _ ↦ rfl
  | renew hrunning =>
    obtain ⟨attempt, hheld⟩ := hI.held hrunning
    exact leaseConsistent_of_held hrunning ⟨hheld.alone, hheld.number, hheld.worker⟩
  | complete hrunning hattempt =>
    obtain ⟨attempt, hheld⟩ := hI.held hrunning
    refine leaseConsistent_of_idle ?_ rfl rfl (hheld.settled hattempt fun a ↦ ?_) fun _ ↦ rfl
    · dsimp only [completed]
      split <;> decide
    · dsimp only [attemptCompleted]
      split <;> decide
  | fail hrunning hattempt =>
    obtain ⟨attempt, hheld⟩ := hI.held hrunning
    refine leaseConsistent_of_idle (failStatus_ne_running _ _) rfl rfl
      (hheld.settled hattempt fun a ↦ ?_) fun hended ↦ ?_
    · dsimp only [attemptFailed]
      split_ifs <;> decide
    · dsimp only [failed] at hended ⊢
      rw [if_pos hended]
      rfl
  | cancelWaiting hopen hrunning =>
    obtain ⟨howner, hexpiry, hidle⟩ := hI.idle hrunning
    exact leaseConsistent_of_idle (by simp [cancelWaiting]) howner hexpiry hidle fun _ ↦ rfl
  | cancelRunning hrunning =>
    obtain ⟨attempt, hheld⟩ := hI.held hrunning
    exact leaseConsistent_of_held hrunning ⟨hheld.alone, hheld.number, hheld.worker⟩
  | recover hexpired hlocked =>
    refine leaseConsistent_of_idle (recoverStatus_ne_running _) rfl rfl (fun a ha ↦ ?_) fun h ↦ ?_
    · obtain ⟨b, hb, rfl⟩ := List.mem_map.mp ha
      split
      · simp [attemptExpired]
      · assumption
    · dsimp only [recoveredView, recovered] at h ⊢
      rcases recoverStatus_cases v.job with hstatus | hstatus
      · simp [hstatus]
      · simp [hstatus, jobTerminal] at h
  | cancelScheduled hopen htarget hsource =>
    have hrunning := hP _ htarget _ (view_eq_some.mp hv).1
    obtain ⟨howner, hexpiry, hidle⟩ := hI.idle hrunning
    exact leaseConsistent_of_idle (by simp [cancelWaiting]) howner hexpiry hidle fun _ ↦ rfl

/-- As long as no scheduled action is canceled under a running job, every job of every reachable
state has a consistent lease. -/
theorem lease_consistent {calls : List TaskCall}
    (h : Machine.Along step SparesRunning TaskStore.empty calls) {jobId : UUID} {v : JobView}
    (hv : view (Machine.run step TaskStore.empty calls) jobId = some v) : LeaseConsistent v :=
  view_invariant created_leaseConsistent
    (fun _ _ _ _ _ hP hv hstep hI ↦ jobStep_leaseConsistent hP hv hstep hI) h hv

theorem lease_consistent_claimed :
    ∃ v, view (Machine.run step TaskStore.empty
      [.enqueue (reflectionRequest 1 2 3 (by decide)), .claimJob 1 "worker-1" 7 9 false]) 1 = some v ∧
      v.job.status = .running ∧ LeaseConsistent v := by
  have h : Machine.Along step SparesRunning TaskStore.empty
      [.enqueue (reflectionRequest 1 2 3 (by decide)), .claimJob 1 "worker-1" 7 9 false] :=
    ⟨trivial, trivial, trivial⟩
  obtain ⟨v, hv, hstatus⟩ : ∃ v, view (Machine.run step TaskStore.empty
      [.enqueue (reflectionRequest 1 2 3 (by decide)), .claimJob 1 "worker-1" 7 9 false]) 1 = some v ∧
      v.job.status = .running := ⟨_, rfl, rfl⟩
  exact ⟨v, hv, hstatus, lease_consistent h hv⟩

def cancelWhileRunning : List TaskCall :=
  [.createScheduledAction (messageRequest 3 1 2 1), .claimJob 1 "worker-1" 10 7 false,
    .cancelScheduledAction 0 3 11]

/-- The job is canceled while its attempt runs on, and it keeps its lease. -/
theorem cancelWhileRunning_inconsistent :
    ∃ v, view (Machine.run step TaskStore.empty cancelWhileRunning) 1 = some v ∧
      v.job.status = .canceled ∧ v.job.leaseOwner = some "worker-1" ∧
      v.attempts.map JobAttempt.status = [.running] ∧ ¬ LeaseConsistent v := by
  refine ⟨_, rfl, rfl, rfl, rfl, fun h ↦ ?_⟩
  exact absurd (h.idle (by decide)).1 (by decide)

end CyberNetizen.Tasks
