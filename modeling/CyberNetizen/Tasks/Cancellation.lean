import CyberNetizen.Tasks.Attempts

namespace CyberNetizen.Tasks

open Domain Infrastructure Application KeyedTable SqlAlchemyTaskRepository

def Unfinished (v : JobView) : Prop :=
  jobTerminal v.job.status = false → v.job.resultSummary = []

/-- A job whose cancellation has been asked for, before or after it took effect. -/
structure Revoked (v : JobView) : Prop where
  requested : v.job.cancelRequestedAt.isSome
  ended : jobTerminal v.job.status = true → v.job.status = .canceled
  noResult : v.job.resultSummary = []

/-- The call does not give up the job, out of attempts, for an expired lease while its
cancellation is pending. -/
def HonoursCancel (jobId : UUID) (s : TaskStore) : TaskCall → Prop
  | .recoverExpiredLeases now _ lockedJobs _ =>
    ∀ job ∈ s.jobs.find? jobId, jobExpired now job = true → lockedJobs jobId = false →
      job.cancelRequestedAt.isSome → job.attemptCount < job.maxAttempts
  | _ => True

variable {s : TaskStore} {call : TaskCall} {v v' : JobView} {jobId : UUID}

theorem created_unfinished (v : JobView) (h : Created v) : Unfinished v :=
  fun _ ↦ h.fresh.resultSummary

theorem jobStep_unfinished (h : JobStep s call v v') (hI : Unfinished v) : Unfinished v' := by
  have hempty := hI h.open
  cases h with
  | complete hrunning hattempt =>
    intro hopen
    dsimp only [completed] at hopen
    split at hopen <;> exact absurd hopen (by decide)
  | _ => exact fun _ ↦ hempty

theorem jobStep_revoked (hP : HonoursCancel jobId s call) (hv : view s jobId = some v)
    (h : JobStep s call v v') (hI : Revoked v) : Revoked v' := by
  cases h with
  | claim hwaiting hdue hcount hcancel hreply =>
    exact absurd hI.requested (by simp [hcancel])
  | claimCanceled hwaiting hcancel => exact ⟨hI.requested, fun _ ↦ rfl, hI.noResult⟩
  | renew hrunning => exact ⟨hI.requested, hI.ended, hI.noResult⟩
  | complete hrunning hattempt =>
    have hcancel := hI.requested
    dsimp only at hcancel
    refine ⟨hcancel, fun _ ↦ ?_, ?_⟩
    · dsimp only [completed]
      rw [if_pos hcancel]
    · dsimp only [completed]
      rw [if_pos hcancel]
  | fail hrunning hattempt =>
    refine ⟨hI.requested, fun _ ↦ ?_, hI.noResult⟩
    dsimp only [failed, failStatus]
    rw [if_pos hI.requested]
  | cancelWaiting hopen hrunning => exact ⟨rfl, fun _ ↦ rfl, hI.noResult⟩
  | cancelRunning hrunning => exact ⟨rfl, hI.ended, hI.noResult⟩
  | recover hexpired hlocked =>
    refine ⟨hI.requested, fun hended ↦ ?_, hI.noResult⟩
    obtain rfl := view_id hv
    have hcount := hP _ (view_eq_some.mp hv).1 hexpired hlocked hI.requested
    dsimp only [recoveredView, recovered, recoverStatus] at hended
    rw [if_neg (Nat.not_le.mpr hcount)] at hended
    exact absurd hended (by decide)
  | cancelScheduled hopen htarget hsource => exact ⟨rfl, fun _ ↦ rfl, hI.noResult⟩

/-- A request for a job that has not ended marks it, whatever else it does. -/
theorem requestCancel_revoked {tenantId : UUID} (now : Datetime) (hv : view s jobId = some v)
    (htenant : v.job.tenantId = tenantId) (hopen : jobTerminal v.job.status = false)
    (hI : Unfinished v) :
    ∃ v', view (step s (.requestCancel tenantId jobId now)).2 jobId = some v' ∧ Revoked v' := by
  have hrow := (view_eq_some.mp hv).1
  obtain ⟨job, hjob, hrequested, hstatus, hresult⟩ :
      ∃ job, (step s (.requestCancel tenantId jobId now)).2.jobs.find? jobId = some job ∧
        job.cancelRequestedAt = some now ∧
        (jobTerminal job.status = true → job.status = .canceled) ∧
        job.resultSummary = v.job.resultSummary := by
    dsimp only [step]
    unfold requestCancel
    rw [hrow]
    dsimp only
    rw [if_neg (not_not.mpr htenant), if_neg (by simp [hopen])]
    split
    · rw [setInboxRow_jobs]
      exact ⟨_, Table.find?_updateWhere_self hrow, rfl, fun _ ↦ rfl, rfl⟩
    · rename_i hrunning
      refine ⟨_, Table.find?_updateWhere_self hrow, rfl, fun hended ↦ ?_, rfl⟩
      exact absurd (hopen.symm.trans hended) Bool.false_ne_true
  exact ⟨_, view_of_find? hjob, by simp [hrequested], hstatus, hresult.trans (hI hopen)⟩

/-- A cancellation request is final as long as no recovery gives the job up for its expired lease:
in every later state the job is open or canceled, it has no result, and no execution of it has
been started since. -/
theorem cancel_final {calls : List TaskCall} {tenantId : UUID} {now : Datetime}
    (hv : view (Machine.run step TaskStore.empty calls) jobId = some v)
    (htenant : v.job.tenantId = tenantId) (hopen : jobTerminal v.job.status = false)
    {later : List TaskCall}
    (hlater : Machine.Along step (HonoursCancel jobId)
      (step (Machine.run step TaskStore.empty calls) (.requestCancel tenantId jobId now)).2 later) :
    let s := (step (Machine.run step TaskStore.empty calls) (.requestCancel tenantId jobId now)).2
    (∃ job, (Machine.run step s later).jobs.find? jobId = some job ∧
      (jobTerminal job.status = false ∨ job.status = .canceled) ∧ job.resultSummary = []) ∧
    Machine.countAlong step (claims jobId) s later = 0 := by
  intro s
  have hlinked := run_linked calls
  have hunfinished : Unfinished v := view_invariant created_unfinished
    (fun _ _ _ _ _ _ _ h hI ↦ jobStep_unfinished h hI) Machine.along_true hv
  obtain ⟨w, hw, hrevoked⟩ := requestCancel_revoked now hv htenant hopen hunfinished
  have hstep : ∀ t call u u', Linked t → HonoursCancel jobId t call → view t jobId = some u →
      JobStep t call u u' → Revoked u → Revoked u' :=
    fun _ _ _ _ _ hP hu h hI ↦ jobStep_revoked hP hu h hI
  obtain ⟨w', hw', hrevoked'⟩ := view_tracked hstep (step_linked hlinked _) hlater hw hrevoked
  refine ⟨⟨w'.job, (view_eq_some.mp hw').1, ?_, hrevoked'.noResult⟩, ?_⟩
  · cases hterminal : jobTerminal w'.job.status with
    | true => exact .inr (hrevoked'.ended hterminal)
    | false => exact .inl rfl
  · refine Machine.countAlong_eq_zero (P := HonoursCancel jobId)
      (I := fun t ↦ Linked t ∧ ∃ u, view t jobId = some u ∧ Revoked u) (fun t call ht hP ↦ ?_)
      (fun t call ht ↦ ?_) ⟨step_linked hlinked _, w, hw, hrevoked⟩ hlater
    · obtain ⟨u, hu, hI⟩ := ht.2
      have honce : Machine.Along step (HonoursCancel jobId) t [call] := ⟨hP, trivial⟩
      exact ⟨step_linked ht.1 call, view_tracked hstep ht.1 honce hu hI⟩
    · obtain ⟨u, hu, hI⟩ := ht.2
      refine Bool.eq_false_iff.mpr fun hc ↦ ?_
      obtain ⟨row, -, hrow, -, hcancel, -⟩ := claims_job hc
      obtain rfl := Option.some.inj ((view_eq_some.mp hu).1.symm.trans hrow)
      exact absurd hI.requested (by simp [hcancel])

def lastAttempt : List TaskCall :=
  [.enqueue (reflectionRequest 1 2 1 (by decide)), .claimJob 1 "worker-1" 0 7 false]

theorem cancel_final_complete :
    let s := (step (Machine.run step TaskStore.empty lastAttempt) (.requestCancel 0 1 5)).2
    ∃ job, (Machine.run step s [.completeJob 1 7 "worker-1" [("ok", .bool true)] 6]).jobs.find? 1 =
      some job ∧ job.status = .canceled ∧ job.resultSummary = [] := by
  obtain ⟨v, hv, htenant, hopen⟩ : ∃ v, view (Machine.run step TaskStore.empty lastAttempt) 1 =
      some v ∧ v.job.tenantId = 0 ∧ jobTerminal v.job.status = false := ⟨_, rfl, rfl, rfl⟩
  have hlater : Machine.Along step (HonoursCancel 1)
      (step (Machine.run step TaskStore.empty lastAttempt) (.requestCancel 0 1 5)).2
      [.completeJob 1 7 "worker-1" [("ok", .bool true)] 6] := ⟨trivial, trivial⟩
  obtain ⟨⟨job, hjob, hended, hresult⟩, -⟩ := cancel_final hv htenant hopen hlater
  refine ⟨job, hjob, hended.resolve_left fun h ↦ ?_, hresult⟩
  obtain ⟨done, hdone, hterminal⟩ : ∃ done, (Machine.run step
      (step (Machine.run step TaskStore.empty lastAttempt) (.requestCancel 0 1 5)).2
      [.completeJob 1 7 "worker-1" [("ok", .bool true)] 6]).jobs.find? 1 = some done ∧
      jobTerminal done.status = true := ⟨_, rfl, rfl⟩
  obtain rfl := Option.some.inj (hjob.symm.trans hdone)
  exact absurd (h.symm.trans hterminal) Bool.false_ne_true

/-- The worker of a last attempt dies after the cancellation was asked for: the recovery gives the
job up for its lease, and the request is forgotten. -/
theorem cancel_of_lastAttempt_lost :
    let s := (step (Machine.run step TaskStore.empty lastAttempt) (.requestCancel 0 1 5)).2
    ∃ job, (Machine.run step s [.recoverExpiredLeases (seconds 60) (fun _ ↦ 3) (fun _ ↦ false)
      (fun _ ↦ false)]).jobs.find? 1 = some job ∧ job.cancelRequestedAt = some 5 ∧
      job.status = .deadLetter ∧ ¬ (jobTerminal job.status = false ∨ job.status = .canceled) :=
  ⟨_, rfl, rfl, rfl, by decide⟩

end CyberNetizen.Tasks
