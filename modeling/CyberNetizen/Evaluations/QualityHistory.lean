import CyberNetizen.Application.QualityHistory
import CyberNetizen.Lib.Checks

/-! # The quality history conserves its samples and forgets their order -/

namespace CyberNetizen.Evaluations

open Domain Application EvaluationQualityHistoryService Tally Ranking
open Checks (bind_of_ok mapM_eq_ok_map)

variable {windowMinutes bucketMinutes : ℕ} {start : ℤ} {now : Datetime}
  {runs runs' items items' : List EvaluationQualityRunSample}
  {reviews reviews' : List EvaluationQualityReviewSample}

/-! ## The window -/

structure AcceptedWindow (windowMinutes bucketMinutes : ℕ) : Prop where
  bucket_pos : 0 < bucketMinutes
  buckets : windowMinutes / bucketMinutes * bucketMinutes = windowMinutes

theorem acceptedWindow (h : validateWindow windowMinutes bucketMinutes = .ok ()) :
    AcceptedWindow windowMinutes bucketMinutes := by
  unfold validateWindow at h
  by_cases hwindow : minimumWindowMinutes ≤ windowMinutes ∧ windowMinutes ≤ maximumWindowMinutes
  · by_cases hbucket : minimumBucketMinutes ≤ bucketMinutes ∧ bucketMinutes ≤ windowMinutes
    · by_cases hmod : windowMinutes % bucketMinutes = 0
      · have hpos : 0 < bucketMinutes := Nat.lt_of_lt_of_le (by decide) hbucket.1
        exact ⟨hpos, Nat.div_mul_cancel (Nat.dvd_of_mod_eq_zero hmod)⟩
      · rw [if_neg (not_not.mpr hwindow), if_neg (not_not.mpr hbucket), if_pos hmod] at h
        exact nomatch h
    · rw [if_neg (not_not.mpr hwindow), if_pos hbucket] at h
      exact nomatch h
  · rw [if_pos hwindow] at h
    exact nomatch h

/-- A run lies between the ends of the bucket of its number. -/
theorem bucketIndex_eq_iff (start : ℤ) (hpos : 0 < bucketMinutes) (run : EvaluationQualityRunSample)
    (i : ℕ) :
    bucketIndex start bucketMinutes run = i ↔
      start + minutes (i * bucketMinutes) ≤ (run.createdAt : ℤ) ∧
        (run.createdAt : ℤ) < start + minutes ((i + 1) * bucketMinutes) := by
  have hwidth : (0 : ℤ) < minutes bucketMinutes := by
    unfold minutes
    exact_mod_cast Nat.mul_pos hpos (by decide)
  have hlow : ((minutes (i * bucketMinutes) : ℕ) : ℤ) = i * minutes bucketMinutes := by
    unfold minutes
    push_cast
    ring
  have hhigh : ((minutes ((i + 1) * bucketMinutes) : ℕ) : ℤ) = (i + 1) * minutes bucketMinutes := by
    unfold minutes
    push_cast
    ring
  unfold bucketIndex
  rw [hlow, hhigh]
  constructor
  · intro h
    have hle := Int.ediv_mul_le ((run.createdAt : ℤ) - start) hwidth.ne'
    have hlt := Int.lt_ediv_add_one_mul_self ((run.createdAt : ℤ) - start) hwidth
    rw [h] at hle hlt
    omega
  · rintro ⟨hle, hlt⟩
    refine le_antisymm (Int.lt_add_one_iff.mp ?_) ?_
    · exact (Int.ediv_lt_iff_lt_mul hwidth).mpr (by omega)
    · exact (Int.le_ediv_iff_mul_le hwidth).mpr (by omega)

def bucketOf (start : ℤ) (bucketMinutes : ℕ) (run : EvaluationQualityRunSample) : ℕ :=
  (bucketIndex start bucketMinutes run).toNat

theorem bucketIndex_eq_bucketOf (h : AcceptedWindow windowMinutes bucketMinutes)
    {run : EvaluationQualityRunSample}
    (hfirst : (now : ℤ) - minutes windowMinutes ≤ (run.createdAt : ℤ))
    (hlast : (run.createdAt : ℤ) < now) :
    bucketIndex ((now : ℤ) - minutes windowMinutes) bucketMinutes run =
        bucketOf ((now : ℤ) - minutes windowMinutes) bucketMinutes run ∧
      bucketOf ((now : ℤ) - minutes windowMinutes) bucketMinutes run <
        windowMinutes / bucketMinutes := by
  have hwidth : (0 : ℤ) < minutes bucketMinutes := by
    unfold minutes
    exact_mod_cast Nat.mul_pos h.bucket_pos (by decide)
  have hwindow : ((minutes windowMinutes : ℕ) : ℤ) =
      (windowMinutes / bucketMinutes : ℕ) * minutes bucketMinutes := by
    conv_lhs => rw [← h.buckets]
    unfold minutes
    push_cast
    ring
  have hnonneg : 0 ≤ bucketIndex ((now : ℤ) - minutes windowMinutes) bucketMinutes run :=
    Int.ediv_nonneg (by omega) hwidth.le
  have hlt : bucketIndex ((now : ℤ) - minutes windowMinutes) bucketMinutes run <
      (windowMinutes / bucketMinutes : ℕ) := by
    apply (Int.ediv_lt_iff_lt_mul hwidth).mpr
    rw [← hwindow]
    omega
  unfold bucketOf
  omega

/-- The runs are put into the buckets of their numbers. -/
theorem foldlM_appendRun {n : ℕ} (hruns : ∀ run ∈ runs,
      bucketIndex start bucketMinutes run = bucketOf start bucketMinutes run ∧
        bucketOf start bucketMinutes run < n) :
    runs.foldlM (appendRun start bucketMinutes) (List.replicate n []) =
      .ok ((List.range n).map fun i ↦
        runs.filter fun run ↦ decide (bucketOf start bucketMinutes run = i)) := by
  have hinitial : ∀ earlier, runs.foldlM (appendRun start bucketMinutes)
      ((List.range n).map fun i ↦
        earlier.filter fun run ↦ decide (bucketOf start bucketMinutes run = i)) =
      .ok ((List.range n).map fun i ↦
        (earlier ++ runs).filter fun run ↦ decide (bucketOf start bucketMinutes run = i)) := by
    induction runs with
    | nil =>
      intro earlier
      rw [List.append_nil]
      rfl
    | cons run runs ih =>
      intro earlier
      obtain ⟨hindex, hlt⟩ := hruns run List.mem_cons_self
      have hstep : appendRun start bucketMinutes ((List.range n).map fun i ↦
          earlier.filter fun run ↦ decide (bucketOf start bucketMinutes run = i)) run =
          .ok ((List.range n).map fun i ↦
            (earlier ++ [run]).filter fun run ↦ decide (bucketOf start bucketMinutes run = i)) := by
        unfold appendRun
        dsimp only
        rw [hindex, List.length_map, List.length_range, if_pos (by omega), Int.toNat_natCast,
          modify_append_cells _ run rfl]
      rw [List.foldlM_cons, bind_of_ok hstep, ih (fun r hr ↦ hruns r (List.mem_cons_of_mem run hr)),
        List.append_assoc, List.singleton_append]
  have hempty : List.replicate n ([] : List EvaluationQualityRunSample) =
      (List.range n).map fun i ↦
        ([] : List EvaluationQualityRunSample).filter fun run ↦
          decide (bucketOf start bucketMinutes run = i) := by
    simp
  rw [hempty]
  exact hinitial []

/-! ## The reviews of runs -/

def attributed (reviews : List EvaluationQualityReviewSample)
    (items : List EvaluationQualityRunSample) : List EvaluationQualityReviewSample :=
  items.flatMap fun run ↦ reviews.filter fun review ↦ decide (review.runId = run.runId)

theorem reviewsForRuns_eq (reviews : List EvaluationQualityReviewSample)
    (items : List EvaluationQualityRunSample) :
    reviewsForRuns items (groups (fun review ↦ review.runId) reviews) =
      attributed reviews items := by
  obtain ⟨ks, hnodup, hks, hgroups⟩ := groups_spec (fun review ↦ review.runId) reviews
  have hlookup : ∀ runId, reviewsOf (groups (fun review ↦ review.runId) reviews) runId =
      reviews.filter fun review ↦ decide (review.runId = runId) := by
    intro runId
    unfold reviewsOf
    rw [hgroups, List.find?_map]
    by_cases hmem : runId ∈ ks
    · have hfind : ks.find? ((fun group ↦ decide (group.1 = runId)) ∘
          fun k ↦ (k, reviews.filter fun review ↦ decide (review.runId = k))) = some runId := by
        cases hf : ks.find? ((fun group ↦ decide (group.1 = runId)) ∘
            fun k ↦ (k, reviews.filter fun review ↦ decide (review.runId = k))) with
        | none => simpa using List.find?_eq_none.mp hf runId hmem
        | some k =>
          have hk := List.find?_some hf
          simp only [Function.comp_apply, decide_eq_true_eq] at hk
          rw [hk]
      rw [hfind]
      rfl
    · have hfind : ks.find? ((fun group ↦ decide (group.1 = runId)) ∘
          fun k ↦ (k, reviews.filter fun review ↦ decide (review.runId = k))) = none := by
        apply List.find?_eq_none.mpr
        intro k hk he
        simp only [Function.comp_apply, decide_eq_true_eq] at he
        exact hmem (he ▸ hk)
      rw [hfind]
      refine (List.filter_eq_nil_iff.mpr fun review hreview he ↦ ?_).symm
      exact hmem ((hks runId).mpr ⟨review, hreview, of_decide_eq_true he⟩)
  unfold reviewsForRuns attributed
  simp only [hlookup]

theorem attributed_perm (hitems : items.Perm items') (hreviews : reviews.Perm reviews') :
    (attributed reviews items).Perm (attributed reviews' items') :=
  List.Perm.flatMap hitems fun _ _ ↦ hreviews.filter _

/-- Each review of a run is counted once. -/
theorem length_attributed (hids : (items.map (·.runId)).Nodup) :
    (attributed reviews items).length =
      reviews.countP fun review ↦ decide (review.runId ∈ items.map (·.runId)) := by
  have hsum := @sum_countP_groups _ _ _ (items.map (·.runId)) reviews (fun review ↦ review.runId)
    (fun review ↦ decide (review.runId ∈ items.map (·.runId))) hids
    fun _ _ h ↦ of_decide_eq_true h
  rw [← hsum, attributed, List.length_flatMap, List.map_map]
  congr 1
  apply List.map_congr_left
  intro run hrun
  rw [Function.comp_apply, ← List.countP_eq_length_filter]
  apply List.countP_congr
  intro review _
  have hmem := List.mem_map_of_mem (f := fun r : EvaluationQualityRunSample ↦ r.runId) hrun
  constructor
  · intro he
    rw [Bool.and_eq_true, he]
    rw [decide_eq_true_eq] at he
    exact ⟨rfl, decide_eq_true (he ▸ hmem)⟩
  · exact fun he ↦ (Bool.and_eq_true_iff.mp he).1

/-- Added up over groups of the runs, their reviews are those of all runs. -/
theorem sum_attributed {κ : Type} [DecidableEq κ] {ks : List κ}
    {key : EvaluationQualityRunSample → κ} (hnodup : ks.Nodup) (hkeys : ∀ run ∈ runs, key run ∈ ks)
    (hids : (runs.map (·.runId)).Nodup)
    (hreviews : ∀ review ∈ reviews, review.runId ∈ runs.map (·.runId)) :
    (ks.map fun k ↦
        (attributed reviews (runs.filter fun run ↦ decide (key run = k))).length).sum =
      reviews.length := by
  have hall : (runs.map fun run ↦
      (reviews.filter fun review ↦ decide (review.runId = run.runId)).length).sum =
      reviews.length := by
    have hsum := @sum_length_groups _ _ _ (fun review : EvaluationQualityReviewSample ↦ review.runId)
      reviews (runs.map (·.runId)) hids hreviews
    rwa [List.map_map] at hsum
  rw [← hall, ← @sum_groups _ _ _ key runs ks _ hnodup hkeys]
  congr 1
  apply List.map_congr_left
  intro k _
  rw [attributed, List.length_flatMap]

/-! ## What is measured -/

theorem countPreference_add (reviews : List EvaluationQualityReviewSample) :
    countPreference .candidate reviews + countPreference .reference reviews +
      countPreference .tie reviews = reviews.length := by
  unfold countPreference
  induction reviews with
  | nil => rfl
  | cons review reviews ih =>
    simp only [List.countP_cons, List.length_cons]
    cases review.preference <;> simp <;> omega

theorem average_perm {values values' : List ℚ} (h : values.Perm values') :
    average values = average values' := by
  unfold average
  rw [h.isEmpty_eq, h.sum_eq, h.length_eq]

theorem metrics_perm (hruns : runs.Perm runs') (hreviews : reviews.Perm reviews') :
    metrics runs reviews = metrics runs' reviews' := by
  unfold metrics countPreference
  rw [hruns.length_eq, hruns.countP_eq, average_perm (hruns.map _), hreviews.length_eq,
    hreviews.countP_eq, hreviews.countP_eq, hreviews.countP_eq, average_perm (hreviews.map _),
    average_perm (hreviews.map _)]

theorem min?_perm {l l' : List Datetime} (h : l.Perm l') : l.min? = l'.min? := by
  apply Option.ext
  intro a
  rw [List.min?_eq_some_iff, List.min?_eq_some_iff, h.mem_iff]
  exact and_congr_right fun _ ↦ forall_congr' fun b ↦ by rw [h.mem_iff]

theorem max?_perm {l l' : List Datetime} (h : l.Perm l') : l.max? = l'.max? := by
  apply Option.ext
  intro a
  rw [List.max?_eq_some_iff, List.max?_eq_some_iff, h.mem_iff]
  exact and_congr_right fun _ ↦ forall_congr' fun b ↦ by rw [h.mem_iff]

/-- The summary of a version that has runs. -/
def summary (snapshot : EvaluationVersionSnapshot) (items : List EvaluationQualityRunSample)
    (reviews : List EvaluationQualityReviewSample) : EvaluationVersionQualitySummary where
  snapshot
  firstRunAt := (items.map (·.createdAt)).min?.getD 0
  latestRunAt := (items.map (·.createdAt)).max?.getD 0
  totalRuns := items.length
  gatePassedRuns := items.countP (·.gatePassed)
  averagePassRate := (items.map (·.passRate)).sum / items.length
  completedReviews := reviews.length
  candidateWins := countPreference .candidate reviews
  referenceWins := countPreference .reference reviews
  ties := countPreference .tie reviews
  candidateAverageScore := average (reviews.map (·.candidateAverageScore))
  referenceAverageScore := average (reviews.map (·.referenceAverageScore))

theorem versionSummary_eq (snapshot : EvaluationVersionSnapshot) (h : items ≠ [])
    (reviews : List EvaluationQualityReviewSample) :
    versionSummary snapshot items reviews = .ok (summary snapshot items reviews) := by
  cases items with
  | nil => exact absurd rfl h
  | cons run items =>
    unfold versionSummary metrics summary average
    simp

theorem summary_perm (snapshot : EvaluationVersionSnapshot) (hitems : items.Perm items')
    (hreviews : reviews.Perm reviews') :
    summary snapshot items reviews = summary snapshot items' reviews' := by
  unfold summary countPreference
  rw [min?_perm (hitems.map _), max?_perm (hitems.map _), hitems.length_eq, hitems.countP_eq,
    (hitems.map _).sum_eq, hreviews.length_eq, hreviews.countP_eq, hreviews.countP_eq,
    hreviews.countP_eq, average_perm (hreviews.map _), average_perm (hreviews.map _)]

/-! ## The history -/

theorem versionOrderKey_snapshot (a b : EvaluationVersionQualitySummary)
    (h : versionOrderKey a = versionOrderKey b) : a.snapshot = b.snapshot := by
  unfold versionOrderKey at h
  obtain ⟨sa, _, _, _, _, _, _, _, _, _, _, _⟩ := a
  obtain ⟨sb, _, _, _, _, _, _, _, _, _, _, _⟩ := b
  cases sa
  cases sb
  simp only [EmbeddingLike.apply_eq_iff_eq, Prod.mk.injEq] at h
  simp only [EvaluationVersionSnapshot.mk.injEq]
  exact h.2.2

section history

variable {round4 : ℚ → ℚ} {reader : EvaluationQualityHistoryReader} {tenantId : UUID}
  {samples samples' : EvaluationQualitySamples} {ks : List EvaluationVersionSnapshot}

def bucketPoint (start : ℤ) (bucketMinutes : ℕ) (runs : List EvaluationQualityRunSample)
    (reviews : List EvaluationQualityReviewSample) (i : ℕ) : EvaluationQualityTrendPoint :=
  trendPoint (start + minutes (i * bucketMinutes)) (start + minutes ((i + 1) * bucketMinutes))
    (runs.filter fun run ↦ decide (bucketOf start bucketMinutes run = i))
    (attributed reviews (runs.filter fun run ↦ decide (bucketOf start bucketMinutes run = i)))

def versionOf (runs : List EvaluationQualityRunSample)
    (reviews : List EvaluationQualityReviewSample) (k : EvaluationVersionSnapshot) :
    EvaluationVersionQualitySummary :=
  summary k (runs.filter fun run ↦ decide (run.snapshot = k))
    (attributed reviews (runs.filter fun run ↦ decide (run.snapshot = k)))

/-- The history of the window's runs and reviews with the snapshots that occur. -/
def historyOf (round4 : ℚ → ℚ) (windowMinutes bucketMinutes : ℕ) (now : Datetime)
    (runs : List EvaluationQualityRunSample) (reviews : List EvaluationQualityReviewSample)
    (ks : List EvaluationVersionSnapshot) : EvaluationQualityHistory where
  generatedAt := now
  windowStartedAt := (now : ℤ) - minutes windowMinutes
  windowEndedAt := now
  windowMinutes
  bucketMinutes
  reviewAttribution := .runCreatedAt
  totalRuns := runs.length
  completedReviews := reviews.length
  trend := (List.range (windowMinutes / bucketMinutes)).map
    (bucketPoint ((now : ℤ) - minutes windowMinutes) bucketMinutes runs reviews)
  versions := sortedByDesc versionOrderKey (ks.map (versionOf runs reviews))
  baselineComparisons :=
    baselineComparisons round4 (sortedByDesc versionOrderKey (ks.map (versionOf runs reviews)))
  comparableVersions := decide
    (2 ≤ (sortedByDesc versionOrderKey (ks.map (versionOf runs reviews))).length)

theorem mapIdx_range {α β : Type} (f : ℕ → α → β) (g : ℕ → α) (n : ℕ) :
    ((List.range n).map g).mapIdx f = (List.range n).map fun i ↦ f i (g i) := by
  apply List.ext_getElem (by simp)
  intro i _ _
  simp

theorem mem_windowRuns {ended : ℤ} {run : EvaluationQualityRunSample} :
    run ∈ windowRuns start ended samples ↔
      run ∈ samples.runs ∧ start ≤ (run.createdAt : ℤ) ∧ (run.createdAt : ℤ) < ended := by
  unfold windowRuns
  rw [List.mem_filter, Bool.and_eq_true, decide_eq_true_eq, decide_eq_true_eq]

/-- In an accepted window the history is made of its buckets and of the snapshots that occur. -/
theorem getHistory_eq (round4 : ℚ → ℚ)
    (h : validateWindow windowMinutes bucketMinutes = .ok ())
    (hsamples : reader tenantId ((now : ℤ) - minutes windowMinutes) now = samples) :
    ∃ ks : List EvaluationVersionSnapshot, ks.Nodup ∧
      (∀ k, k ∈ ks ↔ ∃ run ∈ windowRuns ((now : ℤ) - minutes windowMinutes) now samples,
        run.snapshot = k) ∧
      getHistory round4 reader tenantId windowMinutes bucketMinutes now =
        .ok (historyOf round4 windowMinutes bucketMinutes now
          (windowRuns ((now : ℤ) - minutes windowMinutes) now samples)
          (windowReviews ((now : ℤ) - minutes windowMinutes) now samples) ks) := by
  have haccepted := acceptedWindow h
  obtain ⟨ks, hnodup, hks, hgroups⟩ := groups_spec (fun run ↦ run.snapshot)
    (windowRuns ((now : ℤ) - minutes windowMinutes) now samples)
  refine ⟨ks, hnodup, hks, ?_⟩
  have hbuckets := @foldlM_appendRun bucketMinutes ((now : ℤ) - minutes windowMinutes)
    (windowRuns ((now : ℤ) - minutes windowMinutes) now samples) (windowMinutes / bucketMinutes)
    fun run hrun ↦ by
      obtain ⟨-, hfirst, hlast⟩ := mem_windowRuns.mp hrun
      exact bucketIndex_eq_bucketOf haccepted hfirst hlast
  have hversions : (ks.map fun k ↦ (k, (windowRuns ((now : ℤ) - minutes windowMinutes) now
      samples).filter fun run ↦ decide (run.snapshot = k))).mapM (fun group ↦
        versionSummary group.1 group.2 (attributed
          (windowReviews ((now : ℤ) - minutes windowMinutes) now samples) group.2)) =
      .ok (ks.map (versionOf (windowRuns ((now : ℤ) - minutes windowMinutes) now samples)
        (windowReviews ((now : ℤ) - minutes windowMinutes) now samples))) := by
    rw [mapM_eq_ok_map (g := fun group ↦ summary group.1 group.2 (attributed
      (windowReviews ((now : ℤ) - minutes windowMinutes) now samples) group.2)), List.map_map]
    · rfl
    · intro group hgroup
      obtain ⟨k, hk, rfl⟩ := List.mem_map.mp hgroup
      obtain ⟨run, hrun, he⟩ := (hks k).mp hk
      exact versionSummary_eq k
        (List.ne_nil_of_mem (List.mem_filter.mpr ⟨hrun, decide_eq_true he⟩)) _
  unfold getHistory
  rw [bind_of_ok h]
  dsimp only
  rw [hsamples]
  simp only [reviewsForRuns_eq]
  rw [bind_of_ok hbuckets, hgroups, bind_of_ok hversions, mapIdx_range]
  rfl

theorem historyOf_perm {ks' : List EvaluationVersionSnapshot} (hruns : runs.Perm runs')
    (hreviews : reviews.Perm reviews') (hks : ks.Perm ks') :
    historyOf round4 windowMinutes bucketMinutes now runs reviews ks =
      historyOf round4 windowMinutes bucketMinutes now runs' reviews' ks' := by
  have hversion : versionOf runs reviews = versionOf runs' reviews' := by
    funext k
    exact summary_perm k (hruns.filter _) (attributed_perm (hruns.filter _) hreviews)
  have hpoint : bucketPoint ((now : ℤ) - minutes windowMinutes) bucketMinutes runs reviews =
      bucketPoint ((now : ℤ) - minutes windowMinutes) bucketMinutes runs' reviews' := by
    funext i
    unfold bucketPoint trendPoint
    rw [metrics_perm (hruns.filter _) (attributed_perm (hruns.filter _) hreviews)]
  have hversions : sortedByDesc versionOrderKey (ks.map (versionOf runs reviews)) =
      sortedByDesc versionOrderKey (ks'.map (versionOf runs' reviews')) := by
    rw [hversion]
    apply sortedByDesc_eq (hks.map _)
    intro a ha b hb he
    obtain ⟨k, -, rfl⟩ := List.mem_map.mp ha
    obtain ⟨k', -, rfl⟩ := List.mem_map.mp hb
    exact congrArg (versionOf runs' reviews') (versionOrderKey_snapshot _ _ he)
  unfold historyOf
  rw [hruns.length_eq, hreviews.length_eq, hpoint, hversions]

theorem windowRuns_perm {ended : ℤ} (hruns : samples.runs.Perm samples'.runs) :
    (windowRuns start ended samples).Perm (windowRuns start ended samples') :=
  hruns.filter _

theorem windowReviews_perm {ended : ℤ} (hruns : samples.runs.Perm samples'.runs)
    (hreviews : samples.reviews.Perm samples'.reviews) :
    (windowReviews start ended samples).Perm (windowReviews start ended samples') := by
  have hids : ∀ runId, runId ∈ (windowRuns start ended samples).map (·.runId) ↔
      runId ∈ (windowRuns start ended samples').map (·.runId) :=
    fun runId ↦ ((windowRuns_perm hruns).map _).mem_iff
  unfold windowReviews
  simp only [hids]
  exact hreviews.filter _

def inBucket (point : EvaluationQualityTrendPoint) (run : EvaluationQualityRunSample) : Bool :=
  decide (point.bucketStartedAt ≤ (run.createdAt : ℤ)) &&
    decide ((run.createdAt : ℤ) < point.bucketEndedAt)

def runMeets (runs : List EvaluationQualityRunSample) (p : EvaluationQualityRunSample → Bool)
    (review : EvaluationQualityReviewSample) : Bool :=
  runs.any fun run ↦ decide (run.runId = review.runId) && p run

/-- Each run and each review of the window is counted once in the trend and once in the versions,
where its run belongs, and each review has one preference. -/
structure Conserves (runs : List EvaluationQualityRunSample)
    (reviews : List EvaluationQualityReviewSample) (history : EvaluationQualityHistory) : Prop where
  total_runs : history.totalRuns = runs.length
  completed_reviews : history.completedReviews = reviews.length
  trend_runs_sum : (history.trend.map fun point ↦ point.totalRuns).sum = history.totalRuns
  version_runs_sum : (history.versions.map fun version ↦ version.totalRuns).sum = history.totalRuns
  trend_reviews_sum :
    (history.trend.map fun point ↦ point.completedReviews).sum = history.completedReviews
  version_reviews_sum :
    (history.versions.map fun version ↦ version.completedReviews).sum = history.completedReviews
  trend_runs : ∀ point ∈ history.trend, point.totalRuns = runs.countP (inBucket point)
  trend_reviews : ∀ point ∈ history.trend,
    point.completedReviews = reviews.countP (runMeets runs (inBucket point))
  version_runs : ∀ version ∈ history.versions,
    version.totalRuns = runs.countP fun run ↦ decide (run.snapshot = version.snapshot)
  version_reviews : ∀ version ∈ history.versions, version.completedReviews =
    reviews.countP (runMeets runs fun run ↦ decide (run.snapshot = version.snapshot))
  trend_preferences : ∀ point ∈ history.trend,
    point.candidateWins + point.referenceWins + point.ties = point.completedReviews
  version_preferences : ∀ version ∈ history.versions,
    version.candidateWins + version.referenceWins + version.ties = version.completedReviews

theorem length_attributed_filter (hids : (runs.map (·.runId)).Nodup)
    (p : EvaluationQualityRunSample → Bool) :
    (attributed reviews (runs.filter p)).length = reviews.countP (runMeets runs p) := by
  have hsub : ((runs.filter p).map (·.runId)).Nodup := hids.sublist (List.filter_sublist.map _)
  rw [length_attributed hsub]
  apply List.countP_congr
  intro review _
  unfold runMeets
  rw [decide_eq_true_eq, List.mem_map, List.any_eq_true]
  apply exists_congr
  intro run
  rw [List.mem_filter, Bool.and_eq_true, decide_eq_true_eq]
  exact ⟨fun ⟨⟨hrun, hp⟩, he⟩ ↦ ⟨hrun, he, hp⟩, fun ⟨hrun, he, hp⟩ ↦ ⟨⟨hrun, hp⟩, he⟩⟩

theorem historyOf_conserves (haccepted : AcceptedWindow windowMinutes bucketMinutes)
    (hids : (runs.map (·.runId)).Nodup)
    (hreviews : ∀ review ∈ reviews, review.runId ∈ runs.map (·.runId))
    (hwindow : ∀ run ∈ runs,
      (now : ℤ) - minutes windowMinutes ≤ (run.createdAt : ℤ) ∧ (run.createdAt : ℤ) < now)
    (hnodup : ks.Nodup) (hks : ∀ run ∈ runs, run.snapshot ∈ ks) :
    Conserves runs reviews (historyOf round4 windowMinutes bucketMinutes now runs reviews ks) := by
  have hindex : ∀ run ∈ runs, bucketOf ((now : ℤ) - minutes windowMinutes) bucketMinutes run ∈
      List.range (windowMinutes / bucketMinutes) := fun run hrun ↦
    List.mem_range.mpr (bucketIndex_eq_bucketOf haccepted (hwindow run hrun).1 (hwindow run hrun).2).2
  have hbucket : ∀ i, ∀ run ∈ runs,
      decide (bucketOf ((now : ℤ) - minutes windowMinutes) bucketMinutes run = i) = true ↔
        inBucket (bucketPoint ((now : ℤ) - minutes windowMinutes) bucketMinutes runs reviews i)
          run = true := by
    intro i run hrun
    obtain ⟨heq, -⟩ := bucketIndex_eq_bucketOf haccepted (hwindow run hrun).1 (hwindow run hrun).2
    have hiff := bucketIndex_eq_iff ((now : ℤ) - minutes windowMinutes) haccepted.bucket_pos run i
    rw [heq, Nat.cast_inj] at hiff
    rw [decide_eq_true_eq, hiff]
    unfold inBucket
    rw [Bool.and_eq_true, decide_eq_true_eq, decide_eq_true_eq]
    rfl
  have hsorted : (sortedByDesc versionOrderKey (ks.map (versionOf runs reviews))).Perm
      (ks.map (versionOf runs reviews)) := List.mergeSort_perm _ _
  have hversion : ∀ version ∈ sortedByDesc versionOrderKey (ks.map (versionOf runs reviews)),
      ∃ k ∈ ks, versionOf runs reviews k = version := fun version hmem ↦
    List.mem_map.mp (hsorted.mem_iff.mp hmem)
  constructor
  case total_runs => rfl
  case completed_reviews => rfl
  case trend_runs_sum =>
    have hsum := sum_length_groups List.nodup_range hindex
    unfold historyOf
    rw [List.map_map]
    exact hsum
  case version_runs_sum =>
    have hsum := sum_length_groups hnodup hks
    unfold historyOf
    rw [(hsorted.map _).sum_eq, List.map_map]
    exact hsum
  case trend_reviews_sum =>
    have hsum := sum_attributed List.nodup_range hindex hids hreviews
    unfold historyOf
    rw [List.map_map]
    exact hsum
  case version_reviews_sum =>
    have hsum := sum_attributed hnodup hks hids hreviews
    unfold historyOf
    rw [(hsorted.map _).sum_eq, List.map_map]
    exact hsum
  case trend_runs =>
    intro point hpoint
    obtain ⟨i, -, rfl⟩ := List.mem_map.mp hpoint
    rw [← List.countP_congr (hbucket i), List.countP_eq_length_filter]
    rfl
  case trend_reviews =>
    intro point hpoint
    obtain ⟨i, -, rfl⟩ := List.mem_map.mp hpoint
    have hsame : runs.filter (inBucket (bucketPoint ((now : ℤ) - minutes windowMinutes)
        bucketMinutes runs reviews i)) =
        runs.filter fun run ↦
          decide (bucketOf ((now : ℤ) - minutes windowMinutes) bucketMinutes run = i) :=
      List.filter_congr fun run hrun ↦ Bool.eq_iff_iff.mpr (hbucket i run hrun).symm
    rw [← length_attributed_filter hids, hsame]
    rfl
  case version_runs =>
    intro version hmem
    obtain ⟨k, -, rfl⟩ := hversion version hmem
    rw [List.countP_eq_length_filter]
    rfl
  case version_reviews =>
    intro version hmem
    obtain ⟨k, -, rfl⟩ := hversion version hmem
    rw [← length_attributed_filter hids]
    rfl
  case trend_preferences =>
    intro point hpoint
    obtain ⟨i, -, rfl⟩ := List.mem_map.mp hpoint
    exact countPreference_add _
  case version_preferences =>
    intro version hmem
    obtain ⟨k, -, rfl⟩ := hversion version hmem
    exact countPreference_add _

/-- For samples with different run ids the history of an accepted window is made without an error, it
conserves the samples, and it is the same in whatever order they are read. -/
theorem getHistory_conserves (round4 : ℚ → ℚ) (reader : EvaluationQualityHistoryReader)
    (tenantId : UUID) (now : Datetime)
    (haccepted : validateWindow windowMinutes bucketMinutes = .ok ())
    (hsamples : reader tenantId ((now : ℤ) - minutes windowMinutes) now = samples)
    (hids : (samples.runs.map (·.runId)).Nodup) :
    ∃ history,
      getHistory round4 reader tenantId windowMinutes bucketMinutes now = .ok history ∧
      Conserves (windowRuns ((now : ℤ) - minutes windowMinutes) now samples)
        (windowReviews ((now : ℤ) - minutes windowMinutes) now samples) history ∧
      ∀ (reader' : EvaluationQualityHistoryReader) (samples' : EvaluationQualitySamples),
        reader' tenantId ((now : ℤ) - minutes windowMinutes) now = samples' →
        samples.runs.Perm samples'.runs → samples.reviews.Perm samples'.reviews →
        getHistory round4 reader' tenantId windowMinutes bucketMinutes now = .ok history := by
  obtain ⟨ks, hnodup, hks, hhistory⟩ := getHistory_eq round4 haccepted hsamples
  refine ⟨_, hhistory, ?_, ?_⟩
  · refine historyOf_conserves (acceptedWindow haccepted) ?_ ?_ ?_ hnodup ?_
    · exact hids.sublist (List.filter_sublist.map _)
    · intro review hreview
      exact of_decide_eq_true (Bool.and_eq_true_iff.mp (List.mem_filter.mp hreview).2).1
    · exact fun run hrun ↦ (mem_windowRuns.mp hrun).2
    · exact fun run hrun ↦ (hks _).mpr ⟨run, hrun, rfl⟩
  · intro reader' samples' hsamples' hruns hreviews
    obtain ⟨ks', hnodup', hks', hhistory'⟩ := getHistory_eq round4 haccepted hsamples'
    rw [hhistory', historyOf_perm (windowRuns_perm hruns) (windowReviews_perm hruns hreviews)
      (keys_perm (windowRuns_perm hruns) hnodup hnodup' hks hks')]

end history

def daySamples : EvaluationQualitySamples where
  runs := [⟨1, 1000000, true, 1, ⟨"s", 1, 1, 1, 1, 1, 1, "p", "m"⟩⟩,
    ⟨2, 3600000000, false, 1 / 2, ⟨"s", 1, 2, 1, 1, 1, 1, "p", "m"⟩⟩]
  reviews := [⟨1, .tie, 4, 3, 5000000⟩]

theorem getHistory_conserves_day :
    ∃ history,
      getHistory id (fun _ _ _ ↦ daySamples) 1 1440 60 86400000000 = .ok history ∧
      Conserves (windowRuns ((86400000000 : ℕ) - minutes 1440) (86400000000 : ℕ) daySamples)
        (windowReviews ((86400000000 : ℕ) - minutes 1440) (86400000000 : ℕ) daySamples) history ∧
      ∀ (reader' : EvaluationQualityHistoryReader) (samples' : EvaluationQualitySamples),
        reader' 1 ((86400000000 : ℕ) - minutes 1440) (86400000000 : ℕ) = samples' →
        daySamples.runs.Perm samples'.runs → daySamples.reviews.Perm samples'.reviews →
        getHistory id reader' 1 1440 60 86400000000 = .ok history :=
  getHistory_conserves id (fun _ _ _ ↦ daySamples) 1 86400000000 rfl rfl (by decide)

end CyberNetizen.Evaluations
