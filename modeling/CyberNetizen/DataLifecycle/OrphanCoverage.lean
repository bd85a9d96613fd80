import CyberNetizen.Application.DataLifecycleService
import CyberNetizen.Lib.Sweep

namespace CyberNetizen.DataLifecycle

open Domain Infrastructure Infrastructure.SqlAlchemyDataLifecycleRepository Application
open Application.DataLifecycleService KeyedTable

section sweep

variable {deleteFails : String → Bool} {known : List String} {cutoff : ℤ} {start : String}

theorem mem_sweep {l : List StoredObjectEntry} {p : OrphanProgress} {item : StoredObject} :
    item ∈ (l.foldl (sweepObject deleteFails known cutoff) p).objects ↔
      item ∈ p.objects ∧ ∀ entry ∈ l, entry.objectKey = item.objectKey →
        isProtected known cutoff entry = true ∨ deleteFails entry.objectKey = true := by
  induction l generalizing p with
  | nil => simp
  | cons entry l ih =>
    rw [List.foldl_cons, ih, List.forall_mem_cons, ← and_assoc]
    apply and_congr_left'
    unfold sweepObject
    cases isProtected known cutoff entry with
    | true => simp
    | false =>
      cases deleteFails entry.objectKey with
      | true => simp
      | false => simp [mem_deleteObject, eq_comm]

/-- The listing after the loop, if every deletion succeeds. -/
theorem objectsUnder_sweep (l : List StoredObjectEntry) (p : OrphanProgress) :
    objectsUnder (l.foldl (sweepObject (fun _ ↦ false) known cutoff) p).objects start =
      (objectsUnder p.objects start).filter fun entry ↦ !l.any fun swept ↦
        swept.objectKey = entry.objectKey && !isProtected known cutoff swept := by
  induction l generalizing p with
  | nil => simp
  | cons swept l ih =>
    rw [List.foldl_cons, ih]
    unfold sweepObject
    cases hkept : isProtected known cutoff swept with
    | true => simp [hkept]
    | false =>
      simp only [Bool.false_eq_true, if_false]
      rw [objectsUnder_deleteObject, List.filter_filter]
      apply List.filter_congr
      intro entry _
      by_cases hkey : entry.objectKey = swept.objectKey
      · simp [hkept, hkey]
      · simp [hkept, hkey, Ne.symm hkey]

/-- One cleanup is one bounded pass over the listing. -/
theorem objectsUnder_cleanup (objects : ObjectTable) (limit : ℤ) :
    objectsUnder ((listObjects objects start limit).foldl
        (sweepObject (fun _ ↦ false) known cutoff) ⟨objects, 0, 0⟩).objects start =
      Sweep.pass limit.toNat (isProtected known cutoff) (objectsUnder objects start) := by
  have hnodup := nodup_objectsUnder objects start
  rw [objectsUnder_sweep]
  unfold Sweep.pass listObjects
  generalize objectsUnder objects start = l at hnodup ⊢
  conv_lhs => rw [← List.take_append_drop limit.toNat l]
  rw [← List.take_append_drop limit.toNat l, List.map_append, List.nodup_append] at hnodup
  obtain ⟨hfront, -, hdisjoint⟩ := hnodup
  rw [List.filter_append, List.take_append_drop]
  congr 1
  · apply List.filter_congr
    intro entry hentry
    rw [Bool.eq_iff_iff, Bool.not_eq_true', List.any_eq_false]
    constructor
    · intro h
      simpa using h entry hentry
    · intro hkept swept hswept
      by_cases hkey : swept.objectKey = entry.objectKey
      · rw [List.inj_on_of_nodup_map hfront hswept hentry hkey]
        simp [hkept]
      · simp [hkey]
  · rw [List.filter_eq_self]
    intro entry hentry
    rw [Bool.not_eq_true', List.any_eq_false]
    intro swept hswept
    have hne := hdisjoint swept.objectKey (List.mem_map_of_mem hswept) entry.objectKey
      (List.mem_map_of_mem hentry)
    simp [hne]

end sweep

section keys

def IsLive (s : DataLifecycleStore) (objectKey : String) : Prop :=
  ∃ row ∈ s.attachments, row.status ∉ [AttachmentStatus.deleted, .rejected] ∧
    row.objectKey = objectKey

/-- Every attachment has its object among those of its tenant, where `reserve` puts it. -/
def KeysOwned (s : DataLifecycleStore) : Prop :=
  ∀ row ∈ s.attachments, row.tenantId < 2 ^ 128 ∧
    isUnder (tenantPrefix row.tenantId) row.objectKey = true

theorem tenantPrefix_inj {tenantId tenantId' : UUID} {objectKey : String}
    (hid : tenantId < 2 ^ 128) (hid' : tenantId' < 2 ^ 128)
    (h : isUnder (tenantPrefix tenantId) objectKey = true)
    (h' : isUnder (tenantPrefix tenantId') objectKey = true) : tenantId = tenantId' := by
  obtain ⟨rest, hrest⟩ := List.isPrefixOf_iff_prefix.mp h
  obtain ⟨rest', hrest'⟩ := List.isPrefixOf_iff_prefix.mp h'
  rw [← hrest'] at hrest
  unfold tenantPrefix at hrest
  simp only [String.toList_append, String.toList_ofList, List.append_assoc] at hrest
  have hlen : (WireText.uuidText tenantId).length = (WireText.uuidText tenantId').length := by
    rw [WireText.length_uuidText, WireText.length_uuidText]
  exact WireText.uuidText_inj hid hid'
    (List.append_inj (List.append_cancel_left hrest) hlen).1

theorem mem_listKnownObjectKeys {s : DataLifecycleStore} {tenantId : UUID} {objectKey : String}
    (hid : tenantId < 2 ^ 128) (howned : KeysOwned s)
    (hunder : isUnder (tenantPrefix tenantId) objectKey = true) :
    objectKey ∈ listKnownObjectKeys s.attachments tenantId ↔ IsLive s objectKey := by
  unfold listKnownObjectKeys IsLive
  simp only [List.mem_map, List.mem_filter, decide_eq_true_eq]
  constructor
  · rintro ⟨row, ⟨hrow, -, hlive⟩, rfl⟩
    exact ⟨row, hrow, hlive, rfl⟩
  · rintro ⟨row, hrow, hlive, rfl⟩
    obtain ⟨hrowId, hrowUnder⟩ := howned row hrow
    exact ⟨row, ⟨hrow, tenantPrefix_inj hrowId hid hrowUnder hunder, hlive⟩, rfl⟩

end keys

section runs

variable (identity : DevelopmentIdentity) (values : JsonObject) (envs : ℕ → Environment)
  (policy : DataLifecyclePolicy) (s : DataLifecycleStore)

/-- The store after `n` cleanups, one after the other. -/
def cleanups : ℕ → DataLifecycleStore
  | 0 => s
  | n + 1 => (runOrphanCleanup identity values (envs n) true (cleanups n)).2

/-- The objects that the cleanup at `now` leaves alone. -/
def protectedAt (now : Datetime) : StoredObjectEntry → Bool :=
  isProtected (listKnownObjectKeys s.attachments identity.tenantId) (graceCutoff policy now)

/-- How many of the objects that the cleanup at `now` leaves alone are listed before `item`. -/
def protectedBefore (now : Datetime) (item : StoredObject) : ℕ :=
  s.objects.rows.countP fun other ↦ isUnder (tenantPrefix identity.tenantId) other.objectKey &&
    (other.objectKey < item.objectKey &&
      protectedAt identity policy s now other.toStoredObjectEntry)

def Spares : Prop :=
  ∀ n, ∀ item ∈ (cleanups identity values envs s n).objects,
    item ∉ (cleanups identity values envs s (n + 1)).objects →
      isUnder (tenantPrefix identity.tenantId) item.objectKey = true ∧
        ¬IsLive (cleanups identity values envs s n) item.objectKey ∧
        item.lastModified ≤ graceCutoff policy (envs n).now

/-- An object of the tenant that no attachment needs and that gets old enough. -/
structure IsOrphan (item : StoredObject) : Prop where
  stored : item ∈ s.objects
  under : isUnder (tenantPrefix identity.tenantId) item.objectKey = true
  dead : ¬IsLive s item.objectKey
  old : ∃ n, item.lastModified ≤ graceCutoff policy (envs n).now

def ReachesOrphans : Prop :=
  ∀ item, IsOrphan identity envs policy s item →
    ∃ n, item ∉ (cleanups identity values envs s n).objects

/-- At some time an orphan is old enough and fewer objects than a batch holds are listed before it
and left alone. -/
def FewProtectedBefore : Prop :=
  ∀ item, IsOrphan identity envs policy s item →
    ∃ n, item.lastModified ≤ graceCutoff policy (envs n).now ∧
      (protectedBefore identity policy s (envs n).now item : ℤ) < policy.batchSize

variable {identity values envs policy s}

theorem attachments_runOrphanCleanup {env : Environment} {confirmed : Bool} :
    (runOrphanCleanup identity values env confirmed s).2.attachments = s.attachments := by
  unfold runOrphanCleanup failRun
  dsimp only
  split
  · rfl
  · split
    · rfl
    · split
      · split <;> rfl
      · split
        · split <;> rfl
        · rfl

theorem objects_runOrphanCleanup {env : Environment}
    (hpolicy : DataLifecycleService.policy values = .ok policy) :
    (runOrphanCleanup identity values env true s).2.objects = if env.listFails then s.objects else
      ((listObjects s.objects (tenantPrefix identity.tenantId) policy.batchSize).foldl
        (sweepObject env.deleteFails (listKnownObjectKeys s.attachments identity.tenantId)
          (graceCutoff policy env.now)) ⟨s.objects, 0, 0⟩).objects := by
  unfold runOrphanCleanup failRun
  dsimp only
  rw [hpolicy]
  cases env.listFails with
  | true =>
    simp only [Bool.not_true, Bool.false_eq_true, if_false, if_true]
    split <;> rfl
  | false =>
    simp only [Bool.not_true, Bool.false_eq_true, if_false]
    split
    · split <;> rfl
    · rfl

theorem attachments_cleanups (n : ℕ) :
    (cleanups identity values envs s n).attachments = s.attachments := by
  induction n with
  | zero => rfl
  | succ n ih => exact attachments_runOrphanCleanup.trans ih

theorem mem_runOrphanCleanup {env : Environment} {item : StoredObject}
    (hpolicy : DataLifecycleService.policy values = .ok policy)
    (h : item ∈ (runOrphanCleanup identity values env true s).2.objects) : item ∈ s.objects := by
  rw [objects_runOrphanCleanup hpolicy] at h
  split at h
  · exact h
  · exact (mem_sweep.mp h).1

theorem mem_cleanups (hpolicy : DataLifecycleService.policy values = .ok policy) {n : ℕ}
    {item : StoredObject} (h : item ∈ (cleanups identity values envs s n).objects) :
    item ∈ s.objects := by
  induction n with
  | zero => exact h
  | succ n ih => exact ih (mem_runOrphanCleanup hpolicy h)

theorem KeysOwned.cleanups (h : KeysOwned s) (n : ℕ) :
    KeysOwned (cleanups identity values envs s n) := by
  intro row hrow
  rw [attachments_cleanups] at hrow
  exact h row hrow

theorem deleted_of_not_mem {env : Environment} {item : StoredObject}
    (hpolicy : DataLifecycleService.policy values = .ok policy) (hitem : item ∈ s.objects)
    (hgone : item ∉ (runOrphanCleanup identity values env true s).2.objects) :
    isUnder (tenantPrefix identity.tenantId) item.objectKey = true ∧
      protectedAt identity policy s env.now item.toStoredObjectEntry = false := by
  rw [objects_runOrphanCleanup hpolicy] at hgone
  split at hgone
  · exact absurd hitem hgone
  · rw [mem_sweep] at hgone
    push Not at hgone
    obtain ⟨entry, hentry, hkey, hfree, -⟩ := hgone hitem
    obtain ⟨⟨stored, hstored, rfl⟩, hunder⟩ := mem_objectsUnder.mp (List.mem_of_mem_take hentry)
    obtain rfl := Table.eq_of_key_eq hstored hitem hkey
    exact ⟨hunder, Bool.eq_false_iff.mpr hfree⟩

theorem protectedAt_eq_false {now : Datetime} {item : StoredObject}
    (hid : identity.tenantId < 2 ^ 128) (howned : KeysOwned s)
    (hunder : isUnder (tenantPrefix identity.tenantId) item.objectKey = true) :
    protectedAt identity policy s now item.toStoredObjectEntry = false ↔
      ¬IsLive s item.objectKey ∧ item.lastModified ≤ graceCutoff policy now := by
  unfold protectedAt isProtected
  rw [Bool.or_eq_false_iff, decide_eq_false_iff_not, decide_eq_false_iff_not,
    mem_listKnownObjectKeys hid howned hunder, not_lt]

theorem spares (hid : identity.tenantId < 2 ^ 128) (howned : KeysOwned s)
    (hpolicy : DataLifecycleService.policy values = .ok policy) :
    Spares identity values envs policy s := by
  intro n item hitem hgone
  obtain ⟨hunder, hfree⟩ := deleted_of_not_mem hpolicy hitem hgone
  exact ⟨hunder, (protectedAt_eq_false hid (howned.cleanups n) hunder).mp hfree⟩

theorem objectsUnder_cleanups (hpolicy : DataLifecycleService.policy values = .ok policy)
    (hworks : ∀ n, (envs n).deleteFails = (fun _ ↦ false) ∧ (envs n).listFails = false) (n : ℕ) :
    objectsUnder (cleanups identity values envs s n).objects (tenantPrefix identity.tenantId) =
      Sweep.passes policy.batchSize.toNat (fun n ↦ protectedAt identity policy s (envs n).now)
        (objectsUnder s.objects (tenantPrefix identity.tenantId)) n := by
  induction n with
  | zero => rfl
  | succ n ih =>
    have hrun : (cleanups identity values envs s (n + 1)).objects = _ :=
      objects_runOrphanCleanup hpolicy
    rw [hrun, (hworks n).1, (hworks n).2, if_neg Bool.false_ne_true, objectsUnder_cleanup, ih,
      attachments_cleanups]
    rfl

theorem mem_cleanups_iff (hpolicy : DataLifecycleService.policy values = .ok policy)
    {item : StoredObject} (hitem : item ∈ s.objects)
    (hunder : isUnder (tenantPrefix identity.tenantId) item.objectKey = true) (n : ℕ) :
    item ∈ (cleanups identity values envs s n).objects ↔ item.toStoredObjectEntry ∈
      objectsUnder (cleanups identity values envs s n).objects
        (tenantPrefix identity.tenantId) := by
  rw [mem_objectsUnder]
  constructor
  · exact fun h ↦ ⟨⟨item, h, rfl⟩, hunder⟩
  · rintro ⟨⟨stored, hstored, heq⟩, -⟩
    have hkey : stored.objectKey = item.objectKey := congrArg (·.objectKey) heq
    rwa [← Table.eq_of_key_eq (mem_cleanups hpolicy hstored) hitem hkey]

/-- Ahead of an object in the listing are those with smaller keys. -/
theorem countP_ahead {objects : ObjectTable} {start : String} {item : StoredObject}
    {a b : List StoredObjectEntry} (keep : StoredObjectEntry → Bool)
    (h : objectsUnder objects start = a ++ item.toStoredObjectEntry :: b) :
    a.countP keep = objects.rows.countP fun other ↦ isUnder start other.objectKey &&
      (other.objectKey < item.objectKey && keep other.toStoredObjectEntry) := by
  have hsorted := sorted_objectsUnder objects start
  have hnodup := nodup_objectsUnder objects start
  rw [h] at hsorted hnodup
  rw [List.map_append, List.map_cons, List.nodup_append] at hnodup
  rw [List.pairwise_append, List.pairwise_cons] at hsorted
  obtain ⟨-, hrest, hdisjoint⟩ := hnodup
  obtain ⟨-, ⟨hafter, -⟩, hbefore⟩ := hsorted
  have hlt : ∀ entry ∈ a, entry.objectKey < item.objectKey := fun entry hentry ↦
    lt_of_le_of_ne (hbefore entry hentry _ List.mem_cons_self)
      (hdisjoint _ (List.mem_map_of_mem hentry) _ List.mem_cons_self)
  have hge : ∀ entry ∈ item.toStoredObjectEntry :: b, ¬entry.objectKey < item.objectKey := by
    intro entry hentry
    rcases List.mem_cons.mp hentry with rfl | hentry
    · exact lt_irrefl _
    · exact not_lt_of_ge (hafter entry hentry)
  have hcount : a.countP keep = (objectsUnder objects start).countP fun entry ↦
      entry.objectKey < item.objectKey && keep entry := by
    have hzero : (item.toStoredObjectEntry :: b).countP (fun entry ↦
        entry.objectKey < item.objectKey && keep entry) = 0 := by
      rw [List.countP_eq_zero]
      intro entry hentry
      simp [hge entry hentry]
    rw [h, List.countP_append, hzero, Nat.add_zero]
    apply List.countP_congr
    intro entry hentry
    simp [hlt entry hentry]
  rw [hcount]
  unfold objectsUnder
  rw [(List.perm_insertionSort _ _).countP_eq, List.countP_filter, List.countP_map]
  apply List.countP_congr
  intro other _
  simp only [Function.comp_apply, Bool.and_comm]

theorem protectedAt_anti (hclock : Monotone fun n ↦ (envs n).now) (n : ℕ)
    (entry : StoredObjectEntry)
    (h : protectedAt identity policy s (envs (n + 1)).now entry = true) :
    protectedAt identity policy s (envs n).now entry = true := by
  have hle : graceCutoff policy (envs n).now ≤ graceCutoff policy (envs (n + 1)).now :=
    Int.sub_le_sub_right (Int.ofNat_le.mpr (hclock (Nat.le_succ n))) _
  unfold protectedAt isProtected at h ⊢
  rw [Bool.or_eq_true, decide_eq_true_eq, decide_eq_true_eq] at h ⊢
  exact h.imp_right hle.trans_lt

/-- Repeated cleanups reach an object of the tenant if and only if at some time it is not protected
and fewer protected objects than a batch holds are listed before it. -/
theorem reached_iff (hpolicy : DataLifecycleService.policy values = .ok policy)
    (hclock : Monotone fun n ↦ (envs n).now)
    (hworks : ∀ n, (envs n).deleteFails = (fun _ ↦ false) ∧ (envs n).listFails = false)
    {item : StoredObject} (hitem : item ∈ s.objects)
    (hunder : isUnder (tenantPrefix identity.tenantId) item.objectKey = true) :
    (∃ n, item ∉ (cleanups identity values envs s n).objects) ↔
      ∃ n, protectedAt identity policy s (envs n).now item.toStoredObjectEntry = false ∧
        (protectedBefore identity policy s (envs n).now item : ℤ) < policy.batchSize := by
  have hlisted : item.toStoredObjectEntry ∈
      objectsUnder s.objects (tenantPrefix identity.tenantId) :=
    mem_objectsUnder.mpr ⟨⟨item, hitem, rfl⟩, hunder⟩
  obtain ⟨a, b, hab⟩ := List.append_of_mem hlisted
  have hnodup : (a ++ item.toStoredObjectEntry :: b).Nodup := by
    rw [← hab]
    exact (nodup_objectsUnder _ _).of_map _
  have hgone : (∃ n, item.toStoredObjectEntry ∉ Sweep.passes policy.batchSize.toNat
        (fun n ↦ protectedAt identity policy s (envs n).now)
        (a ++ item.toStoredObjectEntry :: b) n) ↔
      ∃ n, protectedAt identity policy s (envs n).now item.toStoredObjectEntry = false ∧
        a.countP (protectedAt identity policy s (envs n).now) < policy.batchSize.toNat :=
    Sweep.gone_iff (protectedAt_anti hclock) hnodup
  rw [← hab] at hgone
  simp only [mem_cleanups_iff hpolicy hitem hunder, objectsUnder_cleanups hpolicy hworks, hgone]
  apply exists_congr
  intro n
  apply and_congr_right'
  rw [countP_ahead _ hab, Int.lt_toNat]
  rfl

/-- Repeated cleanups spare what they must not touch and get to every orphan if and only if at some
time fewer protected objects than a batch holds are listed before each orphan. -/
theorem cleanups_reach_orphans_iff (hid : identity.tenantId < 2 ^ 128) (howned : KeysOwned s)
    (hpolicy : DataLifecycleService.policy values = .ok policy)
    (hclock : Monotone fun n ↦ (envs n).now)
    (hworks : ∀ n, (envs n).deleteFails = (fun _ ↦ false) ∧ (envs n).listFails = false) :
    Spares identity values envs policy s ∧ ReachesOrphans identity values envs policy s ↔
      FewProtectedBefore identity envs policy s := by
  rw [and_iff_right (spares hid howned hpolicy)]
  apply forall₂_congr
  intro item horphan
  rw [reached_iff hpolicy hclock hworks horphan.stored horphan.under]
  apply exists_congr
  intro n
  rw [protectedAt_eq_false hid howned horphan.under]
  have hdead := horphan.dead
  tauto

section examples

def tester : DevelopmentIdentity where
  tenantId := 1
  userId := 2
  agentId := 3

def valuesWith (batchSize : ℤ) : JsonObject :=
  [("data.retention.deleted_agent_days", .int 30),
    ("data.retention.deleted_conversation_days", .int 30),
    ("data.retention.deleted_attachment_days", .int 7),
    ("data.retention.observability_disposition_event_days", .int 90),
    ("data.retention.observability_replay_review_days", .int 90),
    ("data.retention.observability_recommendation_feedback_days", .int 90),
    ("data.retention.orphan_grace_hours", .int 24), ("data.retention.batch_size", .int batchSize),
    ("data.export.max_records", .int 10000), ("data.export.max_bytes", .int 26214400),
    ("data.backup.expected_interval_hours", .int 720)]

def policyWith (batchSize : ℤ) : DataLifecyclePolicy where
  deletedAgentDays := 30
  deletedConversationDays := 30
  deletedAttachmentDays := 7
  observabilityDispositionEventDays := 90
  observabilityReplayReviewDays := 90
  observabilityRecommendationFeedbackDays := 90
  orphanGraceHours := 24
  batchSize
  exportMaxRecords := 10000
  exportMaxBytes := 26214400
  backupExpectedIntervalHours := 720

theorem policy_valuesWith (batchSize : ℤ) :
    DataLifecycleService.policy (valuesWith batchSize) = .ok (policyWith batchSize) := rfl

def threeDaysLater (n : ℕ) : Environment where
  runId := n
  startedAt := 259200000000
  now := 259200000000
  completedAt := 259200000000
  deleteFails _ := false
  listFails := false

def keyOf (name : String) : String :=
  tenantPrefix tester.tenantId ++ "attachments/" ++ name ++ "/content.txt"

def uploaded (name : String) : StoredObject where
  objectKey := keyOf name
  sizeBytes := 5
  lastModified := 0
  contentType := "text/plain"
  sha256 := "2cf24dba5fb0a30e26e83b2ac5b9e29e1b161e5c1fa7425e73043362938b9824"
  metadataSha256 := none
  detectedContentType := some "text/plain"

def sent : Attachment where
  id := 4
  tenantId := tester.tenantId
  ownerId := tester.userId
  conversationId := 5
  clientMessageId := 6
  originalName := "a.txt"
  contentType := "text/plain"
  sizeBytes := 5
  sha256 := "2cf24dba5fb0a30e26e83b2ac5b9e29e1b161e5c1fa7425e73043362938b9824"
  status := .attached
  createdAt := 0
  expiresAt := 900000000
  objectKey := keyOf "a"
  messageId := some 7

theorem uploaded_keys : ([uploaded "a", uploaded "b"].map fun item ↦ item.objectKey).Nodup := by
  decide +kernel

def oneOrphan : DataLifecycleStore where
  conversations := .empty
  members := .empty
  agents := .empty
  attachments := ⟨[sent], List.nodup_singleton _⟩
  runs := []
  objects := ⟨[uploaded "a", uploaded "b"], uploaded_keys⟩

theorem oneOrphan_owned : KeysOwned oneOrphan := by
  intro row hrow
  obtain rfl := List.mem_singleton.mp hrow
  exact ⟨by decide, by decide +kernel⟩

theorem sent_live : IsLive oneOrphan (keyOf "a") :=
  ⟨sent, List.mem_singleton_self _, by decide, rfl⟩

theorem b_orphan (batchSize : ℤ) :
    IsOrphan tester threeDaysLater (policyWith batchSize) oneOrphan (uploaded "b") where
  stored := List.mem_cons_of_mem _ (List.mem_singleton_self _)
  under := by decide +kernel
  dead := by
    rintro ⟨row, hrow, -, hkey⟩
    obtain rfl := List.mem_singleton.mp hrow
    revert hkey
    decide +kernel
  old := ⟨0, (by decide : ((0 : ℕ) : ℤ) ≤ (259200000000 : ℕ) - 24 * 3600000000)⟩

theorem threeDaysLater_now : Monotone fun n ↦ (threeDaysLater n).now := monotone_const

theorem threeDaysLater_works (n : ℕ) :
    (threeDaysLater n).deleteFails = (fun _ ↦ false) ∧ (threeDaysLater n).listFails = false :=
  ⟨rfl, rfl⟩

theorem cleanups_reach_orphans_pair :
    Spares tester (valuesWith 2) threeDaysLater (policyWith 2) oneOrphan ∧
      ReachesOrphans tester (valuesWith 2) threeDaysLater (policyWith 2) oneOrphan := by
  have hid : tester.tenantId < 2 ^ 128 := by decide
  refine (cleanups_reach_orphans_iff hid oneOrphan_owned (policy_valuesWith 2)
    threeDaysLater_now threeDaysLater_works).mpr ?_
  intro item horphan
  rcases List.mem_cons.mp horphan.stored with rfl | hitem
  · exact absurd sent_live horphan.dead
  · obtain rfl := List.mem_singleton.mp hitem
    exact ⟨0, by decide +kernel⟩

/-- With batches of one, the object of the attachment hides the other one from every cleanup. -/
theorem hidden_orphan :
    ¬(Spares tester (valuesWith 1) threeDaysLater (policyWith 1) oneOrphan ∧
      ReachesOrphans tester (valuesWith 1) threeDaysLater (policyWith 1) oneOrphan) := by
  rintro ⟨-, hreach⟩
  have horphan := b_orphan 1
  obtain ⟨n, -, hfew⟩ := (reached_iff (policy_valuesWith 1) threeDaysLater_now
    threeDaysLater_works horphan.stored horphan.under).mp (hreach _ horphan)
  have hone : protectedBefore tester (policyWith 1) oneOrphan (threeDaysLater 0).now
    (uploaded "b") = 1 := by decide +kernel
  have hsame : (threeDaysLater n).now = (threeDaysLater 0).now := rfl
  rw [hsame, hone] at hfew
  exact absurd hfew (by decide)

end examples

end runs

end CyberNetizen.DataLifecycle
