import CyberNetizen.Application.Listings

/-! # Reading a listing to its end -/

namespace CyberNetizen.Listings

open Domain Infrastructure Application Pagination KeyedTable Checks

def Fits (k : ListingKey) : Prop :=
  (ofLex k).1 < WireText.endOfDays * 86400000000 ∧ (ofLex k).2 < 2 ^ 128

/-- Following the cursors to the end shows the rows that are asked for, each of them once and the
newest first, and shows no empty page after the first. -/
def ReadsWhole {ρ ε : Type} (key : ρ → ListingKey) (rows : List ρ) (listed : ρ → Bool) (limit : ℕ)
    (pages : Option String → Except ε (List ρ × Option String)) : Prop :=
  ∀ fuel, rows.length < fuel → ∃ ps, Keyset.walk (fun _ ↦ pages) fuel 0 none = some ps ∧
    ps.flatten.Pairwise (fun a b ↦ key b < key a) ∧
    (∀ r, r ∈ ps.flatten ↔ r ∈ rows ∧ listed r = true) ∧
    (∀ p ∈ ps, p.length ≤ limit) ∧ ∀ p ∈ ps.tail, p ≠ []

section cursors

variable {ρ ω ε γ : Type} {key : ρ → ListingKey} {rows : List ρ} {token : ρ → String} {limit : ℕ}
  {keep : ℕ → ρ → Bool} {view : ℕ → ρ → ω}
  {pages : ℕ → Option String → Except ε (List ω × Option String)}
  (decode : Option String → Except ε (Option γ)) (cursorKey : γ → ListingKey)

theorem serves_of_cursor (hnone : decode none = .ok none)
    (hsome : ∀ r ∈ rows, ∃ c, decode (some (token r)) = .ok (some c) ∧ cursorKey c = key r)
    (hpages : ∀ n value, pages n value = (decode value).bind fun cursor ↦
      let p := Keyset.page key rows token limit (keep n) (cursor.map cursorKey)
      .ok (p.1.map (view n), p.2)) :
    Keyset.Serves key rows pages token limit keep view where
  first n := by
    rw [hpages, hnone]
    rfl
  next n r hr := by
    obtain ⟨c, hc, hkey⟩ := hsome r hr
    rw [hpages, hc, ← hkey]
    rfl

theorem readsWhole {pages : Option String → Except ε (List ρ × Option String)} {listed : ρ → Bool}
    (hlimit : 1 ≤ limit) (hkey : (rows.map key).Nodup)
    (hserves : Keyset.Serves key rows (fun _ ↦ pages) token limit (fun _ ↦ listed) fun _ ↦ id) :
    ReadsWhole key rows listed limit pages := by
  intro fuel hfuel
  have hall : rows.filter (fun r ↦ ((none : Option ρ).map key).all fun k ↦ key r < k) = rows := by
    simp
  obtain ⟨ps, hwalk, hps⟩ := Keyset.walk_complete hserves hkey hlimit (fun _ _ h ↦ h) fuel 0 none
    (fun r hr ↦ absurd hr (Option.not_mem_none r)) (by rwa [hall])
  rw [Keyset.shown_id] at hwalk
  refine ⟨ps, hwalk, hps.sorted, ?_, hps.bounded, hps.nonempty⟩
  rw [hps.flatten_eq hkey]
  intro r
  rw [Keyset.mem_matching]
  simp

theorem nodup_listing (key : ρ → ListingKey) {id : ρ → ℕ} (h : ∀ r, (ofLex (key r)).2 = id r)
    (hids : (rows.map id).Nodup) : (rows.map key).Nodup := by
  have hid : (fun k ↦ (ofLex k).2) ∘ key = id := funext h
  have hseconds : ((rows.map key).map fun k ↦ (ofLex k).2).Nodup := by rwa [List.map_map, hid]
  exact hseconds.of_map _

theorem decodeCursor_entity {k : ListingKey} (h : Fits k) :
    decodeCursor (some (encodeCursor ⟨(ofLex k).1, (ofLex k).2⟩)) =
      .ok (some ⟨(ofLex k).1, (ofLex k).2⟩) :=
  decodeCursor_encodeCursor h.1 h.2

theorem readsWhole_entity (key : ρ → ListingKey) {id : ρ → ℕ} (hid : ∀ r, (ofLex (key r)).2 = id r)
    {t : Table id} (hlimit : 1 ≤ limit) (hfits : ∀ r ∈ t, Fits (key r)) {listed : ρ → Bool}
    {pages : Option String → Except InvalidCursorError (List ρ × Option String)}
    (hpages : ∀ value, pages value = (decodeCursor value).bind fun cursor ↦
      .ok (Keyset.page key t.rows
        (fun r ↦ encodeCursor ⟨(ofLex (key r)).1, (ofLex (key r)).2⟩) limit listed
        (cursor.map entityKey))) : ReadsWhole key t.rows listed limit pages := by
  refine readsWhole hlimit (nodup_listing key hid t.nodup) (serves_of_cursor decodeCursor entityKey
    rfl (fun r hr ↦ ⟨_, decodeCursor_entity (hfits r hr), rfl⟩) fun n value ↦ ?_)
  rw [hpages]
  simp only [List.map_id, Prod.mk.eta]

end cursors

section services

variable (ilike : String → String → Bool) (tenantId : UUID) (search : Option String) {limit : ℕ}
  (hlimit : 1 ≤ limit)
include hlimit

theorem listAgents_readsWhole (status : Option AgentLifecycleStatus) {agents : Table AgentRow.id}
    (hfits : ∀ r ∈ agents, Fits (agentOrder r)) :
    ReadsWhole agentOrder agents.rows
      (agentListed ilike tenantId (AdministrationService.normalizeSearch search) status) limit
      fun cursor ↦ AdministrationService.listAgents ilike tenantId search limit cursor status
        agents :=
  readsWhole_entity agentOrder (fun _ ↦ rfl) hlimit hfits fun _ ↦ rfl

theorem listUsers_readsWhole (status : Option EntityStatus) {users : Table UserRow.id}
    (hfits : ∀ r ∈ users, Fits (userOrder r)) :
    ReadsWhole userOrder users.rows
      (userListed ilike tenantId (AdministrationService.normalizeSearch search) status) limit
      fun cursor ↦ AdministrationService.listUsers ilike tenantId search limit cursor status users :=
  readsWhole_entity userOrder (fun _ ↦ rfl) hlimit hfits fun _ ↦ rfl

theorem listConversations_readsWhole (identity : DevelopmentIdentity)
    (status : Option ConversationStatus) {s : ConversationStore}
    (hfits : ∀ r ∈ s.conversations, Fits (conversationOrder r)) :
    ReadsWhole conversationOrder s.conversations.rows
      (conversationListed ilike identity.userId identity.agentId
        (AdministrationService.normalizeSearch search) status s) limit
      fun cursor ↦ ConversationService.listConversations ilike identity limit cursor search status
        s :=
  readsWhole_entity conversationOrder (fun _ ↦ rfl) hlimit hfits fun _ ↦ rfl

theorem listAuditRecords_readsWhole (action resourceType resourceId : Option String)
    {logs : Table AuditLog.id}
    (hfits : ∀ r ∈ logs, r.createdAt < WireText.endOfDays * 86400000000 ∧ 1 ≤ r.id) :
    ReadsWhole auditOrder logs.rows
      (auditListed ilike tenantId (AdministrationService.normalizeSearch search)
        (AdministrationService.normalizeSearch action)
        (AdministrationService.normalizeSearch resourceType)
        (AdministrationService.normalizeSearch resourceId)) limit
      fun cursor ↦ AdministrationService.listAuditRecords ilike tenantId search limit cursor action
        resourceType resourceId logs := by
  have hcursor : ∀ r ∈ logs.rows, ∃ c : AuditCursor,
      decodeAuditCursor (some (encodeAuditCursor ⟨r.createdAt, r.id⟩)) = .ok (some c) ∧
        auditKey c = auditOrder r :=
    fun r hr ↦ ⟨_, decodeAuditCursor_encodeAuditCursor (hfits r hr).1 (hfits r hr).2, rfl⟩
  refine readsWhole hlimit (nodup_listing auditOrder (fun _ ↦ rfl) logs.nodup)
    (serves_of_cursor decodeAuditCursor auditKey rfl hcursor fun n value ↦ ?_)
  unfold AdministrationService.listAuditRecords
  simp only [List.map_id, Prod.mk.eta]
  rfl

end services

section reviews

open ObservabilityService

theorem refuse_false {bad : Bool} {message : String} (h : bad = false) :
    refuse bad message = .ok () := by
  rw [h]
  rfl

theorem parsedCursor_entity {k : ListingKey} {message : String} (h : Fits k) :
    ∃ c, parsedCursor (some (encodeCursor ⟨(ofLex k).1, (ofLex k).2⟩)) message = .ok (some c) ∧
      entityKey c = k := by
  unfold parsedCursor
  rw [decodeCursor_entity h]
  exact ⟨_, rfl, rfl⟩

theorem alertReplayReviews_readsWhole {limit : ℕ} {tenantId agentId : UUID}
    {sourceType source : Option String} (hlimit : 1 ≤ limit ∧ limit ≤ 100)
    (hsource : normalizedSource sourceType "重放复核来源类型" = .ok source)
    (decision : Option ObservabilityAlertReplayDecision)
    (reasonCode : Option ObservabilityAlertReplayReason)
    {reviews : Table ObservabilityAlertReplayReview.id}
    (hfits : ∀ r ∈ reviews, Fits (reviewOrder r)) :
    ReadsWhole reviewOrder reviews.rows (reviewListed tenantId agentId decision reasonCode source)
      limit fun cursor ↦ alertReplayReviews tenantId agentId decision reasonCode sourceType cursor
        limit reviews.rows := by
  refine readsWhole hlimit.1 (nodup_listing reviewOrder (fun _ ↦ rfl) reviews.nodup)
    (serves_of_cursor (parsedCursor · "重放复核分页游标无效") entityKey rfl
      (fun r hr ↦ parsedCursor_entity (hfits r hr)) fun n value ↦ ?_)
  unfold alertReplayReviews
  rw [refuse_false (by simp [hlimit]), hsource]
  simp only [List.map_id, Prod.mk.eta]
  rfl

end reviews

/-- The listings of the management, of the conversations and of the reviews are read to their end page
by page. -/
theorem listings_read_whole (ilike : String → String → Bool) (limit : ℕ) (hlimit : 1 ≤ limit) :
    (∀ tenantId search status (agents : Table AgentRow.id), (∀ r ∈ agents, Fits (agentOrder r)) →
      ReadsWhole agentOrder agents.rows
        (agentListed ilike tenantId (AdministrationService.normalizeSearch search) status) limit
        fun cursor ↦ AdministrationService.listAgents ilike tenantId search limit cursor status
          agents) ∧
    (∀ tenantId search status (users : Table UserRow.id), (∀ r ∈ users, Fits (userOrder r)) →
      ReadsWhole userOrder users.rows
        (userListed ilike tenantId (AdministrationService.normalizeSearch search) status) limit
        fun cursor ↦ AdministrationService.listUsers ilike tenantId search limit cursor status
          users) ∧
    (∀ tenantId search action resourceType resourceId (logs : Table AuditLog.id),
      (∀ r ∈ logs, r.createdAt < WireText.endOfDays * 86400000000 ∧ 1 ≤ r.id) →
      ReadsWhole auditOrder logs.rows
        (auditListed ilike tenantId (AdministrationService.normalizeSearch search)
          (AdministrationService.normalizeSearch action)
          (AdministrationService.normalizeSearch resourceType)
          (AdministrationService.normalizeSearch resourceId)) limit
        fun cursor ↦ AdministrationService.listAuditRecords ilike tenantId search limit cursor
          action resourceType resourceId logs) ∧
    (∀ (identity : DevelopmentIdentity) search status (s : ConversationStore),
      (∀ r ∈ s.conversations, Fits (conversationOrder r)) →
      ReadsWhole conversationOrder s.conversations.rows
        (conversationListed ilike identity.userId identity.agentId
          (AdministrationService.normalizeSearch search) status s) limit
        fun cursor ↦ ConversationService.listConversations ilike identity limit cursor search
          status s) ∧
    ∀ tenantId agentId decision reasonCode sourceType source
      (reviews : Table ObservabilityAlertReplayReview.id), limit ≤ 100 →
      ObservabilityService.normalizedSource sourceType "重放复核来源类型" = .ok source →
      (∀ r ∈ reviews, Fits (reviewOrder r)) →
      ReadsWhole reviewOrder reviews.rows
        (reviewListed tenantId agentId decision reasonCode source) limit
        fun cursor ↦ ObservabilityService.alertReplayReviews tenantId agentId decision reasonCode
          sourceType cursor limit reviews.rows :=
  ⟨fun tenantId search status _ ↦ listAgents_readsWhole ilike tenantId search hlimit status,
    fun tenantId search status _ ↦ listUsers_readsWhole ilike tenantId search hlimit status,
    fun tenantId search action resourceType resourceId _ ↦
      listAuditRecords_readsWhole ilike tenantId search hlimit action resourceType resourceId,
    fun identity search status _ ↦ listConversations_readsWhole ilike search hlimit identity status,
    fun _ _ decision reasonCode _ _ _ hle hsource ↦
      alertReplayReviews_readsWhole ⟨hlimit, hle⟩ hsource decision reasonCode⟩

def twinAgents : Table AgentRow.id :=
  (Table.put .empty ⟨1, 7, "Ada", .active, 1700000000000000⟩).put
    ⟨2, 7, "Bo", .active, 1700000000000000⟩

theorem fits_twinAgents : ∀ r ∈ twinAgents, Fits (agentOrder r) := by
  intro r hr
  rcases Table.mem_put.mp hr with rfl | ⟨hr, -⟩
  · exact ⟨by decide, by decide⟩
  · rcases Table.mem_put.mp hr with rfl | ⟨hr, -⟩
    · exact ⟨by decide, by decide⟩
    · exact absurd hr (Table.not_mem_empty r)

theorem listings_read_whole_twins :
    1 ≤ 1 ∧ (∀ r ∈ twinAgents, Fits (agentOrder r)) ∧
      ReadsWhole agentOrder twinAgents.rows
        (agentListed (fun _ _ ↦ true) 7 (AdministrationService.normalizeSearch none) none) 1
        fun cursor ↦ AdministrationService.listAgents (fun _ _ ↦ true) 7 none 1 cursor none
          twinAgents :=
  ⟨le_rfl, fits_twinAgents, (listings_read_whole (fun _ _ ↦ true) 1 le_rfl).1 7 none none twinAgents
    fits_twinAgents⟩

section observability

open ObservabilityService

def disposed (dispositions : List ObservabilityAlertDisposition) (evaluatedAt : Datetime)
    (lifecycle : AlertLifecycle ObservabilityAlertSource) : DisposedLifecycle :=
  let inForce := dispositions.filter fun item ↦
    item.status = .acknowledged ||
      (item.status = .suppressed && item.expiresAt.any fun expiresAt ↦ evaluatedAt < expiresAt)
  let disposition := inForce.reverse.find? fun item ↦
    item.sourceType = lifecycle.source.sourceType && item.sourceKey = lifecycle.source.sourceKey
  { toAlertLifecycle := lifecycle
    dispositionStatus := disposition.map (·.status)
    dispositionReason := disposition.map (·.reason)
    dispositionExpiresAt := disposition.bind (·.expiresAt) }

theorem attachDispositions_eq {lifecycles : List (AlertLifecycle ObservabilityAlertSource)}
    {dispositions : List ObservabilityAlertDisposition} {evaluatedAt : Datetime} :
    attachDispositions lifecycles dispositions evaluatedAt =
      lifecycles.map (disposed dispositions evaluatedAt) := rfl

variable {tenantId agentId : UUID} {limit : ℕ} {source : Option String}

theorem lifecycleListed_mono {filter : LifecycleFilter} {t t' : Datetime} (h : t ≤ t')
    {r : AlertLifecycle ObservabilityAlertSource}
    (hr : lifecycleListed tenantId agentId filter t r = true) :
    lifecycleListed tenantId agentId filter t' r = true := by
  unfold lifecycleListed at hr ⊢
  simp only [Bool.and_eq_true] at hr ⊢
  refine ⟨hr.1, ?_⟩
  have hduration := hr.2
  rw [Option.all_eq_true] at hduration ⊢
  intro minutes hminutes
  have hlong := of_decide_eq_true (hduration minutes hminutes)
  have hlater : r.resolvedAt.getD t ≤ r.resolvedAt.getD t' := by
    cases r.resolvedAt with
    | none => exact h
    | some resolvedAt => exact le_rfl
  exact decide_eq_true (hlong.trans (Int.sub_le_sub_right (Int.ofNat_le.mpr hlater) _))

/-- Reading the lifecycles while the clock goes on and the dispositions change: each one that is
asked for at the first page is shown once, and what is shown is asked for at its page. -/
theorem alertLifecyclePages_complete (tenantId agentId : UUID) (filter : LifecycleFilter)
    (limit : ℕ) (source : Option String) (hlimit : 1 ≤ limit ∧ limit ≤ 100)
    (hminutes : ∀ minutes ∈ filter.minimumDurationMinutes, 0 ≤ minutes ∧ minutes ≤ 525600)
    (hsource : normalizedSource filter.sourceType "通用告警来源类型" = .ok source)
    (lifecycles : List (AlertLifecycle ObservabilityAlertSource))
    (hids : (lifecycles.map (·.id)).Nodup) (hfits : ∀ r ∈ lifecycles, Fits (lifecycleOrder r))
    (now : ℕ → Datetime) (hnow : Monotone now)
    (dispositions : ℕ → List ObservabilityAlertDisposition) (fuel : ℕ)
    (hfuel : lifecycles.length < fuel) :
    ∃ ps, Keyset.walk (fun n cursor ↦ alertLifecyclePage tenantId agentId filter cursor limit
        (now n) lifecycles (dispositions n)) fuel 0 none =
          some (Keyset.shown (fun n ↦ disposed (dispositions n) (now n)) 0 ps) ∧
      Keyset.Complete lifecycleOrder lifecycles limit
        (fun n ↦ lifecycleListed tenantId agentId { filter with sourceType := source } (now n))
        0 none ps := by
  have hserves : Keyset.Serves lifecycleOrder lifecycles
      (fun n cursor ↦ alertLifecyclePage tenantId agentId filter cursor limit (now n) lifecycles
        (dispositions n))
      (fun r ↦ encodeCursor ⟨(ofLex (lifecycleOrder r)).1, (ofLex (lifecycleOrder r)).2⟩) limit
      (fun n ↦ lifecycleListed tenantId agentId { filter with sourceType := source } (now n))
      fun n ↦ disposed (dispositions n) (now n) := by
    refine serves_of_cursor (parsedCursor · "通用告警生命周期分页游标无效") entityKey rfl
      (fun r hr ↦ parsedCursor_entity (hfits r hr)) fun n value ↦ ?_
    have hduration : (filter.minimumDurationMinutes.any fun minutes ↦
        !decide (0 ≤ minutes ∧ minutes ≤ 525600)) = false := by
      rw [Option.any_eq_false]
      intro minutes h
      simp [hminutes minutes h]
    unfold alertLifecyclePage
    rw [refuse_false (by simp [hlimit]), hsource, refuse_false hduration]
    simp only [attachDispositions_eq]
    rfl
  have hall : (lifecycles.filter fun r ↦
      ((none : Option (AlertLifecycle ObservabilityAlertSource)).map lifecycleOrder).all fun k ↦
        lifecycleOrder r < k) = lifecycles := by
    simp
  exact Keyset.walk_complete hserves (nodup_listing lifecycleOrder (fun _ ↦ rfl) hids) hlimit.1
    (fun n r ↦ lifecycleListed_mono (hnow (Nat.le_succ n))) fuel 0 none
    (fun r hr ↦ absurd hr (Option.not_mem_none r)) (by rwa [hall])

def twoIncidents : List (AlertLifecycle ObservabilityAlertSource) :=
  [{ id := 1, tenantId := 7, agentId := 3, source := ⟨"slo", "latency", "slo_latency"⟩
     status := .active, severity := .warning, occurrences := 1, firstOccurredAt := 0
     lastOccurredAt := 0, lastEvaluatedAt := 0, escalatedAt := none, escalationLevel := 0
     lastEscalatedAt := none, resolvedAt := none, recoveryDurationSeconds := none
     createdAt := 0, updatedAt := 5 },
    { id := 2, tenantId := 7, agentId := 3, source := ⟨"slo", "errors", "slo_errors"⟩
      status := .resolved, severity := .critical, occurrences := 2, firstOccurredAt := 0
      lastOccurredAt := 1, lastEvaluatedAt := 4, escalatedAt := none, escalationLevel := 0
      lastEscalatedAt := none, resolvedAt := some 4, recoveryDurationSeconds := some 0
      createdAt := 0, updatedAt := 4 }]

theorem fits_twoIncidents : ∀ r ∈ twoIncidents, Fits (lifecycleOrder r) := by
  intro r hr
  simp only [twoIncidents, List.mem_cons, List.not_mem_nil, or_false] at hr
  rcases hr with rfl | rfl <;> exact ⟨by decide, by decide⟩

theorem alertLifecyclePages_complete_twoIncidents :
    normalizedSource none "通用告警来源类型" = .ok none ∧
      ∃ ps, Keyset.walk (fun n cursor ↦ alertLifecyclePage 7 3 ⟨none, none, none, some 0⟩ cursor 1
          (5 + n) twoIncidents []) 3 0 none =
            some (Keyset.shown (fun n ↦ disposed [] (5 + n)) 0 ps) ∧
        Keyset.Complete lifecycleOrder twoIncidents 1
          (fun n ↦ lifecycleListed 7 3 ⟨none, none, none, some 0⟩ (5 + n)) 0 none ps :=
  ⟨rfl, alertLifecyclePages_complete 7 3 ⟨none, none, none, some 0⟩ 1 none (by decide)
    (by simp) rfl twoIncidents (by decide) fits_twoIncidents (fun n ↦ 5 + n)
    (fun _ _ h ↦ Nat.add_le_add_left h 5) (fun _ ↦ []) 3 (by decide)⟩

end observability

end CyberNetizen.Listings
