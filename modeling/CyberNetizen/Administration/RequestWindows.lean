import CyberNetizen.Infrastructure.AdministrationRepository
import CyberNetizen.Lib.Quota

/-! # The requests of a user against the limit of their minutes -/

namespace CyberNetizen.Administration

open Domain Application Infrastructure KeyedTable Quota

structure GovernedRequest where
  principal : AdminPrincipal
  requestedAt : Datetime

/-- `requested_at.replace(second=0, microsecond=0)` -/
def GovernedRequest.windowStartedAt (r : GovernedRequest) : Datetime :=
  r.requestedAt - r.requestedAt % 60000000

def governAdminPrincipal (r : GovernedRequest) : AdministrationTransaction AdminPrincipal :=
  authorizeAdminRequest r.principal r.requestedAt r.windowStartedAt

abbrev Answered := GovernedRequest × Except AdministrationError AdminPrincipal

def answered : AdministrationStore → List GovernedRequest → List Answered
  | _, [] => []
  | s, r :: rs => (r, (governAdminPrincipal r s).1) :: answered (governAdminPrincipal r s).2 rs

def isGranted (window : Datetime) (e : Answered) : Bool :=
  decide (e.1.windowStartedAt = window) && e.2.isOk

def isCounted (window : Datetime) (e : Answered) : Bool :=
  decide (e.1.windowStartedAt = window) && match e.2 with
    | .error (.accessDenied _) => false
    | _ => true

/-- Each minute grants the limit at most and refuses for it only once it has been charged so often. -/
structure WithinLimit (limit : ℕ) (l : List Answered) : Prop where
  granted_le : ∀ window, l.countP (isGranted window) ≤ limit
  refused_full : ∀ before r message seconds after,
    l = before ++ (r, .error (.rateLimit message seconds)) :: after →
      limit ≤ before.countP (isCounted r.windowStartedAt)

def admittedWindows (user : UserRow) (rs : List GovernedRequest) : List Datetime :=
  (rs.filter fun r ↦ (accessRefusal (some user) r.requestedAt).isNone).map
    GovernedRequest.windowStartedAt

section counter

variable {s : AdministrationStore} {tenantId userId : UUID} {user : UserRow} {limit : ℕ}
  {r : GovernedRequest} {rs : List GovernedRequest} {window : Datetime}

def requestCounter (s : AdministrationStore) (key : UUID × UUID) : Option (Datetime × ℕ) :=
  (s.requestRateLimitWindows.find? key).map fun row ↦ (row.windowStartedAt, row.usedCount)

theorem governedRole_frame (p : AdminPrincipal) (requestedAt : Datetime) (s : AdministrationStore) :
    (governedRole p requestedAt s).2.users = s.users ∧
      (governedRole p requestedAt s).2.requestRateLimitWindows = s.requestRateLimitWindows := by
  unfold governedRole
  split <;> exact ⟨rfl, rfl⟩

theorem countRequest_fst (requestedAt windowStartedAt : Datetime) :
    (s.countRequest tenantId userId requestedAt windowStartedAt).1 =
      used (requestCounter s (tenantId, userId)) windowStartedAt + 1 := by
  unfold AdministrationStore.countRequest requestCounter used
  dsimp only
  cases s.requestRateLimitWindows.find? (tenantId, userId) with
  | none => rfl
  | some row => by_cases h : row.windowStartedAt = windowStartedAt <;> simp [h]

theorem requestCounter_countRequest (requestedAt windowStartedAt : Datetime) :
    requestCounter (s.countRequest tenantId userId requestedAt windowStartedAt).2
        (tenantId, userId) =
      advance (requestCounter s (tenantId, userId)) windowStartedAt := by
  have hused := @countRequest_fst s tenantId userId requestedAt windowStartedAt
  unfold advance
  rw [← hused]
  unfold requestCounter AdministrationStore.countRequest
  dsimp only
  rw [Table.find?_put, UserRequestRateLimitWindow.key, if_pos rfl]
  rfl

/-- The user and the limit a run of requests is about. -/
structure Limited (s : AdministrationStore) (tenantId userId : UUID) (user : UserRow) (limit : ℕ) :
    Prop where
  found : s.user? tenantId userId = some user
  limit_eq : user.requestRateLimitPerMinute = some limit

/-- What a request does: the user's state refuses it, or it is charged and granted if the window has
not reached the limit. -/
inductive Governed (s : AdministrationStore) (key : UUID × UUID) (user : UserRow) (limit : ℕ)
    (r : GovernedRequest) :
    Except AdministrationError AdminPrincipal → AdministrationStore → Prop
  | denied (message : String) (h : (accessRefusal (some user) r.requestedAt).isNone = false) :
    Governed s key user limit r (.error (.accessDenied message)) s
  | granted {p : AdminPrincipal} {s' : AdministrationStore}
    (admitted : (accessRefusal (some user) r.requestedAt).isNone = true)
    (counter : requestCounter s' key = advance (requestCounter s key) r.windowStartedAt)
    (room : used (requestCounter s key) r.windowStartedAt + 1 ≤ limit) :
    Governed s key user limit r (.ok p) s'
  | refused {message : String} {seconds : ℕ} {s' : AdministrationStore}
    (admitted : (accessRefusal (some user) r.requestedAt).isNone = true)
    (counter : requestCounter s' key = advance (requestCounter s key) r.windowStartedAt)
    (full : limit ≤ used (requestCounter s key) r.windowStartedAt) :
    Governed s key user limit r (.error (.rateLimit message seconds)) s'

theorem accessRefusal_denied {user : Option UserRow} {requestedAt : Datetime}
    {error : AdministrationError} (h : accessRefusal user requestedAt = some error) :
    ∃ message, error = .accessDenied message := by
  unfold accessRefusal at h
  split at h
  · exact ⟨_, (Option.some.inj h).symm⟩
  · split at h
    · exact ⟨_, (Option.some.inj h).symm⟩
    · split at h
      · exact absurd h (by simp)
      · split at h
        · exact ⟨_, (Option.some.inj h).symm⟩
        · exact absurd h (by simp)

theorem governAdminPrincipal_spec (h : Limited s tenantId userId user limit)
    (hr : (r.principal.tenantId, r.principal.userId) = (tenantId, userId)) :
    Governed s (tenantId, userId) user limit r (governAdminPrincipal r s).1
        (governAdminPrincipal r s).2 ∧
      Limited (governAdminPrincipal r s).2 tenantId userId user limit := by
  obtain ⟨htenant, hid⟩ := Prod.mk.inj hr
  obtain ⟨husers, hwindows⟩ := governedRole_frame r.principal r.requestedAt s
  have hcounter : requestCounter (governedRole r.principal r.requestedAt s).2 (tenantId, userId) =
      requestCounter s (tenantId, userId) := by
    unfold requestCounter
    rw [hwindows]
  have hcount := @countRequest_fst (governedRole r.principal r.requestedAt s).2 tenantId userId
    r.requestedAt r.windowStartedAt
  have hafter := @requestCounter_countRequest (governedRole r.principal r.requestedAt s).2 tenantId
    userId r.requestedAt r.windowStartedAt
  rw [hcounter] at hcount hafter
  have hlimited : Limited ((governedRole r.principal r.requestedAt s).2.countRequest tenantId userId
      r.requestedAt r.windowStartedAt).2 tenantId userId user limit := by
    refine ⟨?_, h.limit_eq⟩
    rw [← h.found]
    unfold AdministrationStore.user?
    rw [← husers]
    rfl
  unfold governAdminPrincipal authorizeAdminRequest
  rw [htenant, hid, h.found]
  dsimp only
  cases hrefusal : accessRefusal (some user) r.requestedAt with
  | some error =>
    obtain ⟨message, rfl⟩ := accessRefusal_denied hrefusal
    exact ⟨.denied message (by rw [hrefusal]; rfl), h⟩
  | none =>
    have hadmitted : (accessRefusal (some user) r.requestedAt).isNone = true := by
      rw [hrefusal]
      rfl
    dsimp only [Option.bind]
    rw [h.limit_eq]
    dsimp only
    by_cases hfull : limit < ((governedRole r.principal r.requestedAt s).2.countRequest tenantId
        userId r.requestedAt r.windowStartedAt).1
    · rw [if_pos hfull]
      exact ⟨.refused hadmitted hafter (by omega), hlimited⟩
    · rw [if_neg hfull]
      exact ⟨.granted hadmitted hafter (by omega), hlimited⟩

/-- The grants of a window are those of a counter that starts over at each change of the window. -/
theorem countP_isGranted (h : Limited s tenantId userId user limit)
    (hrs : ∀ r ∈ rs, (r.principal.tenantId, r.principal.userId) = (tenantId, userId)) :
    (answered s rs).countP (isGranted window) =
      granted limit window (requestCounter s (tenantId, userId)) (admittedWindows user rs) := by
  induction rs generalizing s with
  | nil => rfl
  | cons r rs ih =>
    obtain ⟨hgoverned, hnext⟩ := governAdminPrincipal_spec h (hrs r List.mem_cons_self)
    have hrest := ih hnext fun r' hr' ↦ hrs r' (List.mem_cons_of_mem r hr')
    rw [answered, List.countP_cons, hrest]
    unfold admittedWindows
    rw [List.filter_cons]
    generalize (governAdminPrincipal r s).1 = answer at hgoverned ⊢
    generalize (governAdminPrincipal r s).2 = s' at hgoverned ⊢
    cases hgoverned with
    | denied message hrefused => simp [hrefused, isGranted, Except.isOk, Except.toBool]
    | granted admitted counter room =>
      rw [if_pos admitted, List.map_cons, granted, counter, Nat.add_comm]
      simp [isGranted, Except.isOk, Except.toBool, room]
    | refused admitted counter full =>
      rw [if_pos admitted, List.map_cons, granted, counter, Nat.add_comm]
      simp [isGranted, Except.isOk, Except.toBool, not_le.mpr (Nat.lt_succ_of_le full)]

/-- A request is refused for the limit only if the requests of its window before it, and those that
the counter holds already, reach it. -/
theorem refused_full (h : Limited s tenantId userId user limit)
    (hrs : ∀ r ∈ rs, (r.principal.tenantId, r.principal.userId) = (tenantId, userId))
    {before after : List Answered} {message : String} {seconds : ℕ}
    (he : answered s rs = before ++ (r, .error (.rateLimit message seconds)) :: after) :
    r ∈ rs ∧ limit ≤ used (requestCounter s (tenantId, userId)) r.windowStartedAt +
      before.countP (isCounted r.windowStartedAt) := by
  induction rs generalizing s before with
  | nil => simp [answered] at he
  | cons r' rs ih =>
    obtain ⟨hgoverned, hnext⟩ := governAdminPrincipal_spec h (hrs r' List.mem_cons_self)
    have hrest := fun b ↦ @ih _ hnext (fun r hr ↦ hrs r (List.mem_cons_of_mem r' hr)) b
    rw [answered] at he
    generalize (governAdminPrincipal r' s).1 = answer at hgoverned he
    generalize (governAdminPrincipal r' s).2 = s' at hgoverned he hrest
    cases before with
    | nil =>
      obtain ⟨hhead, -⟩ := List.cons.inj he
      obtain ⟨rfl, rfl⟩ := Prod.mk.inj hhead
      cases hgoverned with
      | refused admitted counter full => exact ⟨List.mem_cons_self, by simpa using full⟩
    | cons e before =>
      obtain ⟨rfl, htail⟩ := List.cons.inj he
      obtain ⟨hmem, hle⟩ := hrest before htail
      refine ⟨List.mem_cons_of_mem r' hmem, ?_⟩
      rw [List.countP_cons]
      cases hgoverned with
      | denied message' hrefused => simpa [isCounted] using hle
      | granted admitted counter room =>
        rw [counter, used_advance] at hle
        by_cases hw : r'.windowStartedAt = r.windowStartedAt
        · simp only [hw, if_true, isCounted, decide_true, Bool.and_self] at hle ⊢
          omega
        · simp only [hw, if_false, isCounted, decide_false, Bool.false_and] at hle ⊢
          simp
          omega
      | refused admitted counter full =>
        rw [counter, used_advance] at hle
        by_cases hw : r'.windowStartedAt = r.windowStartedAt
        · simp only [hw, if_true, isCounted, decide_true, Bool.and_self] at hle ⊢
          omega
        · simp only [hw, if_false, isCounted, decide_false, Bool.false_and] at hle ⊢
          simp
          omega

theorem mem_admittedWindows (h : window ∈ admittedWindows user rs) :
    ∃ r ∈ rs, r.windowStartedAt = window := by
  obtain ⟨r, hr, hw⟩ := List.mem_map.mp h
  exact ⟨r, List.mem_of_mem_filter hr, hw⟩

/-- The requests of a user with a constant limit keep it around the minutes exactly if the admitted
requests of each minute obtain the lock without one of another minute in between, or do not reach the
limit. A counter row that is left from before is of a minute that does not come again. -/
theorem requests_withinLimit_iff (h : Limited s tenantId userId user limit)
    (hrs : ∀ r ∈ rs, (r.principal.tenantId, r.principal.userId) = (tenantId, userId))
    (hfresh : ∀ row, s.requestRateLimitWindows.find? (tenantId, userId) = some row →
      ∀ r ∈ rs, r.windowStartedAt ≠ row.windowStartedAt) :
    WithinLimit limit (answered s rs) ↔
      ∀ window, Unbroken window (admittedWindows user rs) ∨
        (admittedWindows user rs).count window ≤ limit := by
  have hunused : ∀ r ∈ rs, used (requestCounter s (tenantId, userId)) r.windowStartedAt = 0 := by
    intro r hr
    unfold requestCounter used
    cases hrow : s.requestRateLimitWindows.find? (tenantId, userId) with
    | none => rfl
    | some row => exact if_neg (hfresh row hrow r hr).symm
  have hpositive : 1 ≤ limit := (user.requestRateLimit limit h.limit_eq).1
  have hgranted : ∀ window, (answered s rs).countP (isGranted window) ≤ limit ↔
      Unbroken window (admittedWindows user rs) ∨
        (admittedWindows user rs).count window ≤ limit := by
    intro window
    rw [countP_isGranted h hrs]
    by_cases hmem : window ∈ admittedWindows user rs
    · obtain ⟨r, hr, rfl⟩ := mem_admittedWindows hmem
      exact granted_le_iff hpositive (hunused r hr)
    · have hcount := List.count_eq_zero_of_not_mem hmem
      have hle := @granted_le_count _ _ limit window (admittedWindows user rs)
        (requestCounter s (tenantId, userId))
      exact iff_of_true (by omega) (.inr (by omega))
  constructor
  · exact fun hwithin window ↦ (hgranted window).mp (hwithin.granted_le window)
  · refine fun hwindows ↦ ⟨fun window ↦ (hgranted window).mpr (hwindows window), ?_⟩
    intro before r message seconds after he
    obtain ⟨hmem, hle⟩ := refused_full h hrs he
    rwa [hunused r hmem, Nat.zero_add] at hle

end counter

section overtaking

theorem single_requestRateLimit : ∀ n ∈ some 1, 1 ≤ n ∧ n ≤ 10000 := by
  intro n hn
  cases hn
  omega

theorem single_suspensionPair :
    (none : Option Datetime).isNone = (none : Option String).isNone := rfl

def singleRequestUser : UserRow where
  id := 2
  tenantId := 1
  displayName := "u"
  status := .active
  requestRateLimitPerMinute := some 1
  suspendedUntil := none
  suspensionReason := none
  accessPolicyUpdatedAt := none
  createdAt := 0
  requestRateLimit := single_requestRateLimit
  suspensionPair := single_suspensionPair

def singleRequestStore : AdministrationStore where
  tenants := .empty
  agents := .empty
  users := ⟨[singleRequestUser], List.nodup_singleton _⟩
  externalIdentities := .empty
  roleAssignments := .empty
  adminSessions := .empty
  requestRateLimitWindows := .empty

def requestAt (requestedAt : Datetime) : GovernedRequest where
  principal := ⟨1, 2, "u", .viewer, permissionsForRole .viewer, "oidc"⟩
  requestedAt

theorem singleRequestStore_limited : Limited singleRequestStore 1 2 singleRequestUser 1 := ⟨rfl, rfl⟩

/-- Two requests in one minute, of which the first request of the next minute obtains the lock before
the second: both are granted under a limit of one. -/
theorem overtaken_not_withinLimit :
    ¬ ∀ (s : AdministrationStore) (tenantId userId : UUID) (user : UserRow) (limit : ℕ)
      (rs : List GovernedRequest), Limited s tenantId userId user limit →
      (∀ r ∈ rs, (r.principal.tenantId, r.principal.userId) = (tenantId, userId)) →
      s.requestRateLimitWindows.find? (tenantId, userId) = none →
      WithinLimit limit (answered s rs) := by
  intro hall
  have hwithin := hall singleRequestStore 1 2 singleRequestUser 1
    [requestAt 30000000, requestAt 60000000, requestAt 59000000] singleRequestStore_limited
    (by simp [requestAt]) rfl
  have htwice : (answered singleRequestStore
      [requestAt 30000000, requestAt 60000000, requestAt 59000000]).countP (isGranted 0) = 2 := by
    decide +kernel
  have hle := hwithin.granted_le 0
  omega

/-- Without the overtaking the second request of the minute is refused. -/
theorem requests_withinLimit_iff_inOrder :
    WithinLimit 1 (answered singleRequestStore
        [requestAt 30000000, requestAt 59000000, requestAt 60000000]) ↔
      ∀ window, Unbroken window (admittedWindows singleRequestUser
          [requestAt 30000000, requestAt 59000000, requestAt 60000000]) ∨
        (admittedWindows singleRequestUser
          [requestAt 30000000, requestAt 59000000, requestAt 60000000]).count window ≤ 1 :=
  requests_withinLimit_iff singleRequestStore_limited (by simp [requestAt]) (by
    intro row hrow
    exact nomatch hrow)

end overtaking

end CyberNetizen.Administration
