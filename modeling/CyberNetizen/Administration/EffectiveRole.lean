import CyberNetizen.Administration.RoleTransactions

/-! # The role an authorization grants -/

namespace CyberNetizen.Administration

open Domain Application Infrastructure KeyedTable TemporaryOverride

section runs

variable {settings : OidcSettings} {uuid5 : String → UUID} {w start : AdminWorld}

def afterEvent (r : Register AdminRole Datetime) :
    Option RoleEvent → Register AdminRole Datetime
  | none => r
  | some e => r.apply e

/-- One transaction does to the stored role of a user what its outcome says. -/
theorem standing_step (w : AdminWorld) (a : AdminAction) (key : UUID × UUID) :
    standing (adminStep settings uuid5 w a).2.store.roleAssignments key =
      afterEvent (standing w.store.roleAssignments key)
        ((adminStep settings uuid5 w a).1.event? key) := by
  cases a with
  | authenticate claims tokenHash now =>
    cases h : authenticate settings uuid5 claims tokenHash now w.store with
    | mk result store =>
      cases result with
      | error failure =>
        obtain rfl := authenticate_error h
        simp [adminStep, h, Outcome.event?, afterEvent]
      | ok a =>
        simp only [adminStep, h, authenticate_ok h, Outcome.event?, Request.key]
        by_cases hkey : key = (a.principal.tenantId, a.principal.userId)
        · subst hkey
          simp [afterEvent]
        · simp [afterEvent, hkey, Ne.symm hkey]
  | authorize n requestedAt windowStartedAt =>
    cases hrequest : w.requests[n]? with
    | none => simp [adminStep, hrequest, Outcome.event?, afterEvent]
    | some request =>
      simp only [adminStep, hrequest]
      have hspec := authorizeAdminRequest_spec request.principal requestedAt windowStartedAt w.store
      generalize (authorizeAdminRequest request.principal requestedAt windowStartedAt w.store).1 =
        result at hspec
      generalize (authorizeAdminRequest request.principal requestedAt windowStartedAt w.store).2 =
        store at hspec
      cases hspec with
      | denied message => rfl
      | read user roles answer =>
        rw [roles]
        have hevent : Outcome.event? key (.governed request requestedAt result) =
            if request.key = key then some (.observe requestedAt) else none := by
          rcases answer with rfl | ⟨message, seconds, rfl⟩ <;> rfl
        rw [hevent]
        by_cases hkey : key = request.key
        · subst hkey
          simp [Request.key, afterEvent]
        · have hkey' : ¬key = (request.principal.tenantId, request.principal.userId) := hkey
          simp [hkey', Ne.symm hkey, afterEvent]
  | setUserRoleOverride tenantId userId role expires actorId updatedAt =>
    cases h : setUserRoleOverride tenantId userId role expires actorId updatedAt w.store with
    | mk result store =>
      cases result with
      | error error =>
        obtain rfl := setUserRoleOverride_error h
        simp [adminStep, h, Outcome.event?, afterEvent]
      | ok r =>
        simp only [adminStep, h, setUserRoleOverride_ok h, Outcome.event?]
        by_cases hkey : key = (tenantId, userId)
        · subst hkey
          simp [afterEvent]
        · simp [afterEvent, hkey, Ne.symm hkey]
  | revokeUserRoleOverride tenantId userId updatedAt =>
    cases h : revokeUserRoleOverride tenantId userId updatedAt w.store with
    | mk result store =>
      cases result with
      | error error =>
        obtain rfl := revokeUserRoleOverride_error h
        simp [adminStep, h, Outcome.event?, afterEvent]
      | ok r =>
        simp only [adminStep, h, revokeUserRoleOverride_ok h, Outcome.event?]
        by_cases hkey : key = (tenantId, userId)
        · subst hkey
          simp [afterEvent]
        · simp [afterEvent, hkey, Ne.symm hkey]
  | updateUserStatus tenantId userIds status =>
    simp [adminStep, Outcome.event?, afterEvent]
  | updateUserAccessPolicy tenantId userId rateLimit suspendedUntil reason updatedAt =>
    simp [adminStep, Outcome.event?, afterEvent]
  | revokeAdminSession tenantId userId sessionId revokedAt =>
    simp [adminStep, Outcome.event?, afterEvent]

theorem steps_step (w : AdminWorld) (a : AdminAction) :
    (adminStep settings uuid5 w a).2.steps = w.steps + 1 := by
  cases a <;> simp only [adminStep] <;> (try split) <;> rfl

/-- A request that waits for its authorization was waiting before or has just been authenticated. -/
theorem mem_requests_step {a : AdminAction} {request : Request}
    (h : request ∈ (adminStep settings uuid5 w a).2.requests) :
    request ∈ w.requests ∨ request.step = w.steps ∧
      (adminStep settings uuid5 w a).1 = .authenticated request.key request.claim := by
  cases a with
  | authenticate claims tokenHash now =>
    cases hauth : authenticate settings uuid5 claims tokenHash now w.store with
    | mk result store =>
      cases result with
      | error failure =>
        simp only [adminStep, hauth] at h
        exact .inl h
      | ok a =>
        simp only [adminStep, hauth, List.mem_append, List.mem_singleton] at h
        rcases h with h | rfl
        · exact .inl h
        · exact .inr ⟨rfl, by simp only [adminStep, hauth]⟩
  | authorize n requestedAt windowStartedAt =>
    cases hrequest : w.requests[n]? with
    | none =>
      simp only [adminStep, hrequest] at h
      exact .inl h
    | some r =>
      simp only [adminStep, hrequest] at h
      exact .inl (List.mem_of_mem_eraseIdx h)
  | setUserRoleOverride tenantId userId role expires actorId updatedAt =>
    simp only [adminStep] at h
    split at h <;> exact .inl h
  | revokeUserRoleOverride tenantId userId updatedAt =>
    simp only [adminStep] at h
    split at h <;> exact .inl h
  | updateUserStatus tenantId userIds status => exact .inl h
  | updateUserAccessPolicy tenantId userId rateLimit suspendedUntil reason updatedAt => exact .inl h
  | revokeAdminSession tenantId userId sessionId revokedAt => exact .inl h

/-- What a run from a fresh world has made of the roles and of the requests still waiting. -/
structure RunState (settings : OidcSettings) (uuid5 : String → UUID) (start : AdminWorld)
    (as : List AdminAction) (w : AdminWorld) : Prop where
  standing : ∀ key, standing w.store.roleAssignments key =
    replay (history settings uuid5 start as key)
  steps : w.steps = (journal settings uuid5 start as).length
  requests : ∀ request ∈ w.requests, (journal settings uuid5 start as)[request.step]? =
    some (.authenticated request.key request.claim)

theorem journal_append_singleton (as : List AdminAction) (a : AdminAction) :
    journal settings uuid5 start (as ++ [a]) = journal settings uuid5 start as ++
      [(adminStep settings uuid5 (Machine.run (adminStep settings uuid5) start as) a).1] :=
  Machine.outputs_append

theorem run_state (h : Fresh start) (as : List AdminAction) :
    RunState settings uuid5 start as (Machine.run (adminStep settings uuid5) start as) := by
  refine Machine.run_history ?_ fun as a ih ↦ ?_
  · refine ⟨fun key ↦ ?_, h.steps, fun request hr ↦ ?_⟩
    · rw [h.roleAssignments]
      rfl
    · rw [h.requests] at hr
      exact absurd hr List.not_mem_nil
  · generalize hw : Machine.run (adminStep settings uuid5) start as = w at ih ⊢
    have hjournal : journal settings uuid5 start (as ++ [a]) = journal settings uuid5 start as ++
        [(adminStep settings uuid5 (Machine.run (adminStep settings uuid5) start as) a).1] :=
      journal_append_singleton as a
    rw [hw] at hjournal
    refine ⟨fun key ↦ ?_, ?_, fun request hr ↦ ?_⟩
    · unfold history
      rw [standing_step, ih.standing, hjournal, List.filterMap_append]
      cases hevent : (adminStep settings uuid5 w a).1.event? key with
      | none => simp [afterEvent, hevent, history]
      | some e =>
        rw [List.filterMap_cons_some hevent, List.filterMap_nil, replay_append_singleton]
        rfl
    · rw [steps_step, ih.steps, hjournal, List.length_append, List.length_singleton]
    · rw [hjournal]
      rcases mem_requests_step hr with hr | ⟨hstep, hout⟩
      · have hold := ih.requests request hr
        rwa [List.getElem?_append_left (List.getElem?_eq_some_iff.mp hold).1]
      · rw [hstep, ih.steps, List.getElem?_concat_length, hout]

end runs

section laws

/-- The stored manual override of a user, if it has not expired at `requestedAt`. -/
def manualOverride? (s : AdministrationStore) (key : UUID × UUID) (requestedAt : Datetime) :
    Option RoleAssignment :=
  (s.roleAssignments.find? key).filter fun r ↦
    r.source = .manual && r.overrideExpiresAt.all fun t ↦ requestedAt < t

theorem standing_dropExpired (s : AdministrationStore) (key : UUID × UUID) (requestedAt : Datetime) :
    ((standing s.roleAssignments key).dropExpired requestedAt).override =
      (manualOverride? s key requestedAt).map fun r ↦ ⟨r.role, r.overrideExpiresAt⟩ := by
  unfold manualOverride? standing
  cases s.roleAssignments.find? key with
  | none => rfl
  | some r =>
    by_cases hs : r.source = .manual
    · cases he : r.overrideExpiresAt with
      | none => simp [roleRegister, Register.dropExpired, Override.expired, hs, he, Option.filter_some]
      | some t =>
        by_cases ht : requestedAt < t
        · simp [roleRegister, Register.dropExpired, Override.expired, hs, he, ht, Option.filter_some]
        · simp [roleRegister, Register.dropExpired, Override.expired, hs, he, ht,
            Option.filter_some, not_lt.mp ht]
    · simp [roleRegister, Register.dropExpired, hs, Option.filter_some]

variable (settings : OidcSettings) (uuid5 : String → UUID) (start : AdminWorld)

/-- What holds of an authorization that comes after `as` and lets `request` through as `p`. -/
structure RoleLaws (as : List AdminAction) (request : Request) (requestedAt : Datetime)
    (p : AdminPrincipal) : Prop where
  /-- A stored manual override that has not expired gives the role. It is the one that was set last,
  and nothing has ended it. -/
  override : ∀ r, manualOverride? (Machine.run (adminStep settings uuid5) start as).store request.key
      requestedAt = some r →
    p.role = r.role ∧
      InForce (history settings uuid5 start as request.key) ⟨r.role, r.overrideExpiresAt⟩
  /-- Without one the role is the claim of the last authentication of the user. -/
  claim : manualOverride? (Machine.run (adminStep settings uuid5) start as).store request.key
      requestedAt = none →
    some p.role = lastClaim (history settings uuid5 start as request.key)
  /-- That authentication is the request's own unless another one of the user came after it. -/
  own : (∀ o ∈ (journal settings uuid5 start as).drop (request.step + 1),
      ∀ claim, o ≠ .authenticated request.key claim) →
    lastClaim (history settings uuid5 start as request.key) = some request.claim
  /-- An override that was revoked or read after its expiry grants nothing any more. -/
  ended : ∀ before e after, history settings uuid5 start as request.key = before ++ e :: after →
    (∀ o, InForce before o → e.ends o = true) → (∀ o, e ≠ .put o) → (∀ o, .put o ∉ after) →
    some p.role = lastClaim (history settings uuid5 start as request.key)
  permissions : p.permissions = permissionsForRole p.role
  user : ∃ user, Admissible (Machine.run (adminStep settings uuid5) start as).store request.key
    requestedAt user

variable {settings uuid5 start} {w : AdminWorld} {as : List AdminAction} {n : ℕ}
  {requestedAt windowStartedAt : Datetime} {request : Request} {p : AdminPrincipal}

theorem governed_ok (h : (adminStep settings uuid5 w (.authorize n requestedAt windowStartedAt)).1 =
    .governed request requestedAt (.ok p)) :
    request ∈ w.requests ∧ (∃ user, Admissible w.store request.key requestedAt user) ∧
      p = withRole request.principal
        (((standing w.store.roleAssignments request.key).effective requestedAt).getD
          request.principal.role) := by
  cases hrequest : w.requests[n]? with
  | none => simp [adminStep, hrequest] at h
  | some r =>
    simp only [adminStep, hrequest, Outcome.governed.injEq] at h
    obtain ⟨rfl, -, hresult⟩ := h
    have hspec := authorizeAdminRequest_spec r.principal requestedAt windowStartedAt w.store
    rw [hresult] at hspec
    generalize (authorizeAdminRequest r.principal requestedAt windowStartedAt w.store).2 = store
      at hspec
    refine ⟨List.mem_of_getElem? hrequest, ?_⟩
    cases hspec with
    | read user roles answer =>
      refine ⟨user, ?_⟩
      rcases answer with hp | ⟨message, seconds, hp⟩
      · exact Except.ok.inj hp
      · exact absurd hp (nomatch ·)

/-- The claims of the authentications in a journal, before and after the request's own. -/
theorem lastClaim_own {before after : List Outcome} {key : UUID × UUID} {claim : AdminRole}
    (h : ∀ o ∈ after, ∀ c, o ≠ .authenticated key c) :
    lastClaim ((before ++ .authenticated key claim :: after).filterMap (Outcome.event? key)) =
      some claim := by
  have hown : (Outcome.authenticated key claim).event? key = some (.sync claim) := if_pos rfl
  rw [List.filterMap_append, List.filterMap_cons_some hown]
  refine lastClaim_of_quiet _ _ claim fun e he ↦ ?_
  obtain ⟨o, ho, hoe⟩ := List.mem_filterMap.mp he
  cases o with
  | authenticated k c =>
    simp only [Outcome.event?] at hoe
    split at hoe
    · rename_i hk
      exact absurd (by rw [hk]) (h _ ho c)
    · exact absurd hoe (nomatch ·)
  | overridden k o =>
    simp only [Outcome.event?] at hoe
    split at hoe
    · rw [← Option.some.inj hoe]
      rfl
    · exact absurd hoe (nomatch ·)
  | revoked k =>
    simp only [Outcome.event?] at hoe
    split at hoe
    · rw [← Option.some.inj hoe]
      rfl
    · exact absurd hoe (nomatch ·)
  | governed r at' result =>
    simp only [Outcome.event?] at hoe
    split at hoe
    · exact absurd hoe (nomatch ·)
    · split at hoe
      · rw [← Option.some.inj hoe]
        rfl
      · exact absurd hoe (nomatch ·)
  | other => exact absurd hoe (nomatch ·)

/-- The role that an authorization grants after any run, and to whom. -/
theorem effective_role_laws (hfresh : Fresh start)
    (h : (adminStep settings uuid5 (Machine.run (adminStep settings uuid5) start as)
      (.authorize n requestedAt windowStartedAt)).1 = .governed request requestedAt (.ok p)) :
    RoleLaws settings uuid5 start as request requestedAt p := by
  have hstate : RunState settings uuid5 start as (Machine.run (adminStep settings uuid5) start as) :=
    run_state hfresh as
  obtain ⟨hmem, huser, rfl⟩ := governed_ok h
  have hown := hstate.requests request hmem
  have hstanding := hstate.standing request.key
  have hread := standing_dropExpired
    (Machine.run (adminStep settings uuid5) start as).store request.key requestedAt
  rw [hstanding] at hread ⊢
  -- the request's own authentication is in the history, so a claim is known
  have hsync : Event.sync request.claim ∈ history settings uuid5 start as request.key :=
    List.mem_filterMap.mpr ⟨_, List.mem_of_getElem? hown, if_pos rfl⟩
  obtain ⟨c, hc⟩ := exists_lastClaim hsync
  refine ⟨fun r hr ↦ ?_, fun hnone ↦ ?_, fun hquiet ↦ ?_, fun before e after heq hend he hafter ↦ ?_,
    rfl, huser⟩
  · rw [hr, Option.map_some] at hread
    obtain ⟨hstored, hlive⟩ := dropExpired_override_iff.mp hread
    have hforce := replay_override_iff.mp hstored
    refine ⟨?_, hforce⟩
    rw [effective_of_override hforce hlive]
    rfl
  · rw [hnone, Option.map_none] at hread
    have heff : (replay (history settings uuid5 start as request.key)).effective requestedAt =
        lastClaim (history settings uuid5 start as request.key) := by
      unfold Register.effective
      rw [hread, replay_baseline]
    rw [heff, hc]
    rfl
  · obtain ⟨hlt, hget⟩ := List.getElem?_eq_some_iff.mp hown
    have hsplit := List.take_append_drop request.step (journal settings uuid5 start as)
    rw [List.drop_eq_getElem_cons hlt, hget] at hsplit
    unfold history
    rw [← hsplit]
    exact lastClaim_own hquiet
  · have heff := effective_after_end requestedAt hend he hafter
    rw [← heq] at heff
    rw [heff, hc]
    rfl

section tokens

def portal : OidcSettings where
  oidcClientId := some "portal"
  oidcRoleClaim := "role"
  oidcDisplayNameClaim := "name"
  oidcTenantId := some 1
  oidcTenantName := "tenant"
  oidcAgentId := some 2
  oidcAgentName := "agent"

def tokenOf (role : String) : Claims := fun key ↦
  if key = "sub" then some (.text "user")
  else if key = "role" then some (.text role)
  else if key = "iss" then some (.text "issuer")
  else if key = "iat" then some (.timestamp 0)
  else if key = "exp" then some (.timestamp 3600000000)
  else none

def unused : AdminWorld where
  store := ⟨.empty, .empty, .empty, .empty, .empty, .empty, .empty⟩
  requests := []
  steps := 0

def signIn (role : String) : AdminAction := .authenticate (tokenOf role) role 1000000

def viewerRequest : Request where
  claim := .viewer
  principal :=
    { tenantId := 1
      userId := 25
      displayName := "OIDC 用户"
      role := .viewer
      permissions := permissionsForRole .viewer
      authenticationMode := "oidc" }
  step := 0

/-- A request with a token for viewers is let in as viewer. -/
theorem viewer_let_in :
    RoleLaws portal String.length unused [signIn "viewer"] viewerRequest 2000000
      viewerRequest.principal :=
  have hgrant : (adminStep portal String.length
      (Machine.run (adminStep portal String.length) unused [signIn "viewer"])
      (.authorize 0 2000000 0)).1 =
        .governed viewerRequest 2000000 (.ok viewerRequest.principal) := by
    decide +kernel
  effective_role_laws ⟨rfl, rfl, rfl⟩ hgrant

/-- A request with a token for viewers is let in as administrator where another request of the user,
with a token for administrators, has signed in between. -/
theorem viewer_let_in_as_admin :
    ¬∀ (settings : OidcSettings) (uuid5 : String → UUID) (start : AdminWorld)
      (as : List AdminAction) (n : ℕ) (requestedAt windowStartedAt : Datetime) (request : Request)
      (p : AdminPrincipal), Fresh start →
      (adminStep settings uuid5 (Machine.run (adminStep settings uuid5) start as)
        (.authorize n requestedAt windowStartedAt)).1 = .governed request requestedAt (.ok p) →
      manualOverride? (Machine.run (adminStep settings uuid5) start as).store request.key
        requestedAt = none → p.role = request.claim := by
  intro h
  have hrole := h portal String.length unused [signIn "viewer", signIn "admin"] 0 2000000 0
    viewerRequest (withRole viewerRequest.principal .admin) ⟨rfl, rfl, rfl⟩ (by decide +kernel)
    (by
      refine Option.isNone_iff_eq_none.mp ?_
      decide +kernel)
  exact absurd hrole (by decide)

end tokens

end laws

end CyberNetizen.Administration
