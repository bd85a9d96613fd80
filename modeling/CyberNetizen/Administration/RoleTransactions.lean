import CyberNetizen.Infrastructure.Oidc
import CyberNetizen.Lib.Machine
import CyberNetizen.Lib.TemporaryOverride
import CyberNetizen.Lib.Checks

/-! # Authentications, role overrides and authorizations in any order -/

namespace CyberNetizen.Administration

open Domain Application Infrastructure KeyedTable TemporaryOverride

abbrev RoleEvent := Event AdminRole Datetime

structure Request extends Authenticated where
  /-- The number of the step that authenticated it. -/
  step : ℕ
  deriving DecidableEq

def Request.key (r : Request) : UUID × UUID := (r.principal.tenantId, r.principal.userId)

structure AdminWorld where
  store : AdministrationStore
  requests : List Request
  steps : ℕ

/-- What one transaction did about roles. -/
inductive Outcome
  | authenticated (key : UUID × UUID) (claim : AdminRole)
  | overridden (key : UUID × UUID) (o : Override AdminRole Datetime)
  | revoked (key : UUID × UUID)
  | governed (request : Request) (requestedAt : Datetime)
      (result : Except AdministrationError AdminPrincipal)
  | other
  deriving DecidableEq

inductive AdminAction
  | authenticate (claims : Claims) (tokenHash : String) (now : Datetime)
  | authorize (n : ℕ) (requestedAt windowStartedAt : Datetime)
  | setUserRoleOverride (tenantId userId : UUID) (role : AdminRole)
      (overrideExpiresAt : Option Datetime) (actorId : UUID) (updatedAt : Datetime)
  | revokeUserRoleOverride (tenantId userId : UUID) (updatedAt : Datetime)
  | updateUserStatus (tenantId : UUID) (userIds : List UUID) (status : EntityStatus)
  | updateUserAccessPolicy (tenantId userId : UUID) (requestRateLimitPerMinute : Option ℕ)
      (suspendedUntil : Option Datetime) (suspensionReason : Option String) (updatedAt : Datetime)
  | revokeAdminSession (tenantId userId sessionId : UUID) (revokedAt : Datetime)

section machine

variable (settings : OidcSettings) (uuid5 : String → UUID)

/-- One transaction. All that touch the role of a user lock its row from the first access to the
commit, so each is taken as one step. -/
def adminStep (w : AdminWorld) : AdminAction → Outcome × AdminWorld
  | .authenticate claims tokenHash now =>
    match authenticate settings uuid5 claims tokenHash now w.store with
    | (.error _, store) => (.other, { w with store, steps := w.steps + 1 })
    | (.ok a, store) =>
      let request : Request := ⟨a, w.steps⟩
      (.authenticated request.key a.claim,
        { store, requests := w.requests ++ [request], steps := w.steps + 1 })
  | .authorize n requestedAt windowStartedAt =>
    match w.requests[n]? with
    | none => (.other, { w with steps := w.steps + 1 })
    | some request =>
      let (result, store) :=
        authorizeAdminRequest request.principal requestedAt windowStartedAt w.store
      (.governed request requestedAt result,
        { store, requests := w.requests.eraseIdx n, steps := w.steps + 1 })
  | .setUserRoleOverride tenantId userId role overrideExpiresAt actorId updatedAt =>
    match setUserRoleOverride tenantId userId role overrideExpiresAt actorId updatedAt w.store with
    | (.error _, store) => (.other, { w with store, steps := w.steps + 1 })
    | (.ok r, store) =>
      (.overridden (tenantId, userId) ⟨r.role, r.overrideExpiresAt⟩,
        { w with store, steps := w.steps + 1 })
  | .revokeUserRoleOverride tenantId userId updatedAt =>
    match revokeUserRoleOverride tenantId userId updatedAt w.store with
    | (.error _, store) => (.other, { w with store, steps := w.steps + 1 })
    | (.ok _, store) => (.revoked (tenantId, userId), { w with store, steps := w.steps + 1 })
  | .updateUserStatus tenantId userIds status =>
    (.other, { w with
      store := (updateUserStatus tenantId userIds status w.store).2
      steps := w.steps + 1 })
  | .updateUserAccessPolicy tenantId userId rateLimit suspendedUntil suspensionReason updatedAt =>
    (.other, { w with
      store := (updateUserAccessPolicy tenantId userId rateLimit suspendedUntil suspensionReason
        updatedAt w.store).2
      steps := w.steps + 1 })
  | .revokeAdminSession tenantId userId sessionId revokedAt =>
    (.other, { w with
      store := (revokeAdminSession tenantId userId sessionId revokedAt w.store).2
      steps := w.steps + 1 })

/-- What the outcome is to the role of one user. A refused request has read no role; one over its
budget has. -/
def Outcome.event? (key : UUID × UUID) : Outcome → Option RoleEvent
  | .authenticated k claim => if k = key then some (.sync claim) else none
  | .overridden k o => if k = key then some (.put o) else none
  | .revoked k => if k = key then some .revoke else none
  | .governed request requestedAt result =>
    match result with
    | .error (.accessDenied _) => none
    | _ => if request.key = key then some (.observe requestedAt) else none
  | .other => none

def journal (w : AdminWorld) (as : List AdminAction) : List Outcome :=
  Machine.outputs (adminStep settings uuid5) w as

def history (w : AdminWorld) (as : List AdminAction) (key : UUID × UUID) : List RoleEvent :=
  (journal settings uuid5 w as).filterMap (Outcome.event? key)

/-- A world in which no one has signed in yet. -/
structure Fresh (w : AdminWorld) : Prop where
  roleAssignments : w.store.roleAssignments = Table.empty
  requests : w.requests = []
  steps : w.steps = 0

end machine

def roleRegister (r : RoleAssignment) : Register AdminRole Datetime where
  baseline := some r.trustedRole
  override := if r.source = .manual then some ⟨r.role, r.overrideExpiresAt⟩ else none

def standing (t : Table RoleAssignment.key) (key : UUID × UUID) : Register AdminRole Datetime :=
  match t.find? key with
  | none => ⟨none, none⟩
  | some r => roleRegister r

section rows

variable {r : RoleAssignment} {t : Table RoleAssignment.key} {key : UUID × UUID}

theorem register_restoreTrusted (updatedAt : Datetime) :
    roleRegister (r.restoreTrusted updatedAt) = (roleRegister r).apply .revoke := by
  simp [roleRegister, RoleAssignment.restoreTrusted, Register.apply]

theorem register_overrideRole (role : AdminRole) (expires : Option Datetime) (actorId : UUID)
    (updatedAt : Datetime) :
    roleRegister (r.overrideRole role expires actorId updatedAt) =
      (roleRegister r).apply (.put ⟨role, expires⟩) := by
  simp [roleRegister, RoleAssignment.overrideRole, Register.apply]

theorem source_cases (r : RoleAssignment) :
    r.source = .manual ∨ r.source = .oidc ∧ r.role = r.trustedRole := by
  rcases r.override with ⟨hs, hr, -⟩ | ⟨hs, -⟩
  · exact .inr ⟨hs, hr⟩
  · exact .inl hs

theorem register_synchronizeRole (claim : AdminRole) (now : Datetime) :
    roleRegister (synchronizeRole r claim now) =
      (roleRegister r).apply (.sync claim) := by
  rcases source_cases r with hs | ⟨hs, -⟩
  · simp [roleRegister, synchronizeRole, Register.apply, hs]
  · simp [roleRegister, synchronizeRole, Register.apply, hs]

theorem register_expireOverride (requestedAt : Datetime) :
    roleRegister (r.expireOverride requestedAt) =
      (roleRegister r).apply (.observe requestedAt) := by
  rcases source_cases r with hs | ⟨hs, -⟩
  · by_cases he : r.overrideExpiresAt.any (fun t ↦ decide (t ≤ requestedAt)) = true
    · simp [RoleAssignment.expireOverride, hs, he, roleRegister, RoleAssignment.restoreTrusted,
        Register.apply, Register.dropExpired, Override.expired, Option.filter_some]
    · simp [RoleAssignment.expireOverride, hs, he, roleRegister, Register.apply,
        Register.dropExpired, Override.expired, Option.filter_some]
  · simp [RoleAssignment.expireOverride, hs, roleRegister, Register.apply,
      Register.dropExpired]

theorem role_expireOverride (requestedAt : Datetime) :
    some (r.expireOverride requestedAt).role =
      (roleRegister r).effective requestedAt := by
  have hrow := register_expireOverride (r := r) requestedAt
  have hread : (roleRegister r).dropExpired requestedAt =
      roleRegister (r.expireOverride requestedAt) := hrow.symm
  have hbase : (roleRegister r).baseline =
      some (r.expireOverride requestedAt).trustedRole := by
    unfold RoleAssignment.expireOverride
    split <;> rfl
  unfold Register.effective
  rw [hread, hbase]
  rcases source_cases (r.expireOverride requestedAt) with hs | ⟨hs, hr⟩
  · simp [roleRegister, hs]
  · simp [roleRegister, hs, hr]

theorem standing_put (r : RoleAssignment) :
    standing (t.put r) key = if key = r.key then roleRegister r else standing t key := by
  simp only [standing, Table.find?_put]
  by_cases hk : key = r.key
  · simp only [if_pos hk]
  · simp only [if_neg hk]

end rows

end CyberNetizen.Administration

/-! # What each transaction does to the stored roles -/

namespace CyberNetizen.Administration

open Domain Application Infrastructure KeyedTable TemporaryOverride Checks

variable {s s' : AdministrationStore} {key : UUID × UUID}

theorem standing_put_found {t : Table RoleAssignment.key} {k : UUID × UUID} {r r' : RoleAssignment}
    {e : RoleEvent} (hfind : t.find? k = some r) (hkey : r'.key = r.key)
    (hrow : roleRegister r' = (roleRegister r).apply e) :
    standing (t.put r') key =
      if key = k then (standing t key).apply e else standing t key := by
  have hk : r.key = k := Table.key_of_find? hfind
  rw [standing_put, hkey, hk]
  by_cases h : key = k
  · subst h
    simp only [if_true, hrow, standing, hfind]
  · simp only [if_neg h]

theorem accessRefusal_some {user : Option UserRow} {requestedAt : Datetime}
    {error : AdministrationError} (h : accessRefusal user requestedAt = some error) :
    ∃ message, error = .accessDenied message := by
  unfold accessRefusal at h
  cases user with
  | none => exact ⟨_, (Option.some.inj h).symm⟩
  | some user =>
    dsimp only at h
    by_cases hstatus : user.status = .disabled
    · rw [if_pos hstatus] at h
      exact ⟨_, (Option.some.inj h).symm⟩
    · rw [if_neg hstatus] at h
      cases huntil : user.suspendedUntil with
      | none =>
        rw [huntil] at h
        exact absurd h (by simp)
      | some suspendedUntil =>
        rw [huntil] at h
        dsimp only at h
        by_cases hlate : requestedAt < suspendedUntil
        · rw [if_pos hlate] at h
          exact ⟨_, (Option.some.inj h).symm⟩
        · rw [if_neg hlate] at h
          exact absurd h (by simp)

/-- The user may be let in. -/
structure Admissible (s : AdministrationStore) (key : UUID × UUID) (requestedAt : Datetime)
    (user : UserRow) : Prop where
  mem : user ∈ s.users
  key : (user.tenantId, user.id) = key
  enabled : user.status ≠ .disabled
  unsuspended : ∀ t ∈ user.suspendedUntil, t ≤ requestedAt

theorem user?_eq_some {tenantId userId : UUID} {user : UserRow}
    (h : s.user? tenantId userId = some user) :
    user ∈ s.users ∧ (user.tenantId, user.id) = (tenantId, userId) := by
  unfold AdministrationStore.user? at h
  obtain ⟨hfind, htenant⟩ := Option.filter_eq_some_iff.mp h
  rw [decide_eq_true_eq] at htenant
  have hid : user.id = userId := Table.key_of_find? hfind
  exact ⟨Table.mem_of_find? hfind, Prod.ext htenant hid⟩

theorem admissible_of_no_refusal {tenantId userId : UUID} {requestedAt : Datetime}
    (h : accessRefusal (s.user? tenantId userId) requestedAt = none) :
    ∃ user, Admissible s (tenantId, userId) requestedAt user := by
  unfold accessRefusal at h
  cases hu : s.user? tenantId userId with
  | none =>
    rw [hu] at h
    exact absurd h (by simp)
  | some user =>
    rw [hu] at h
    dsimp only at h
    obtain ⟨hmem, hkey⟩ := user?_eq_some hu
    by_cases hstatus : user.status = .disabled
    · rw [if_pos hstatus] at h
      exact absurd h (by simp)
    · rw [if_neg hstatus] at h
      refine ⟨user, hmem, hkey, hstatus, fun t ht ↦ ?_⟩
      rw [Option.mem_def.mp ht] at h
      dsimp only at h
      by_contra hlate
      rw [if_pos (not_le.mp hlate)] at h
      exact absurd h (by simp)

/-- What an authorization does: it refuses and leaves the store alone, or it reads the role in effect,
takes back an expired override and grants the role, unless the budget of the minute is used up. -/
inductive Authorized (s : AdministrationStore) (p : AdminPrincipal) (requestedAt : Datetime) :
    Except AdministrationError AdminPrincipal → AdministrationStore → Prop
  | denied (message : String) : Authorized s p requestedAt (.error (.accessDenied message)) s
  | read {result : Except AdministrationError AdminPrincipal} {s' : AdministrationStore}
    (user : ∃ user, Admissible s (p.tenantId, p.userId) requestedAt user)
    (roles : ∀ key, standing s'.roleAssignments key =
      if key = (p.tenantId, p.userId) then (standing s.roleAssignments key).apply (.observe requestedAt)
      else standing s.roleAssignments key)
    (answer : result = .ok (withRole p
        (((standing s.roleAssignments (p.tenantId, p.userId)).effective requestedAt).getD p.role)) ∨
      ∃ message seconds, result = .error (.rateLimit message seconds)) :
    Authorized s p requestedAt result s'

theorem expireOverride_key (r : RoleAssignment) (requestedAt : Datetime) :
    (r.expireOverride requestedAt).key = r.key := by
  unfold RoleAssignment.expireOverride
  split <;> rfl

theorem governedRole_spec (p : AdminPrincipal) (requestedAt : Datetime) (s : AdministrationStore) :
    (∀ key, standing (governedRole p requestedAt s).2.roleAssignments key =
      if key = (p.tenantId, p.userId) then (standing s.roleAssignments key).apply (.observe requestedAt)
      else standing s.roleAssignments key) ∧
    (governedRole p requestedAt s).1 =
      ((standing s.roleAssignments (p.tenantId, p.userId)).effective requestedAt).getD p.role := by
  unfold governedRole
  cases hr : s.roleAssignment? p.tenantId p.userId with
  | none =>
    have hfind : s.roleAssignments.find? (p.tenantId, p.userId) = none := hr
    refine ⟨fun key ↦ ?_, ?_⟩
    · by_cases hkey : key = (p.tenantId, p.userId)
      · simp [hkey, standing, hfind, Register.apply, Register.dropExpired]
      · simp only [if_neg hkey]
    · simp [standing, hfind, Register.effective, Register.dropExpired]
  | some r =>
    have hfind : s.roleAssignments.find? (p.tenantId, p.userId) = some r := hr
    refine ⟨fun key ↦ ?_, ?_⟩
    · exact standing_put_found hfind (expireOverride_key r requestedAt)
        (register_expireOverride requestedAt)
    · simp only [standing, hfind, ← role_expireOverride, Option.getD_some]

theorem authorizeAdminRequest_spec (p : AdminPrincipal) (requestedAt windowStartedAt : Datetime)
    (s : AdministrationStore) :
    Authorized s p requestedAt (authorizeAdminRequest p requestedAt windowStartedAt s).1
      (authorizeAdminRequest p requestedAt windowStartedAt s).2 := by
  unfold authorizeAdminRequest
  dsimp only
  cases hrefusal : accessRefusal (s.user? p.tenantId p.userId) requestedAt with
  | some error =>
    obtain ⟨message, rfl⟩ := accessRefusal_some hrefusal
    exact .denied message
  | none =>
    have huser := admissible_of_no_refusal hrefusal
    obtain ⟨hroles, hrole⟩ := governedRole_spec p requestedAt s
    dsimp only
    cases (s.user? p.tenantId p.userId).bind UserRow.requestRateLimitPerMinute with
    | none => exact .read huser hroles (.inl (by rw [hrole]))
    | some limit =>
      dsimp only
      split
      · exact .read huser hroles (.inr ⟨_, _, rfl⟩)
      · exact .read huser hroles (.inl (by rw [hrole]))

theorem setUserRoleOverride_ok {tenantId userId : UUID} {role : AdminRole}
    {expires : Option Datetime} {actorId : UUID} {updatedAt : Datetime} {r : RoleAssignment}
    (h : setUserRoleOverride tenantId userId role expires actorId updatedAt s = (.ok r, s')) :
    standing s'.roleAssignments key =
      if key = (tenantId, userId) then
        (standing s.roleAssignments key).apply (.put ⟨r.role, r.overrideExpiresAt⟩)
      else standing s.roleAssignments key := by
  unfold setUserRoleOverride at h
  cases hu : s.user? tenantId userId with
  | none => simp [hu] at h
  | some user =>
    cases hr : s.roleAssignment? tenantId userId with
    | none => simp [hu, hr] at h
    | some r₀ =>
      simp only [hu, hr, Prod.mk.injEq, Except.ok.injEq] at h
      obtain ⟨rfl, rfl⟩ := h
      exact standing_put_found hr rfl (register_overrideRole role expires actorId updatedAt)

theorem revokeUserRoleOverride_ok {tenantId userId : UUID} {updatedAt : Datetime}
    {r : RoleAssignment} (h : revokeUserRoleOverride tenantId userId updatedAt s = (.ok r, s')) :
    standing s'.roleAssignments key =
      if key = (tenantId, userId) then (standing s.roleAssignments key).apply .revoke
      else standing s.roleAssignments key := by
  unfold revokeUserRoleOverride at h
  cases hu : s.user? tenantId userId with
  | none => simp [hu] at h
  | some user =>
    cases hr : s.roleAssignment? tenantId userId with
    | none => simp [hu, hr] at h
    | some r₀ =>
      by_cases hs : r₀.source = .manual
      · simp only [hu, hr, hs, ne_eq, not_true_eq_false, if_false, Prod.mk.injEq,
          Except.ok.injEq] at h
        obtain ⟨rfl, rfl⟩ := h
        exact standing_put_found hr rfl (register_restoreTrusted updatedAt)
      · simp [hu, hr, hs] at h

theorem setUserRoleOverride_error {tenantId userId : UUID} {role : AdminRole}
    {expires : Option Datetime} {actorId : UUID} {updatedAt : Datetime}
    {error : AdministrationError}
    (h : setUserRoleOverride tenantId userId role expires actorId updatedAt s = (.error error, s')) :
    s' = s := by
  unfold setUserRoleOverride at h
  cases hu : s.user? tenantId userId with
  | none =>
    simp only [hu, Prod.mk.injEq] at h
    exact h.2.symm
  | some user =>
    cases hr : s.roleAssignment? tenantId userId with
    | none =>
      simp only [hu, hr, Prod.mk.injEq] at h
      exact h.2.symm
    | some r₀ => simp [hu, hr] at h

theorem revokeUserRoleOverride_error {tenantId userId : UUID} {updatedAt : Datetime}
    {error : AdministrationError}
    (h : revokeUserRoleOverride tenantId userId updatedAt s = (.error error, s')) : s' = s := by
  unfold revokeUserRoleOverride at h
  cases hu : s.user? tenantId userId with
  | none =>
    simp only [hu, Prod.mk.injEq] at h
    exact h.2.symm
  | some user =>
    cases hr : s.roleAssignment? tenantId userId with
    | none =>
      simp only [hu, hr, Prod.mk.injEq] at h
      exact h.2.symm
    | some r₀ =>
      by_cases hs : r₀.source = .manual
      · simp [hu, hr, hs] at h
      · simp only [hu, hr, ne_eq, hs, not_false_eq_true, if_true, Prod.mk.injEq] at h
        exact h.2.symm

@[simp] theorem updateUserStatus_roles (tenantId : UUID) (userIds : List UUID)
    (status : EntityStatus) :
    (updateUserStatus tenantId userIds status s).2.roleAssignments = s.roleAssignments := by
  simp only [updateUserStatus]
  split <;> rfl

@[simp] theorem updateUserAccessPolicy_roles (tenantId userId : UUID) (rateLimit : Option ℕ)
    (suspendedUntil : Option Datetime) (reason : Option String) (updatedAt : Datetime) :
    (updateUserAccessPolicy tenantId userId rateLimit suspendedUntil reason updatedAt
      s).2.roleAssignments = s.roleAssignments := by
  unfold updateUserAccessPolicy
  cases s.user? tenantId userId with
  | none => rfl
  | some user =>
    dsimp only
    split <;> rfl

@[simp] theorem revokeAdminSession_roles (tenantId userId sessionId : UUID) (revokedAt : Datetime) :
    (revokeAdminSession tenantId userId sessionId revokedAt s).2.roleAssignments =
      s.roleAssignments := by
  simp only [revokeAdminSession]
  split
  · rfl
  · split <;> rfl

section authentication

variable {settings : OidcSettings} {uuid5 : String → UUID}

theorem insertNew_ok {ρ κ : Type} {rowKey : ρ → κ} [DecidableEq κ] {primaryKey : ρ → UUID}
    {t t' : Table rowKey} {r : ρ} (h : insertNew primaryKey t r = .ok t') : t' = t.put r := by
  unfold insertNew at h
  split at h
  · exact absurd h (nomatch ·)
  · exact (Except.ok.inj h).symm

theorem bindRole_ok {principal : AdminPrincipal} {now : Datetime} {t t' : Table RoleAssignment.key}
    {role : AdminRole} (h : bindRole uuid5 principal now t = .ok (role, t')) :
    standing t' key =
      if key = (principal.tenantId, principal.userId) then
        (standing t key).apply (.sync principal.role)
      else standing t key := by
  unfold bindRole at h
  cases hfind : t.find? (principal.tenantId, principal.userId) with
  | some r =>
    rw [hfind] at h
    obtain ⟨-, rfl⟩ := Prod.mk.inj (Except.ok.inj h)
    exact standing_put_found hfind rfl (register_synchronizeRole principal.role now)
  | none =>
    rw [hfind] at h
    obtain ⟨t₁, hinsert, h⟩ := bind_eq_ok.mp h
    obtain ⟨-, rfl⟩ := Prod.mk.inj (Except.ok.inj h)
    rw [insertNew_ok hinsert, standing_put]
    by_cases hkey : key = (principal.tenantId, principal.userId)
    · subst hkey
      simp [standing, hfind, roleRegister, Register.apply, RoleAssignment.key]
    · simp [RoleAssignment.key, hkey]

theorem persistIdentity_ok {identity : VerifiedIdentity} {tokenHash : String} {now : Datetime}
    {role : AdminRole}
    (h : persistIdentity settings uuid5 identity tokenHash now s = .ok (role, s')) :
    ∃ t', bindRole uuid5 identity.principal now s.roleAssignments = .ok (role, t') ∧
      s'.roleAssignments = t' := by
  obtain ⟨-, -, h⟩ := bind_eq_ok.mp h
  obtain ⟨externalIdentities, -, h⟩ := bind_eq_ok.mp h
  obtain ⟨⟨role', roleAssignments⟩, hbind, h⟩ := bind_eq_ok.mp h
  obtain ⟨adminSessions, -, h⟩ := bind_eq_ok.mp h
  obtain ⟨rfl, rfl⟩ := Prod.mk.inj (Except.ok.inj h)
  exact ⟨roleAssignments, hbind, rfl⟩

theorem authenticate_ok {claims : Claims} {tokenHash : String} {now : Datetime}
    {a : Authenticated} (h : authenticate settings uuid5 claims tokenHash now s = (.ok a, s')) :
    standing s'.roleAssignments key =
      if key = (a.principal.tenantId, a.principal.userId) then
        (standing s.roleAssignments key).apply (.sync a.claim)
      else standing s.roleAssignments key := by
  unfold authenticate at h
  cases hidentity : verifiedIdentity settings uuid5 claims with
  | error failure => simp [hidentity] at h
  | ok identity =>
    cases hpersist : persistIdentity settings uuid5 identity tokenHash now s with
    | error failure => simp [hidentity, hpersist] at h
    | ok persisted =>
      simp only [hidentity, hpersist, Prod.mk.injEq, Except.ok.injEq] at h
      obtain ⟨rfl, rfl⟩ := h
      obtain ⟨t', hbind, ht'⟩ := persistIdentity_ok hpersist
      rw [ht']
      exact bindRole_ok hbind

theorem authenticate_error {claims : Claims} {tokenHash : String} {now : Datetime}
    {failure : AuthenticationFailure}
    (h : authenticate settings uuid5 claims tokenHash now s = (.error failure, s')) : s' = s := by
  unfold authenticate at h
  cases hidentity : verifiedIdentity settings uuid5 claims with
  | error failure' =>
    simp only [hidentity, Prod.mk.injEq] at h
    exact h.2.symm
  | ok identity =>
    cases hpersist : persistIdentity settings uuid5 identity tokenHash now s with
    | error failure' =>
      simp only [hidentity, hpersist, Prod.mk.injEq] at h
      exact h.2.symm
    | ok persisted => simp [hidentity, hpersist] at h

end authentication

end CyberNetizen.Administration
