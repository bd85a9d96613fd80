import CyberNetizen.Domain.Administration
import CyberNetizen.Lib.Table

namespace CyberNetizen.Infrastructure

open Domain Application KeyedTable

structure TenantRow where
  id : UUID
  name : String
  status : EntityStatus
  createdAt : Datetime
  deriving DecidableEq

structure AgentRow where
  id : UUID
  tenantId : UUID
  name : String
  status : AgentLifecycleStatus
  createdAt : Datetime
  deriving DecidableEq

structure UserRow where
  id : UUID
  tenantId : UUID
  displayName : String
  status : EntityStatus
  requestRateLimitPerMinute : Option ℕ
  suspendedUntil : Option Datetime
  suspensionReason : Option String
  accessPolicyUpdatedAt : Option Datetime
  createdAt : Datetime
  /-- `ck_users_request_rate_limit` -/
  requestRateLimit : ∀ n ∈ requestRateLimitPerMinute, 1 ≤ n ∧ n ≤ 10000
  /-- `ck_users_suspension_pair` -/
  suspensionPair : suspendedUntil.isNone = suspensionReason.isNone

structure ExternalIdentity where
  id : UUID
  tenantId : UUID
  userId : UUID
  issuer : String
  subject : String
  createdAt : Datetime
  lastAuthenticatedAt : Datetime
  deriving DecidableEq

/-- `uq_external_identities_issuer_subject` -/
def ExternalIdentity.key (r : ExternalIdentity) : String × String := (r.issuer, r.subject)

structure RoleAssignment where
  id : UUID
  tenantId : UUID
  userId : UUID
  role : AdminRole
  source : IdentityGovernanceSource
  trustedRole : AdminRole
  overriddenBy : Option UUID
  overrideExpiresAt : Option Datetime
  createdAt : Datetime
  updatedAt : Datetime
  /-- `ck_role_assignments_override` -/
  override : source = .oidc ∧ role = trustedRole ∧ overriddenBy = none ∧ overrideExpiresAt = none ∨
    source = .manual ∧ overriddenBy.isSome

/-- `uq_role_assignments_tenant_user` -/
def RoleAssignment.key (r : RoleAssignment) : UUID × UUID := (r.tenantId, r.userId)

structure AdminSession where
  id : UUID
  tenantId : UUID
  userId : UUID
  externalIdentityId : UUID
  tokenHash : String
  issuedAt : Datetime
  expiresAt : Datetime
  lastSeenAt : Datetime
  revokedAt : Option Datetime
  deriving DecidableEq

structure UserRequestRateLimitWindow where
  tenantId : UUID
  userId : UUID
  windowStartedAt : Datetime
  usedCount : ℕ
  updatedAt : Datetime
  deriving DecidableEq

def UserRequestRateLimitWindow.key (r : UserRequestRateLimitWindow) : UUID × UUID :=
  (r.tenantId, r.userId)

/-- The tables of the identities. -/
structure AdministrationStore where
  tenants : Table TenantRow.id
  agents : Table AgentRow.id
  users : Table UserRow.id
  externalIdentities : Table ExternalIdentity.key
  roleAssignments : Table RoleAssignment.key
  adminSessions : Table AdminSession.tokenHash
  requestRateLimitWindows : Table UserRequestRateLimitWindow.key

inductive AdministrationError
  | accessDenied (message : String)
  | rateLimit (message : String) (retryAfterSeconds : ℕ)
  | notFound (message : String)
  | conflict (message : String)
  /-- A constraint of the database. -/
  | integrity
  deriving DecidableEq

/-- A transaction and what it returns or raises. One that raises inside the transaction leaves the
store as it was. -/
abbrev AdministrationTransaction (α : Type) :=
  AdministrationStore → Except AdministrationError α × AdministrationStore

def RoleAssignment.restoreTrusted (r : RoleAssignment) (updatedAt : Datetime) : RoleAssignment :=
  { r with
    role := r.trustedRole
    source := .oidc
    overriddenBy := none
    overrideExpiresAt := none
    updatedAt
    override := .inl ⟨rfl, rfl, rfl, rfl⟩ }

def RoleAssignment.overrideRole (r : RoleAssignment) (role : AdminRole)
    (overrideExpiresAt : Option Datetime) (actorId : UUID) (updatedAt : Datetime) :
    RoleAssignment :=
  { r with
    role
    source := .manual
    overriddenBy := some actorId
    overrideExpiresAt
    updatedAt
    override := .inr ⟨rfl, rfl⟩ }

def RoleAssignment.expireOverride (r : RoleAssignment) (requestedAt : Datetime) : RoleAssignment :=
  if r.source = .manual ∧ r.overrideExpiresAt.any (fun t ↦ decide (t ≤ requestedAt)) then
    r.restoreTrusted requestedAt
  else r

namespace AdministrationStore

variable (s : AdministrationStore) (tenantId userId : UUID)

def user? : Option UserRow := (s.users.find? userId).filter fun r ↦ r.tenantId = tenantId

def roleAssignment? : Option RoleAssignment := s.roleAssignments.find? (tenantId, userId)

/-- The count of the request in its minute: the upsert and the `used_count` it returns. -/
def countRequest (requestedAt windowStartedAt : Datetime) : ℕ × AdministrationStore :=
  let usedCount := match s.requestRateLimitWindows.find? (tenantId, userId) with
    | some r => if r.windowStartedAt = windowStartedAt then r.usedCount + 1 else 1
    | none => 1
  (usedCount, { s with
    requestRateLimitWindows := s.requestRateLimitWindows.put
      { tenantId, userId, windowStartedAt, usedCount, updatedAt := requestedAt } })

end AdministrationStore

/-- Which refusal the user's state calls for at the time of the request. -/
def accessRefusal (user : Option UserRow) (requestedAt : Datetime) : Option AdministrationError :=
  match user with
  | none => some (.accessDenied "用户不存在或不可访问")
  | some user =>
    if user.status = .disabled then some (.accessDenied "用户已停用")
    else match user.suspendedUntil with
      | none => none
      | some suspendedUntil =>
        if requestedAt < suspendedUntil then
          some (.accessDenied ("用户已临时停用至 " ++ isoformat suspendedUntil))
        else none

/-- `max(1, 60 - int((requested_at - window_started_at).total_seconds()))` -/
def retryAfterSeconds (requestedAt windowStartedAt : Datetime) : ℕ :=
  (max 1 (60 - ((requestedAt : ℤ) - windowStartedAt).tdiv 1000000)).toNat

/-- The effective role, and the store once an expired override has been taken back. -/
def governedRole (principal : AdminPrincipal) (requestedAt : Datetime) (s : AdministrationStore) :
    AdminRole × AdministrationStore :=
  match s.roleAssignment? principal.tenantId principal.userId with
  | some r =>
    let r := r.expireOverride requestedAt
    (r.role, { s with roleAssignments := s.roleAssignments.put r })
  | none => (principal.role, s)

def authorizeAdminRequest (principal : AdminPrincipal) (requestedAt windowStartedAt : Datetime) :
    AdministrationTransaction AdminPrincipal := fun s ↦
  let user := s.user? principal.tenantId principal.userId
  match accessRefusal user requestedAt with
  | some error => (.error error, s)
  | none =>
    let (effectiveRole, s) := governedRole principal requestedAt s
    match user.bind UserRow.requestRateLimitPerMinute with
    | none => (.ok (withRole principal effectiveRole), s)
    | some limit =>
      let (usedCount, s) :=
        s.countRequest principal.tenantId principal.userId requestedAt windowStartedAt
      -- the budget is judged after the commit
      if limit < usedCount then
        (.error (.rateLimit ("用户已达到每分钟 " ++ toString limit ++ " 次请求上限")
          (retryAfterSeconds requestedAt windowStartedAt)), s)
      else (.ok (withRole principal effectiveRole), s)

def setUserRoleOverride (tenantId userId : UUID) (role : AdminRole)
    (overrideExpiresAt : Option Datetime) (actorId : UUID) (updatedAt : Datetime) :
    AdministrationTransaction RoleAssignment := fun s ↦
  match s.user? tenantId userId with
  | none => (.error (.notFound "用户不存在"), s)
  | some _ =>
    match s.roleAssignment? tenantId userId with
    | none => (.error (.conflict "用户尚无可信 OIDC 角色基线"), s)
    | some r =>
      let r := r.overrideRole role overrideExpiresAt actorId updatedAt
      (.ok r, { s with roleAssignments := s.roleAssignments.put r })

def revokeUserRoleOverride (tenantId userId : UUID) (updatedAt : Datetime) :
    AdministrationTransaction RoleAssignment := fun s ↦
  match s.user? tenantId userId with
  | none => (.error (.notFound "用户不存在"), s)
  | some _ =>
    match s.roleAssignment? tenantId userId with
    | none => (.error (.conflict "用户尚无可信 OIDC 角色基线"), s)
    | some r =>
      if r.source ≠ .manual then (.error (.conflict "用户当前没有手工角色覆盖"), s)
      else
        let r := r.restoreTrusted updatedAt
        (.ok r, { s with roleAssignments := s.roleAssignments.put r })

def updateUserStatus (tenantId : UUID) (userIds : List UUID) (status : EntityStatus) :
    AdministrationTransaction Unit := fun s ↦
  let selected (r : UserRow) : Bool := r.tenantId = tenantId && r.id ∈ userIds
  if (s.users.rows.filter selected).length ≠ userIds.length then
    (.error (.notFound "一个或多个用户不存在"), s)
  else
    (.ok (), { s with users := s.users.updateWhere selected ⟨fun r ↦ { r with status }, fun _ ↦ rfl⟩ })

def updateUserAccessPolicy (tenantId userId : UUID) (requestRateLimitPerMinute : Option ℕ)
    (suspendedUntil : Option Datetime) (suspensionReason : Option String) (updatedAt : Datetime) :
    AdministrationTransaction Unit := fun s ↦
  match s.user? tenantId userId with
  | none => (.error (.notFound "用户不存在"), s)
  | some r =>
    if h : (∀ n ∈ requestRateLimitPerMinute, 1 ≤ n ∧ n ≤ 10000) ∧
        suspendedUntil.isNone = suspensionReason.isNone then
      (.ok (), { s with
        users := s.users.put { r with
          requestRateLimitPerMinute
          suspendedUntil
          suspensionReason
          accessPolicyUpdatedAt := some updatedAt
          requestRateLimit := h.1
          suspensionPair := h.2 }
        requestRateLimitWindows :=
          if requestRateLimitPerMinute.isNone then
            s.requestRateLimitWindows.deleteWhere fun w ↦ w.key = (tenantId, userId)
          else s.requestRateLimitWindows })
    else (.error .integrity, s)

def revokeAdminSession (tenantId userId sessionId : UUID) (revokedAt : Datetime) :
    AdministrationTransaction AdminSession := fun s ↦
  match s.adminSessions.rows.find? fun r ↦
      r.tenantId = tenantId && r.userId = userId && r.id = sessionId with
  | none => (.error (.notFound "管理会话不存在"), s)
  | some r =>
    if r.revokedAt.isSome then (.error (.conflict "管理会话已撤销"), s)
    else
      let r := { r with revokedAt := some revokedAt }
      (.ok r, { s with adminSessions := s.adminSessions.put r })

end CyberNetizen.Infrastructure
