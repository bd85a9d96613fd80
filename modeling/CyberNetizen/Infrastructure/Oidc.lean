import CyberNetizen.Application.TaskService
import CyberNetizen.Infrastructure.AdministrationRepository

namespace CyberNetizen.Infrastructure

open Domain Application KeyedTable

/-- A claim of a token whose signature, issuer, audience and times have been checked. -/
inductive Claim
  | text (value : String)
  /-- A number, as the instant it stands for. -/
  | timestamp (value : Datetime)
  | null
  | other

abbrev Claims := String → Option Claim

structure OidcSettings where
  oidcClientId : Option String
  oidcRoleClaim : String
  oidcDisplayNameClaim : String
  oidcTenantId : Option UUID
  oidcTenantName : String
  oidcAgentId : Option UUID
  oidcAgentName : String

inductive AuthenticationFailure
  | authentication (message : String)
  /-- A constraint of the database. -/
  | integrity
  deriving DecidableEq

def missingClaim (key : String) : AuthenticationFailure :=
  .authentication ("访问令牌缺少有效 claim：" ++ key)

def requiredClaim (claims : Claims) (key : String) (maximum : ℕ) :
    Except AuthenticationFailure String :=
  match claims key with
  | some (.text value) =>
    if strip value = "" ∨ maximum < value.length then .error (missingClaim key)
    else .ok (strip value)
  | _ => .error (missingClaim key)

def timestampClaim (claims : Claims) (key : String) : Except AuthenticationFailure Datetime :=
  match claims key with
  | some (.timestamp value) => .ok value
  | _ => .error (missingClaim key)

/-- `claims.get("azp", claims.get("client_id"))`, `none` where that is `None`. -/
def authorizedParty (claims : Claims) : Option Claim :=
  match claims "azp" with
  | some claim => match claim with
    | .null => none
    | claim => some claim
  | none => match claims "client_id" with
    | some .null => none
    | claim => claim

def partyMatches (settings : OidcSettings) : Option Claim → Bool
  | none => true
  | some (.text value) => some value = settings.oidcClientId
  | some _ => false

def displayNameOf (settings : OidcSettings) (claims : Claims) : String :=
  match claims settings.oidcDisplayNameClaim with
  | some (.text value) =>
    if strip value = "" then "OIDC 用户" else String.ofList ((strip value).toList.take 120)
  | _ => "OIDC 用户"

/-- What `_persist_identity` is given of a token. -/
structure VerifiedIdentity where
  principal : AdminPrincipal
  agentId : UUID
  issuer : String
  subject : String
  issuedAt : Datetime
  expiresAt : Datetime

section authenticator

variable (settings : OidcSettings) (uuid5 : String → UUID)

/-- The part of `authenticate` between the checked token and the database. -/
def verifiedIdentity (claims : Claims) : Except AuthenticationFailure VerifiedIdentity := do
  let subject ← requiredClaim claims "sub" 255
  let roleValue ← requiredClaim claims settings.oidcRoleClaim 24
  let role ← match AdminRole.ofValue? roleValue with
    | some role => .ok role
    | none => .error (.authentication "访问令牌未分配有效管理角色")
  if !partyMatches settings (authorizedParty claims) then
    throw (.authentication "访问令牌客户端不匹配")
  let issuer ← requiredClaim claims "iss" 500
  let issuedAt ← timestampClaim claims "iat"
  let expiresAt ← timestampClaim claims "exp"
  match settings.oidcTenantId, settings.oidcAgentId with
  | some tenantId, some agentId =>
    return {
      principal := {
        tenantId
        userId := uuid5 ("cnb-oidc-user|" ++ issuer ++ "|" ++ subject)
        displayName := displayNameOf settings claims
        role
        permissions := permissionsForRole role
        authenticationMode := "oidc" }
      agentId
      issuer
      subject
      issuedAt
      expiresAt }
  | _, _ => throw (.authentication "OIDC 本地身份映射尚未配置")

/-- `INSERT … ON CONFLICT DO NOTHING` -/
def insertIfAbsent {ρ κ : Type} {key : ρ → κ} [DecidableEq κ] (t : Table key) (r : ρ) : Table key :=
  if (t.find? (key r)).isSome then t else t.put r

/-- The insertion of a row whose conflict key is new: another row may still have its primary key. -/
def insertNew {ρ κ : Type} {key : ρ → κ} [DecidableEq κ] (primaryKey : ρ → UUID) (t : Table key)
    (r : ρ) : Except AuthenticationFailure (Table key) :=
  if t.rows.any fun x ↦ primaryKey x = primaryKey r then .error .integrity else .ok (t.put r)

def assertActiveIdentity (s : AdministrationStore) (tenantId agentId userId : UUID) :
    Except AuthenticationFailure Unit :=
  if (s.tenants.find? tenantId).any (fun r ↦ r.status = .active) ∧
      (s.agents.find? agentId).any (fun r ↦ r.status = .active && r.tenantId = tenantId) ∧
      (s.users.find? userId).any (fun r ↦ r.status = .active && r.tenantId = tenantId) then
    .ok ()
  else .error (.authentication "本地租户、用户或智能体已停用")

/-- The claim becomes the trusted role, and the role too where no manual override stands. -/
def synchronizeRole (r : RoleAssignment) (claim : AdminRole) (now : Datetime) : RoleAssignment :=
  { r with
    role := if r.source = .oidc then claim else r.role
    trustedRole := claim
    updatedAt := now
    override := by
      rcases r.override with ⟨hs, -, hb, he⟩ | ⟨hs, hb⟩
      · exact .inl ⟨hs, if_pos hs, hb, he⟩
      · exact .inr ⟨hs, hb⟩ }

def ensureIdentity (identity : VerifiedIdentity) (now : Datetime) (s : AdministrationStore) :
    AdministrationStore :=
  let principal := identity.principal
  { s with
    tenants := insertIfAbsent s.tenants
      { id := principal.tenantId
        name := String.ofList (settings.oidcTenantName.toList.take 120)
        status := .active
        createdAt := now }
    agents := insertIfAbsent s.agents
      { id := identity.agentId
        tenantId := principal.tenantId
        name := String.ofList (settings.oidcAgentName.toList.take 120)
        status := .active
        createdAt := now }
    users := match s.users.find? principal.userId with
      | some r => s.users.put { r with displayName := principal.displayName }
      | none => s.users.put
        { id := principal.userId
          tenantId := principal.tenantId
          displayName := principal.displayName
          status := .active
          requestRateLimitPerMinute := none
          suspendedUntil := none
          suspensionReason := none
          accessPolicyUpdatedAt := none
          createdAt := now
          requestRateLimit := fun _ h ↦ nomatch h
          suspensionPair := rfl } }

def bindExternalIdentity (identity : VerifiedIdentity) (now : Datetime)
    (t : Table ExternalIdentity.key) : Except AuthenticationFailure (Table ExternalIdentity.key) :=
  let principal := identity.principal
  match t.find? (identity.issuer, identity.subject) with
  | some r =>
    if r.tenantId ≠ principal.tenantId ∨ r.userId ≠ principal.userId then
      .error (.authentication "外部身份绑定发生冲突")
    else .ok (t.put { r with lastAuthenticatedAt := now })
  | none => insertNew ExternalIdentity.id t
    { id := uuid5 ("cnb-external-identity|" ++ identity.issuer ++ "|" ++ identity.subject)
      tenantId := principal.tenantId
      userId := principal.userId
      issuer := identity.issuer
      subject := identity.subject
      createdAt := now
      lastAuthenticatedAt := now }

def bindRole (principal : AdminPrincipal) (now : Datetime) (t : Table RoleAssignment.key) :
    Except AuthenticationFailure (AdminRole × Table RoleAssignment.key) :=
  match t.find? (principal.tenantId, principal.userId) with
  | some r =>
    let r := synchronizeRole r principal.role now
    .ok (r.role, t.put r)
  | none => do
    let t ← insertNew RoleAssignment.id t
      { id := uuid5 ("cnb-role-assignment|" ++ uuidString principal.tenantId ++ "|" ++
          uuidString principal.userId)
        tenantId := principal.tenantId
        userId := principal.userId
        role := principal.role
        source := .oidc
        trustedRole := principal.role
        overriddenBy := none
        overrideExpiresAt := none
        createdAt := now
        updatedAt := now
        override := .inl ⟨rfl, rfl, rfl, rfl⟩ }
    return (principal.role, t)

def bindSession (identity : VerifiedIdentity) (tokenHash : String) (now : Datetime)
    (t : Table AdminSession.tokenHash) :
    Except AuthenticationFailure (Table AdminSession.tokenHash) :=
  match t.find? tokenHash with
  | some r =>
    if r.revokedAt.isSome then .error (.authentication "管理会话已被撤销")
    else .ok (t.put { r with lastSeenAt := now })
  | none => insertNew AdminSession.id t
    { id := uuid5 ("cnb-admin-session|" ++ tokenHash)
      tenantId := identity.principal.tenantId
      userId := identity.principal.userId
      externalIdentityId :=
        uuid5 ("cnb-external-identity|" ++ identity.issuer ++ "|" ++ identity.subject)
      tokenHash
      issuedAt := identity.issuedAt
      expiresAt := identity.expiresAt
      lastSeenAt := now
      revokedAt := none }

/-- `_persist_identity`: the effective role and the store of the committed transaction. -/
def persistIdentity (identity : VerifiedIdentity) (tokenHash : String) (now : Datetime)
    (s : AdministrationStore) : Except AuthenticationFailure (AdminRole × AdministrationStore) := do
  let principal := identity.principal
  let s := ensureIdentity settings identity now s
  assertActiveIdentity s principal.tenantId identity.agentId principal.userId
  let externalIdentities ← bindExternalIdentity uuid5 identity now s.externalIdentities
  let (effectiveRole, roleAssignments) ← bindRole uuid5 principal now s.roleAssignments
  let adminSessions ← bindSession uuid5 identity tokenHash now s.adminSessions
  return (effectiveRole, { s with externalIdentities, roleAssignments, adminSessions })

/-- The role a token claims and the principal that comes of its authentication. -/
structure Authenticated where
  claim : AdminRole
  principal : AdminPrincipal
  deriving DecidableEq

/-- `authenticate`, from the checked token on. A failure leaves the store as it was. -/
def authenticate (claims : Claims) (tokenHash : String) (now : Datetime) (s : AdministrationStore) :
    Except AuthenticationFailure Authenticated × AdministrationStore :=
  match verifiedIdentity settings uuid5 claims with
  | .error failure => (.error failure, s)
  | .ok identity =>
    match persistIdentity settings uuid5 identity tokenHash now s with
    | .error failure => (.error failure, s)
    | .ok (effectiveRole, s') =>
      (.ok ⟨identity.principal.role, withRole identity.principal effectiveRole⟩, s')

end authenticator

end CyberNetizen.Infrastructure
