import CyberNetizen.Application.TaskService
import CyberNetizen.Lib.Checks
import CyberNetizen.Lib.Hosts
import Mathlib.Data.Rat.Defs

namespace CyberNetizen.Adapters

open Application IpAddress UrlText

/-- What the notifier raises. -/
inductive WebhookFailure
  | validation (message : String)
  | delivery (code safeMessage : String) (retryable : Bool)
  /-- An exception that is raised as it is. -/
  | uncaught
  deriving DecidableEq

/-! ## The two filters -/

def blockedHosts : List (List Char) :=
  ["localhost", "localhost.localdomain", "metadata.google.internal", "metadata",
    "instance-data.ec2.internal"].map String.toList

def isBlockedHost (host : List Char) : Bool :=
  blockedHosts.contains host ∨ ".localhost".toList <:+ host ∨ ".local".toList <:+ host

def isForbidden (a : Address) : Bool :=
  a.isPrivate || a.isLoopback || a.isLinkLocal || a.isReserved || a.isUnspecified || a.isMulticast

def isRestricted (a : Address) : Bool :=
  a.isPrivate || a.isLoopback || a.isLinkLocal || a.isReserved

/-- `rstrip(".")` -/
def rstripDots (host : List Char) : List Char := (host.reverse.dropWhile (· = '.')).reverse

def validateWebhookUrl (tables : TextTables) (value : String) : Except WebhookFailure String :=
  let normalized := strip value
  if normalized = "" then .error (.validation "Webhook 地址不能为空")
  else match urlsplit tables normalized.toList with
    | none => .error .uncaught
    | some parsed =>
      if tables.casefold parsed.scheme ≠ "https".toList then
        .error (.validation "Webhook 仅允许使用 HTTPS")
      else match parsed.hostname tables, parsed.hasUserinfo with
        | some hostname, false =>
          let host := tables.casefold (rstripDots hostname)
          if isBlockedHost host then .error (.validation "Webhook 地址指向受限主机")
          else if (ofText host).any isForbidden then
            .error (.validation "Webhook 地址不得指向内网或本机地址")
          else match parsed.port with
            | none => .error .uncaught
            | some none => .ok normalized
            | some (some port) =>
              if 1 ≤ port ∧ port ≤ 65535 then .ok normalized
              else .error (.validation "Webhook 端口无效")
        | _, _ => .error (.validation "Webhook 地址不得包含用户信息")

/-- What `getaddrinfo` raises: an `OSError`, or another exception. -/
inductive ResolverError
  | osError
  | other
  deriving DecidableEq

abbrev Resolver := (host : List Char) → Except ResolverError (List (List Char))

def hostResolvesToRestrictedAddress (getaddrinfo : Resolver) (host : List Char) :
    Except WebhookFailure Bool :=
  match getaddrinfo host with
  | .error .osError => .ok false
  | .error .other => .error .uncaught
  | .ok infos => .ok (infos.any fun info ↦ (ofText info).any isRestricted)

/-! ## The delivery -/

structure WebhookRequest where
  url : String
  content : List UInt8
  headers : List (String × String)
  deriving DecidableEq

/-- What a `POST` ends with; redirects are not followed. -/
inductive PostOutcome
  | response (statusCode : ℕ)
  /-- `TimeoutException` or `NetworkError` -/
  | unreachable
  /-- Another `HTTPError` -/
  | httpError
  | raised
  deriving DecidableEq

structure AlertWebhookDeliveryResult where
  delivered : Bool
  attempts : ℕ
  statusCode : Option ℕ
  idempotencyKey : String
  deriving DecidableEq

structure Delivery where
  requests : List WebhookRequest
  result : Except WebhookFailure AlertWebhookDeliveryResult

/-- The end of an attempt that has not been accepted, with what the next ones come to. -/
def refusedOrAgain (request : WebhookRequest) (requestRetries attempts : ℕ)
    (lastStatus : Option ℕ) (retryable : Bool) (rest : Delivery) : Delivery :=
  if !retryable ∨ requestRetries < attempts then
    let code := if lastStatus.any fun status ↦ decide (0 < status ∧ status < 500) then
      "webhook_rejected" else "webhook_unavailable"
    ⟨[request], .error (.delivery code "Webhook 未接受告警通知" retryable)⟩
  else { rest with requests := request :: rest.requests }

/-- The loop over the attempts, of which `remaining` are left. -/
def attempt (request : WebhookRequest) (idempotencyKey : String) (post : ℕ → PostOutcome)
    (requestRetries : ℕ) : (remaining attempts : ℕ) → (lastStatus : Option ℕ) → Delivery
  | 0, _, _ => ⟨[], .error .uncaught⟩
  | remaining + 1, attempts, lastStatus =>
    let again lastStatus retryable :=
      refusedOrAgain request requestRetries (attempts + 1) lastStatus retryable
        (attempt request idempotencyKey post requestRetries remaining (attempts + 1) lastStatus)
    match post (attempts + 1) with
    | .httpError =>
      ⟨[request], .error (.delivery "webhook_transport_error" "Webhook 请求失败" false)⟩
    | .raised => ⟨[request], .error .uncaught⟩
    | .response statusCode =>
      if 200 ≤ statusCode ∧ statusCode < 300 then
        ⟨[request], .ok ⟨true, attempts + 1, some statusCode, idempotencyKey⟩⟩
      else again (some statusCode) (statusCode = 429 || 500 ≤ statusCode)
    | .unreachable => again lastStatus true

structure AlertWebhookNotifier where
  timeoutSeconds : ℚ
  maxRetries : ℤ
  resolveDns : Bool

/-- The arguments of `notify`; `payload` is the serialised payload, if it can be serialised. -/
structure Notification where
  url : String
  signingSecret : String
  payload : Option (List UInt8)
  idempotencyKey : String
  timeoutSeconds : Option ℚ
  maxRetries : Option ℤ

section

variable (tables : TextTables) (hmacSha256 : String → List UInt8 → String)
  (getaddrinfo : Resolver) (post : ℕ → PostOutcome)

/-- The checks of `notify` before the host is resolved. -/
def AlertWebhookNotifier.accept (notifier : AlertWebhookNotifier) (notification : Notification) :
    Except WebhookFailure (String × ℕ) := do
  let target ← validateWebhookUrl tables notification.url
  let requestTimeout := notification.timeoutSeconds.getD notifier.timeoutSeconds
  let requestRetries := notification.maxRetries.getD notifier.maxRetries
  if notification.signingSecret = "" ∨ 16384 < notification.signingSecret.length then
    .error (.validation "Webhook 签名密钥无效")
  else if notification.idempotencyKey = "" ∨ 255 < notification.idempotencyKey.length then
    .error (.validation "Webhook 幂等键无效")
  else if requestTimeout ≤ 0 ∨ ¬(0 ≤ requestRetries ∧ requestRetries ≤ 5) then
    .error (.validation "Webhook 投递参数无效")
  else .ok (target, requestRetries.toNat)

def AlertWebhookNotifier.isRefused (notifier : AlertWebhookNotifier) (target : String) :
    Except WebhookFailure Bool :=
  match (urlsplit tables target.toList).bind (·.hostname tables), notifier.resolveDns with
  | some hostname, true => hostResolvesToRestrictedAddress getaddrinfo hostname
  | _, _ => .ok false

def webhookRequest (target : String) (body : List UInt8) (notification : Notification) :
    WebhookRequest where
  url := target
  content := body
  headers := [("Content-Type", "application/json"), ("User-Agent", "cyber-netizen-bot-alerts/1"),
    ("X-CNB-Idempotency-Key", notification.idempotencyKey),
    ("X-CNB-Signature", "sha256=" ++ hmacSha256 notification.signingSecret body)]

def AlertWebhookNotifier.notify (notifier : AlertWebhookNotifier) (notification : Notification) :
    Delivery :=
  match notifier.accept tables notification with
  | .error failure => ⟨[], .error failure⟩
  | .ok (target, requestRetries) =>
    match notifier.isRefused tables getaddrinfo target with
    | .error failure => ⟨[], .error failure⟩
    | .ok true => ⟨[], .error (.validation "Webhook 地址解析到受限主机")⟩
    | .ok false =>
      match notification.payload with
      | none => ⟨[], .error .uncaught⟩
      | some body => attempt (webhookRequest hmacSha256 target body notification)
          notification.idempotencyKey post requestRetries (requestRetries + 1) 0 none

end

/-! ## Literal addresses -/

open Checks

variable {tables : TextTables} {hmacSha256 : String → List UInt8 → String}
  {getaddrinfo : Resolver} {post : ℕ → PostOutcome} {notifier : AlertWebhookNotifier}
  {notification : Notification} {target : String} {requestRetries : ℕ}

theorem isSpace_literalUrl (a : Address) : ∀ c ∈ literalUrl a, isSpace c = false := by
  intro c hc
  rcases List.mem_append.mp hc with hc | hc
  · exact (List.all_iff_forall_prop.mp (by decide) :
      ∀ c ∈ "https://".toList, isSpace c = false) c hc
  · rcases hostText_chars a c hc with hc | rfl | rfl
    · have hrange := toNat_of_isTextChar hc
      unfold isSpace
      simp only [Bool.or_eq_false_iff, Bool.and_eq_false_iff, decide_eq_false_iff_not]
      omega
    · decide
    · decide

theorem rstripDots_text (a : Address) : rstripDots a.text = a.text := by
  obtain ⟨c, hlast, hc⟩ := getLast?_text a
  rw [← List.head?_reverse] at hlast
  obtain ⟨rest, hrest⟩ := List.head?_eq_some_iff.mp hlast
  unfold rstripDots
  rw [hrest, List.dropWhile_cons_of_neg (by simpa using hc), ← hrest, List.reverse_reverse]

theorem isBlockedHost_text (a : Address) : isBlockedHost a.text = false := by
  have hletter : 'l' ∉ a.text := not_mem_text a (by decide)
  have hlisted : a.text ∉ blockedHosts := by
    intro h
    have hall : blockedHosts.all (fun name ↦ name.any fun c ↦ ¬IsTextChar c) := by decide
    obtain ⟨c, hc, hnot⟩ := List.any_iff_exists_prop.mp (List.all_eq_true.mp hall a.text h)
    exact hnot (text_isTextChar a c hc)
  unfold isBlockedHost
  refine decide_eq_false ?_
  rintro (h | h | h)
  · exact hlisted (List.contains_iff_mem.mp h)
  · exact hletter (h.subset (by decide))
  · exact hletter (h.subset (by decide))

/-- Written as the host, an address is accepted unless it is forbidden. -/
theorem validateWebhookUrl_literal (tables : TextTables) (a : Address) :
    validateWebhookUrl tables (String.ofList (literalUrl a)) =
      if isForbidden a then .error (.validation "Webhook 地址不得指向内网或本机地址")
      else .ok (String.ofList (literalUrl a)) := by
  have hstrip : strip (String.ofList (literalUrl a)) = String.ofList (literalUrl a) :=
    strip_eq_self fun c hc ↦ isSpace_literalUrl a c (by rwa [String.toList_ofList] at hc)
  have hne : String.ofList (literalUrl a) ≠ "" := by
    intro h
    have hchars := congrArg String.toList h
    rw [String.toList_ofList] at hchars
    cases hchars
  have hscheme : tables.casefold "https".toList = "https".toList :=
    tables.casefold_ascii _ (List.all_iff_forall_prop.mp (by decide))
  unfold validateWebhookUrl
  dsimp only
  rw [hstrip, if_neg hne, String.toList_ofList, urlsplit_literalUrl]
  dsimp only
  rw [if_neg (by rw [hscheme]; exact fun h ↦ h rfl), hostname_literal, hasUserinfo_literal]
  dsimp only
  rw [rstripDots_text, casefold_text, isBlockedHost_text, ofText_text, port_literal]
  rfl

theorem isForbidden_eq (a : Address) : isForbidden a = (isRestricted a || a.isMulticast) := by
  unfold isForbidden isRestricted
  cases hunspecified : a.isUnspecified with
  | false => rw [Bool.or_false]
  | true => rw [Address.isPrivate_of_isUnspecified hunspecified]; rfl

/-! ## What is sent -/

theorem mem_refusedOrAgain {request r : WebhookRequest} {attempts : ℕ} {lastStatus : Option ℕ}
    {retryable : Bool} {rest : Delivery}
    (h : r ∈ (refusedOrAgain request requestRetries attempts lastStatus retryable rest).requests) :
    r = request ∨ r ∈ rest.requests := by
  unfold refusedOrAgain at h
  by_cases hstop : !retryable ∨ requestRetries < attempts
  · rw [if_pos hstop] at h
    exact Or.inl (List.mem_singleton.mp h)
  · rw [if_neg hstop] at h
    exact List.mem_cons.mp h

theorem attempt_requests (request : WebhookRequest) (idempotencyKey : String)
    (post : ℕ → PostOutcome) (requestRetries remaining attempts : ℕ) (lastStatus : Option ℕ) :
    ∀ r ∈ (attempt request idempotencyKey post requestRetries remaining attempts
      lastStatus).requests, r = request := by
  induction remaining generalizing attempts lastStatus with
  | zero => exact fun r hr ↦ absurd hr List.not_mem_nil
  | succ remaining ih =>
    intro r hr
    rw [attempt] at hr
    dsimp only at hr
    cases hpost : post (attempts + 1) with
    | httpError =>
      rw [hpost] at hr
      exact List.mem_singleton.mp hr
    | raised =>
      rw [hpost] at hr
      exact List.mem_singleton.mp hr
    | unreachable =>
      rw [hpost] at hr
      exact (mem_refusedOrAgain hr).elim id (ih _ _ r)
    | response statusCode =>
      rw [hpost] at hr
      dsimp only at hr
      by_cases hdelivered : 200 ≤ statusCode ∧ statusCode < 300
      · rw [if_pos hdelivered] at hr
        exact List.mem_singleton.mp hr
      · rw [if_neg hdelivered] at hr
        exact (mem_refusedOrAgain hr).elim id (ih _ _ r)

theorem refusedOrAgain_sends (request : WebhookRequest) (requestRetries attempts : ℕ)
    (lastStatus : Option ℕ) (retryable : Bool) (rest : Delivery) :
    (refusedOrAgain request requestRetries attempts lastStatus retryable rest).requests ≠ [] := by
  unfold refusedOrAgain
  by_cases hstop : !retryable ∨ requestRetries < attempts
  · rw [if_pos hstop]
    exact List.cons_ne_nil _ _
  · rw [if_neg hstop]
    exact List.cons_ne_nil _ _

/-- At least one attempt is made. -/
theorem attempt_sends (request : WebhookRequest) (idempotencyKey : String)
    (post : ℕ → PostOutcome) (requestRetries remaining attempts : ℕ) (lastStatus : Option ℕ) :
    (attempt request idempotencyKey post requestRetries (remaining + 1) attempts
      lastStatus).requests ≠ [] := by
  rw [attempt]
  dsimp only
  cases post (attempts + 1) with
  | httpError => exact List.cons_ne_nil _ _
  | raised => exact List.cons_ne_nil _ _
  | unreachable => exact refusedOrAgain_sends _ _ _ _ _ _
  | response statusCode =>
    dsimp only
    by_cases hdelivered : 200 ≤ statusCode ∧ statusCode < 300
    · rw [if_pos hdelivered]
      exact List.cons_ne_nil _ _
    · rw [if_neg hdelivered]
      exact refusedOrAgain_sends _ _ _ _ _ _

/-- An accepted URL is the stripped value, and it has a host. -/
theorem validateWebhookUrl_ok {value : String} (h : validateWebhookUrl tables value = .ok target) :
    target = strip value ∧
      ∃ hostname, (urlsplit tables target.toList).bind (·.hostname tables) = some hostname := by
  unfold validateWebhookUrl at h
  dsimp only at h
  by_cases hempty : strip value = ""
  · rw [if_pos hempty] at h
    cases h
  rw [if_neg hempty] at h
  cases hsplit : urlsplit tables (strip value).toList with
  | none =>
    rw [hsplit] at h
    cases h
  | some parsed =>
    rw [hsplit] at h
    dsimp only at h
    by_cases hscheme : tables.casefold parsed.scheme ≠ "https".toList
    · rw [if_pos hscheme] at h
      cases h
    rw [if_neg hscheme] at h
    cases hname : parsed.hostname tables with
    | none =>
      rw [hname] at h
      cases h
    | some hostname =>
      cases huser : parsed.hasUserinfo with
      | true =>
        rw [hname, huser] at h
        cases h
      | false =>
        rw [hname, huser] at h
        dsimp only at h
        have htarget : target = strip value := by
          split_ifs at h
          cases hport : parsed.port with
          | none =>
            rw [hport] at h
            cases h
          | some port =>
            rw [hport] at h
            cases port with
            | none => exact (Except.ok.inj h).symm
            | some port =>
              dsimp only at h
              split_ifs at h
              exact (Except.ok.inj h).symm
        refine ⟨htarget, hostname, ?_⟩
        rw [htarget, hsplit]
        exact hname

theorem accept_ok (h : notifier.accept tables notification = .ok (target, requestRetries)) :
    validateWebhookUrl tables notification.url = .ok target := by
  obtain ⟨validated, hvalidated, h⟩ := bind_eq_ok.mp h
  dsimp only at h
  split_ifs at h
  rw [hvalidated, (Prod.mk.inj (Except.ok.inj h)).1]

/-- The outcome of the resolver at the check, and the addresses that the connection then uses: the
same ones, or any after an `OSError`. Another exception leaves no connection to be made. -/
inductive Resolution
  | answered (infos : List (List Char))
  | failed (later : List (List Char))
  | raised

namespace Resolution

def resolver : Resolution → Resolver
  | answered infos, _ => .ok infos
  | failed _, _ => .error .osError
  | raised, _ => .error .other

def connection : Resolution → List (List Char)
  | answered infos => infos
  | failed later => later
  | raised => []

/-- The resolver has answered, and an address is restricted or none is a multicast address; or it
has failed, and no address of the connection is forbidden; or it has raised, which ends the call. -/
def Covered : Resolution → Prop
  | answered infos => (∃ info ∈ infos, (ofText info).any isRestricted = true) ∨
      ∀ info ∈ infos, (ofText info).any Address.isMulticast = false
  | failed later => ∀ info ∈ later, (ofText info).any isForbidden = false
  | raised => True

def AcceptedLiterally (tables : TextTables) (resolution : Resolution) : Prop :=
  ∀ info ∈ resolution.connection, ∀ a, ofText info = some a →
    ∃ target, validateWebhookUrl tables (String.ofList (literalUrl a)) = .ok target

end Resolution

theorem acceptedLiterally_iff {resolution : Resolution} : resolution.AcceptedLiterally tables ↔
    ∀ info ∈ resolution.connection, (ofText info).any isForbidden = false := by
  refine forall₂_congr fun info _ ↦ ?_
  cases hread : ofText info with
  | none => exact ⟨fun _ ↦ rfl, nofun⟩
  | some a =>
    rw [Option.any_some]
    constructor
    · intro h
      obtain ⟨target, htarget⟩ := h a rfl
      rw [validateWebhookUrl_literal] at htarget
      cases hforbidden : isForbidden a with
      | false => rfl
      | true =>
        rw [hforbidden] at htarget
        cases htarget
    · rintro hforbidden _ ⟨⟩
      rw [validateWebhookUrl_literal, hforbidden]
      exact ⟨_, rfl⟩

/-- With DNS checks, a request is sent iff the checks are passed and the resolver has neither raised
nor turned up a restricted address. -/
theorem notify_sends_iff {timeoutSeconds : ℚ} {maxRetries : ℤ} {resolution : Resolution} :
    ((AlertWebhookNotifier.mk timeoutSeconds maxRetries true).notify tables hmacSha256
        resolution.resolver post notification).requests ≠ [] ↔
      (∃ target requestRetries, (AlertWebhookNotifier.mk timeoutSeconds maxRetries true).accept
        tables notification = .ok (target, requestRetries)) ∧ notification.payload ≠ none ∧
      resolution ≠ .raised ∧ ∀ infos, resolution = .answered infos →
        ∀ info ∈ infos, (ofText info).any isRestricted = false := by
  unfold AlertWebhookNotifier.notify
  cases haccept : (AlertWebhookNotifier.mk timeoutSeconds maxRetries true).accept tables
      notification with
  | error failure => exact ⟨fun h ↦ absurd rfl h, fun ⟨⟨_, _, h⟩, _⟩ ↦ (nomatch h)⟩
  | ok admitted =>
    obtain ⟨target, requestRetries⟩ := admitted
    obtain ⟨-, hostname, hname⟩ := validateWebhookUrl_ok (accept_ok haccept)
    have hrefused : (AlertWebhookNotifier.mk timeoutSeconds maxRetries true).isRefused tables
        resolution.resolver target = hostResolvesToRestrictedAddress resolution.resolver
          hostname := by
      unfold AlertWebhookNotifier.isRefused
      rw [hname]
    dsimp only
    rw [hrefused]
    have hpayload : (Delivery.requests (match notification.payload with
        | none => ⟨[], .error .uncaught⟩
        | some body => attempt (webhookRequest hmacSha256 target body notification)
            notification.idempotencyKey post requestRetries (requestRetries + 1) 0 none)) ≠ [] ↔
        notification.payload ≠ none := by
      cases notification.payload with
      | none => exact ⟨fun h ↦ absurd rfl h, fun h ↦ absurd rfl h⟩
      | some body => exact ⟨fun _ ↦ Option.some_ne_none _, fun _ ↦ attempt_sends _ _ _ _ _ _ _⟩
    cases resolution with
    | raised => exact ⟨fun h ↦ absurd rfl h, fun ⟨_, _, h, _⟩ ↦ absurd rfl h⟩
    | failed later =>
      exact hpayload.trans ⟨fun h ↦ ⟨⟨_, _, rfl⟩, h, nofun, nofun⟩, fun h ↦ h.2.1⟩
    | answered infos =>
      have hcheck : hostResolvesToRestrictedAddress (Resolution.answered infos).resolver hostname =
          .ok (infos.any fun info ↦ (ofText info).any isRestricted) := rfl
      rw [hcheck]
      cases hany : infos.any fun info ↦ (ofText info).any isRestricted with
      | false =>
        refine hpayload.trans ⟨fun h ↦ ⟨⟨_, _, rfl⟩, h, nofun, ?_⟩, fun h ↦ h.2.1⟩
        rintro _ ⟨⟩ info hinfo
        exact eq_false_of_ne_true (List.any_eq_false.mp hany info hinfo)
      | true =>
        obtain ⟨info, hinfo, hrestricted⟩ := List.any_eq_true.mp hany
        refine ⟨fun h ↦ absurd rfl h, fun ⟨_, _, _, h⟩ ↦ ?_⟩
        rw [h infos rfl info hinfo] at hrestricted
        cases hrestricted

theorem notify_requests (notifier : AlertWebhookNotifier) (notification : Notification) :
    ∀ request ∈ (notifier.notify tables hmacSha256 getaddrinfo post notification).requests,
      request.url = strip notification.url := by
  intro request hrequest
  unfold AlertWebhookNotifier.notify at hrequest
  cases haccept : notifier.accept tables notification with
  | error failure =>
    rw [haccept] at hrequest
    exact absurd hrequest List.not_mem_nil
  | ok admitted =>
    obtain ⟨target, requestRetries⟩ := admitted
    obtain ⟨rfl, -⟩ := validateWebhookUrl_ok (accept_ok haccept)
    rw [haccept] at hrequest
    dsimp only at hrequest
    cases hrefused : notifier.isRefused tables getaddrinfo (strip notification.url) with
    | error failure =>
      rw [hrefused] at hrequest
      exact absurd hrequest List.not_mem_nil
    | ok refused =>
      rw [hrefused] at hrequest
      cases refused with
      | true => exact absurd hrequest List.not_mem_nil
      | false =>
        dsimp only at hrequest
        cases hpayload : notification.payload with
        | none =>
          rw [hpayload] at hrequest
          exact absurd hrequest List.not_mem_nil
        | some body =>
          rw [hpayload] at hrequest
          rw [attempt_requests _ _ _ _ _ _ _ request hrequest]
          rfl

/-- Every request goes to the URL itself, and those to a host name go only to addresses that are
accepted literally exactly when the call is refused or the resolution is covered. -/
theorem notify_acceptedLiterally_iff (tables : TextTables)
    (hmacSha256 : String → List UInt8 → String) (post : ℕ → PostOutcome) (timeoutSeconds : ℚ)
    (maxRetries : ℤ) (notification : Notification) (resolution : Resolution) :
    (∀ request ∈ ((AlertWebhookNotifier.mk timeoutSeconds maxRetries true).notify tables hmacSha256
        resolution.resolver post notification).requests, request.url = strip notification.url) ∧
    ((((AlertWebhookNotifier.mk timeoutSeconds maxRetries true).notify tables hmacSha256
        resolution.resolver post notification).requests ≠ [] →
          resolution.AcceptedLiterally tables) ↔
      (¬∃ target requestRetries, (AlertWebhookNotifier.mk timeoutSeconds maxRetries true).accept
        tables notification = .ok (target, requestRetries)) ∨
      notification.payload = none ∨ resolution.Covered) := by
  refine ⟨notify_requests _ _, ?_⟩
  rw [notify_sends_iff, acceptedLiterally_iff]
  constructor
  · intro h
    by_contra hnot
    push Not at hnot
    obtain ⟨hadmitted, hpayload, huncovered⟩ := hnot
    cases resolution with
    | raised => exact huncovered trivial
    | failed later => exact huncovered (h ⟨hadmitted, hpayload, nofun, nofun⟩)
    | answered infos =>
      refine huncovered (Or.inr fun info hinfo ↦ ?_)
      have hfree : ∀ info ∈ infos, (ofText info).any isRestricted = false := fun info hinfo ↦
        eq_false_of_ne_true fun hrestricted ↦ huncovered (Or.inl ⟨info, hinfo, hrestricted⟩)
      have hforbidden := h ⟨hadmitted, hpayload, nofun, fun _ heq ↦
        Resolution.answered.inj heq ▸ hfree⟩ info hinfo
      cases hread : ofText info with
      | none => rfl
      | some a =>
        rw [hread, Option.any_some, isForbidden_eq, Bool.or_eq_false_iff] at hforbidden
        exact hforbidden.2
  · rintro (hrefused | hpayload | hcovered) ⟨hadmitted, hbody, hraised, hfree⟩
    · exact absurd hadmitted hrefused
    · exact absurd hpayload hbody
    · cases resolution with
      | raised => exact absurd rfl hraised
      | failed later => exact hcovered
      | answered infos =>
        intro info hinfo
        have hunrestricted := hfree infos rfl info hinfo
        rcases hcovered with ⟨other, hother, hrestricted⟩ | hmulticast
        · rw [hfree infos rfl other hother] at hrestricted
          cases hrestricted
        · have hnone := hmulticast info hinfo
          cases hread : ofText info with
          | none => rfl
          | some a =>
            rw [hread, Option.any_some] at hunrestricted hnone
            rw [Option.any_some, isForbidden_eq, hunrestricted, hnone]
            rfl

def asciiTables : TextTables where
  lower := List.map Char.toLower
  casefold := List.map Char.toLower
  hidesDelimiter _ := false
  lower_ascii _ _ := rfl
  casefold_ascii _ _ := rfl

def alertNotification : Notification where
  url := "https://hooks.example/alerts"
  signingSecret := "k"
  payload := some [123, 125]
  idempotencyKey := "a"
  timeoutSeconds := none
  maxRetries := none

/-- A host name reaches a multicast address, which is refused as a literal. -/
theorem not_acceptedLiterally_of_sent :
    ¬∀ (tables : TextTables) (hmacSha256 : String → List UInt8 → String) (post : ℕ → PostOutcome)
      (timeoutSeconds : ℚ) (maxRetries : ℤ) (notification : Notification) (resolution : Resolution),
      ((AlertWebhookNotifier.mk timeoutSeconds maxRetries true).notify tables hmacSha256
        resolution.resolver post notification).requests ≠ [] →
          resolution.AcceptedLiterally tables := by
  intro h
  have hsent := h asciiTables (fun _ _ ↦ "") (fun _ ↦ .response 200) 5 2 alertNotification
    (.answered ["224.0.0.1".toList]) (by decide +kernel)
  have hforbidden := acceptedLiterally_iff.mp hsent _ List.mem_cons_self
  revert hforbidden
  decide +kernel

/-! ## The tries of a notification -/

def PostOutcome.isRetryable : PostOutcome → Bool
  | .response statusCode => statusCode = 429 || 500 ≤ statusCode
  | .unreachable => true
  | .httpError | .raised => false

def PostOutcome.acceptedStatus : PostOutcome → Option ℕ
  | .response statusCode => if 200 ≤ statusCode ∧ statusCode < 300 then some statusCode else none
  | .unreachable | .httpError | .raised => none

/-- What comes of a notification after the first `attempts` tries, when `remaining` are left: every
try but the last is worth another one, and the delivery ends as the last one does. -/
structure Tried (post : ℕ → PostOutcome) (idempotencyKey : String) (attempts remaining : ℕ)
    (d : Delivery) : Prop where
  bounded : d.requests.length ≤ remaining
  again : ∀ n, n + 1 < d.requests.length → (post (attempts + (n + 1))).isRetryable = true
  stops : (post (attempts + d.requests.length)).isRetryable = true → d.requests.length = remaining
  delivered : ∀ r, d.result = .ok r ↔
    ∃ status, (post (attempts + d.requests.length)).acceptedStatus = some status ∧
      r = ⟨true, attempts + d.requests.length, some status, idempotencyKey⟩
  failed : ∀ code message retryable, d.result = .error (.delivery code message retryable) →
    retryable = (post (attempts + d.requests.length)).isRetryable
  uncaught : d.result = .error .uncaught ↔ post (attempts + d.requests.length) = .raised
  validated : ∀ message, d.result ≠ .error (.validation message)

section tries

variable {request : WebhookRequest} {idempotencyKey : String} {attempts remaining : ℕ}
  {lastStatus : Option ℕ} {retryable : Bool} {rest : Delivery}

theorem Tried.cons (h : Tried post idempotencyKey (attempts + 1) remaining rest)
    (hretry : (post (attempts + 1)).isRetryable = true) :
    Tried post idempotencyKey attempts (remaining + 1)
      { rest with requests := request :: rest.requests } := by
  have hlength : attempts + (rest.requests.length + 1) = attempts + 1 + rest.requests.length := by
    omega
  constructor
  · simpa using h.bounded
  · intro n hn
    cases n with
    | zero => exact hretry
    | succ n =>
      have hrest := h.again n (by simpa using hn)
      rwa [show attempts + 1 + (n + 1) = attempts + (n + 1 + 1) by omega] at hrest
  · simpa [hlength] using h.stops
  · simpa [hlength] using h.delivered
  · simpa [hlength] using h.failed
  · simpa [hlength] using h.uncaught
  · exact h.validated

theorem refusedOrAgain_tried (hretry : retryable = (post (attempts + 1)).isRetryable)
    (hrefused : (post (attempts + 1)).acceptedStatus = none)
    (hcaught : post (attempts + 1) ≠ .raised)
    (hcount : attempts + remaining = requestRetries)
    (hrest : 1 ≤ remaining → Tried post idempotencyKey (attempts + 1) remaining rest) :
    Tried post idempotencyKey attempts (remaining + 1)
      (refusedOrAgain request requestRetries (attempts + 1) lastStatus retryable rest) := by
  unfold refusedOrAgain
  by_cases hstop : !retryable ∨ requestRetries < attempts + 1
  · rw [if_pos hstop]
    constructor
    · simp
    · simp
    · intro (hagain : (post (attempts + 1)).isRetryable = true)
      rcases hstop with hnot | hlast
      · rw [hretry, hagain] at hnot
        cases hnot
      · change 1 = remaining + 1
        omega
    · intro r
      simp [hrefused]
    · intro code message retryable' h
      simp only [Except.error.injEq, WebhookFailure.delivery.injEq] at h
      rw [← h.2.2, hretry]
      rfl
    · simp [hcaught]
    · simp
  · rw [if_neg hstop]
    simp only [not_or, Bool.not_eq_true', Bool.not_eq_false] at hstop
    exact (hrest (by omega)).cons (hretry ▸ hstop.1)

/-- The loop ends: while tries are left, it makes one. -/
theorem attempt_tried (hcount : attempts + remaining = requestRetries + 1) (hleft : 1 ≤ remaining) :
    Tried post idempotencyKey attempts remaining
      (attempt request idempotencyKey post requestRetries remaining attempts lastStatus) := by
  induction remaining generalizing attempts lastStatus with
  | zero => omega
  | succ remaining ih =>
    have hrest : ∀ status, 1 ≤ remaining →
        Tried post idempotencyKey (attempts + 1) remaining (attempt request idempotencyKey post
          requestRetries remaining (attempts + 1) status) :=
      fun status hmore ↦ ih (by omega) hmore
    rw [attempt]
    dsimp only
    cases hpost : post (attempts + 1) with
    | httpError =>
      constructor <;> simp [hpost, PostOutcome.isRetryable, PostOutcome.acceptedStatus]
    | raised =>
      constructor <;> simp [hpost, PostOutcome.isRetryable, PostOutcome.acceptedStatus]
    | unreachable =>
      exact refusedOrAgain_tried (by rw [hpost]; rfl) (by rw [hpost]; rfl) (by simp [hpost])
        (by omega) (hrest _)
    | response statusCode =>
      dsimp only
      by_cases hdelivered : 200 ≤ statusCode ∧ statusCode < 300
      · rw [if_pos hdelivered]
        constructor
        · simp
        · simp
        · simp only [List.length_singleton, hpost, PostOutcome.isRetryable, Bool.or_eq_true,
            decide_eq_true_eq]
          omega
        · intro r
          simp [hpost, PostOutcome.acceptedStatus, hdelivered, eq_comm]
        · simp
        · simp [hpost]
        · simp
      · rw [if_neg hdelivered]
        refine refusedOrAgain_tried (by rw [hpost]; rfl) ?_ (by simp [hpost]) (by omega) (hrest _)
        rw [hpost, PostOutcome.acceptedStatus, if_neg hdelivered]

theorem accept_retries (h : notifier.accept tables notification = .ok (target, requestRetries)) :
    requestRetries ≤ 5 := by
  obtain ⟨validated, -, h⟩ := bind_eq_ok.mp h
  dsimp only at h
  split_ifs at h with hsecret hkey hbounds
  rw [← (Prod.mk.inj (Except.ok.inj h)).2]
  omega

/-- A notification is refused before anything is sent, or it is sent in at most six tries of one
request: another try is made exactly while the last one is worth it and one is left, and the
delivery ends as the last one does. -/
theorem notify_tries (tables : TextTables) (hmacSha256 : String → List UInt8 → String)
    (getaddrinfo : Resolver) (post : ℕ → PostOutcome) (notifier : AlertWebhookNotifier)
    (notification : Notification) :
    let d := notifier.notify tables hmacSha256 getaddrinfo post notification
    (d.requests = [] ∧ ∃ failure, d.result = .error failure) ∨
    ∃ target requestRetries body,
      notifier.accept tables notification = .ok (target, requestRetries) ∧ requestRetries ≤ 5 ∧
      notification.payload = some body ∧ d.requests ≠ [] ∧
      (∀ request ∈ d.requests, request = webhookRequest hmacSha256 target body notification) ∧
      Tried post notification.idempotencyKey 0 (requestRetries + 1) d := by
  intro d
  have hd : d = notifier.notify tables hmacSha256 getaddrinfo post notification := rfl
  unfold AlertWebhookNotifier.notify at hd
  cases haccept : notifier.accept tables notification with
  | error failure =>
    rw [haccept] at hd
    rw [hd]
    exact .inl ⟨rfl, failure, rfl⟩
  | ok admitted =>
    obtain ⟨target, requestRetries⟩ := admitted
    rw [haccept] at hd
    dsimp only at hd
    cases hrefused : notifier.isRefused tables getaddrinfo target with
    | error failure =>
      rw [hrefused] at hd
      rw [hd]
      exact .inl ⟨rfl, failure, rfl⟩
    | ok refused =>
      rw [hrefused] at hd
      cases refused with
      | true =>
        rw [hd]
        exact .inl ⟨rfl, _, rfl⟩
      | false =>
        dsimp only at hd
        cases hpayload : notification.payload with
        | none =>
          rw [hpayload] at hd
          rw [hd]
          exact .inl ⟨rfl, _, rfl⟩
        | some body =>
          rw [hpayload] at hd
          rw [hd]
          refine .inr ⟨target, requestRetries, body, rfl, accept_retries haccept, rfl,
            attempt_sends _ _ _ _ _ _ _, attempt_requests _ _ _ _ _ _ _, ?_⟩
          exact attempt_tried (by omega) (by omega)

end tries

end CyberNetizen.Adapters
