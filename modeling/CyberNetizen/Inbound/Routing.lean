import CyberNetizen.Inbound.RoundTrip
import CyberNetizen.Infrastructure.InboundRepository
import CyberNetizen.Lib.Machine
import CyberNetizen.Lib.Registry

/-! # Where the messages of a platform go -/

namespace CyberNetizen.Inbound

open Domain Adapters Application Infrastructure KeyedTable Checks Registry
open InboundGatewayService SqlAlchemyInboundGatewayRepository

/-- What a mapping binds together, apart from its id, its status and its times. -/
structure Binding (α : Type) where
  tenantId : UUID
  agentId : UUID
  channelId : UUID
  platform : ChannelPlatform
  mapping : α

def bindingOf {α : Type} (row : StoredMapping α) : Binding α :=
  ⟨row.tenantId, row.agentId, row.channelId, row.platform, row.mapping⟩

/-- The rows that take mappings with them when they are deleted. -/
inductive Owner
  | channel (id : UUID)
  | agent (id : UUID)
  | conversation (id : UUID)
  deriving DecidableEq

def identityOwners (b : Binding ExternalIdentityMapping) : List Owner :=
  [.channel b.channelId, .agent b.agentId]

def routeOwners (b : Binding (ExternalRoute String)) : List Owner :=
  [.channel b.channelId, .agent b.agentId, .conversation b.mapping.conversationId]

/-- One call of `accept_normalized`. -/
structure AcceptCall where
  tenantId : UUID
  agentId : UUID
  channelId : UUID
  event : ChannelInboundEvent
  verification : InboundVerification
  configuration : String → Option JsonValue
  sha256 : String → String

/-- What a call has read so far, each time the tables as they were. -/
inductive Reading
  | channel
  | identity (atChannel : GatewayStore)
  | route (atChannel atIdentity : GatewayStore)
  | conversation (atChannel atIdentity atRoute : GatewayStore)

def AcceptCall.ports (call : AcceptCall)
    (atChannel atIdentity atRoute atConversation : GatewayStore) : Ports where
  getInstance tenantId agentId channelId :=
    ChannelRepository.getInstance tenantId agentId channelId atChannel.surroundings.channels
  configuration := call.configuration
  findIdentityMapping subject :=
    (findIdentityMapping call.tenantId call.agentId call.channelId true atIdentity subject).map
      (·.mapping)
  findConversationMapping external thread :=
    (findConversationMapping call.tenantId call.agentId call.channelId true atRoute external
      thread).map (·.mapping.toExternalConversationMapping)
  getConversationForUser := getConversationForUser atConversation.surroundings
  sha256 := call.sha256

/-- The tables, what was ever bound, the owners that were deleted, the calls under way and the
envelopes that were accepted. -/
structure GatewayWorld where
  store : GatewayStore
  gone : List Owner
  boundIdentities : List (Binding ExternalIdentityMapping)
  boundRoutes : List (Binding (ExternalRoute String))
  calls : List (AcceptCall × Reading)
  accepted : List InboundEnvelope

def GatewayWorld.start (surroundings : GatewaySurroundings) : GatewayWorld :=
  ⟨⟨surroundings, .empty, .empty⟩, [], [], [], [], []⟩

inductive GatewayAction
  | createIdentity (mapping : StoredMapping ExternalIdentityMapping)
  | setIdentityStatus (tenantId agentId mappingId : UUID) (status : ExternalMappingStatus)
      (now : Datetime)
  | createConversation (mapping : StoredMapping (ExternalRoute (Option String)))
  | setConversationStatus (tenantId agentId mappingId : UUID) (status : ExternalMappingStatus)
      (now : Datetime)
  | accept (call : AcceptCall)
  /-- Call `i` makes its next read; after the last one the event is accepted or refused. -/
  | advance (i : ℕ)
  /-- The rest of the system writes its tables. -/
  | elsewhere (surroundings : GatewaySurroundings)

def ownersIn (s : GatewaySurroundings) : List Owner :=
  s.channels.instances.rows.map (fun c ↦ Owner.channel c.id) ++
    s.agents.rows.map (fun a ↦ Owner.agent a.id) ++
    s.conversations.rows.map fun c ↦ Owner.conversation c.id

def lostOwners (before after : GatewaySurroundings) : List Owner :=
  (ownersIn before).filter fun o ↦ o ∉ ownersIn after

/-- `ON DELETE CASCADE` -/
def cascade {α : Type} (owners : Binding α → List Owner) (os : List Owner)
    (t : Table (StoredMapping.id : StoredMapping α → UUID)) :
    Table (StoredMapping.id : StoredMapping α → UUID) :=
  t.deleteWhere fun row ↦ !decide (∀ o ∈ owners (bindingOf row), o ∉ os)

def advanceCall (w : GatewayWorld) (i : ℕ) (call : AcceptCall) :
    Reading → Option InboundEnvelope × GatewayWorld
  | .channel => (none, { w with calls := w.calls.set i (call, .identity w.store) })
  | .identity s₀ => (none, { w with calls := w.calls.set i (call, .route s₀ w.store) })
  | .route s₀ s₁ => (none, { w with calls := w.calls.set i (call, .conversation s₀ s₁ w.store) })
  | .conversation s₀ s₁ s₂ =>
    let w := { w with calls := w.calls.eraseIdx i }
    match InboundGatewayService.normalize (call.ports s₀ s₁ s₂ w.store) call.tenantId call.agentId
        call.channelId call.event call.verification with
    | .error _ => (none, w)
    | .ok envelope => (some envelope, { w with accepted := w.accepted ++ [envelope] })

def gatewayStep (w : GatewayWorld) : GatewayAction → Option InboundEnvelope × GatewayWorld
  | .createIdentity mapping =>
    match createIdentityMapping mapping w.store with
    | .error _ => (none, w)
    | .ok (_, store) =>
      (none, { w with store, boundIdentities := w.boundIdentities ++ [bindingOf mapping] })
  | .setIdentityStatus tenantId agentId mappingId status now =>
    (none, { w with store := { w.store with
      identities := (updateMappingStatus tenantId agentId mappingId status now
        w.store.identities).2 } })
  | .createConversation mapping =>
    match createConversationMapping mapping w.store with
    | .error _ => (none, w)
    | .ok (_, store) =>
      (none, { w with
        store, boundRoutes := w.boundRoutes ++ [bindingOf (conversationModel mapping)] })
  | .setConversationStatus tenantId agentId mappingId status now =>
    (none, { w with store := { w.store with
      routes := (updateMappingStatus tenantId agentId mappingId status now w.store.routes).2 } })
  | .accept call => (none, { w with calls := w.calls ++ [(call, .channel)] })
  | .advance i =>
    match w.calls[i]? with
    | none => (none, w)
    | some (call, reading) => advanceCall w i call reading
  | .elsewhere surroundings =>
    let os := lostOwners w.store.surroundings surroundings
    (none, { w with
      store := ⟨surroundings, cascade identityOwners os w.store.identities,
        cascade routeOwners os w.store.routes⟩
      gone := w.gone ++ os })

abbrev ChannelScope := UUID × UUID × ChannelPlatform

def Scoped (scopeOf : UUID → ChannelScope) (s : GatewaySurroundings) : Prop :=
  ∀ c ∈ s.channels.instances, (c.tenantId, c.agentId, c.platform) = scopeOf c.id

def GatewayAdmissible (scopeOf : UUID → ChannelScope) (w : GatewayWorld) : GatewayAction → Prop
  | .elsewhere surroundings => Scoped scopeOf surroundings ∧ ∀ o ∈ ownersIn surroundings, o ∉ w.gone
  | _ => True

section registers

variable (w : GatewayWorld)

def identityRegister : Register (Binding ExternalIdentityMapping) Owner :=
  ⟨w.store.identities.rows.map bindingOf, w.boundIdentities, w.gone⟩

def routeRegister : Register (Binding (ExternalRoute String)) Owner :=
  ⟨w.store.routes.rows.map bindingOf, w.boundRoutes, w.gone⟩

end registers

def subjectOf (b : Binding ExternalIdentityMapping) : UUID × String :=
  (b.channelId, b.mapping.externalSubjectId)

def localOf (b : Binding (ExternalRoute String)) : UUID × UUID :=
  (b.channelId, b.mapping.conversationId)

def threadOf (b : Binding (ExternalRoute String)) : UUID × String × String :=
  (b.channelId, b.mapping.externalConversationId, b.mapping.externalThreadId)

def Binding.scope {α : Type} (b : Binding α) : ChannelScope := (b.tenantId, b.agentId, b.platform)

structure Seen (w : GatewayWorld) (s : GatewayStore) : Prop where
  identities : ∀ row ∈ s.identities, bindingOf row ∈ w.boundIdentities
  routes : ∀ row ∈ s.routes, bindingOf row ∈ w.boundRoutes

def ReadingSeen (w : GatewayWorld) : Reading → Prop
  | .channel | .identity _ => True
  | .route _ s₁ => Seen w s₁
  | .conversation _ s₁ s₂ => Seen w s₁ ∧ Seen w s₂

/-- The bindings that sent an envelope where it went. -/
structure EnvelopeBound (w : GatewayWorld) (e : InboundEnvelope) : Prop where
  identity : ∃ b ∈ w.boundIdentities, b.tenantId = e.tenantId ∧ b.agentId = e.agentId ∧
    subjectOf b = (e.channelId, e.externalSubjectId) ∧ b.mapping.userId = e.userId
  route : ∃ b ∈ w.boundRoutes,
    threadOf b = (e.channelId, e.externalConversationId, e.externalThreadId.getD "") ∧
      b.mapping.conversationId = e.conversationId ∧ b.mapping.kind = e.conversationKind
  thread : e.externalThreadId ≠ some ""

structure Routed (scopeOf : UUID → ChannelScope) (w : GatewayWorld) : Prop where
  surroundings : Scoped scopeOf w.store.surroundings
  present : ∀ o ∈ ownersIn w.store.surroundings, o ∉ w.gone
  identities : Valid identityOwners (identityRegister w)
  routes : Valid routeOwners (routeRegister w)
  subjects : Replaced identityOwners subjectOf (identityRegister w)
  locals : Replaced routeOwners localOf (routeRegister w)
  threads : Replaced routeOwners threadOf (routeRegister w)
  identityScopes : ∀ b ∈ w.boundIdentities, b.scope = scopeOf b.channelId
  routeScopes : ∀ b ∈ w.boundRoutes, b.scope = scopeOf b.channelId
  calls : ∀ c ∈ w.calls, ReadingSeen w c.2
  accepted : ∀ e ∈ w.accepted, EnvelopeBound w e

structure Grown (w w' : GatewayWorld) : Prop where
  identities : ∀ b ∈ w.boundIdentities, b ∈ w'.boundIdentities
  routes : ∀ b ∈ w.boundRoutes, b ∈ w'.boundRoutes

section growth

variable {w w' : GatewayWorld}

theorem Seen.mono {s : GatewayStore} (h : Seen w s) (hg : Grown w w') : Seen w' s :=
  ⟨fun row hr ↦ hg.identities _ (h.identities row hr), fun row hr ↦ hg.routes _ (h.routes row hr)⟩

theorem ReadingSeen.mono {reading : Reading} (h : ReadingSeen w reading) (hg : Grown w w') :
    ReadingSeen w' reading := by
  cases reading with
  | channel => trivial
  | identity s₀ => trivial
  | route s₀ s₁ => exact Seen.mono h hg
  | conversation s₀ s₁ s₂ => exact ⟨h.1.mono hg, h.2.mono hg⟩

theorem EnvelopeBound.mono {e : InboundEnvelope} (h : EnvelopeBound w e) (hg : Grown w w') :
    EnvelopeBound w' e where
  identity :=
    let ⟨b, hb, hrest⟩ := h.identity
    ⟨b, hg.identities b hb, hrest⟩
  route :=
    let ⟨b, hb, hrest⟩ := h.route
    ⟨b, hg.routes b hb, hrest⟩
  thread := h.thread

end growth

section operations

variable {scopeOf : UUID → ChannelScope} {s s' : GatewayStore} {α : Type}

/-- A mapping whose channel is checked has the scope of the channel, and its owners are there. -/
theorem validateChannel_spec {t : GatewaySurroundings} {mapping : StoredMapping α}
    (h : validateChannel t mapping = true) (hs : Scoped scopeOf t) :
    (bindingOf mapping).scope = scopeOf mapping.channelId ∧
      Owner.channel mapping.channelId ∈ ownersIn t ∧ Owner.agent mapping.agentId ∈ ownersIn t := by
  simp only [validateChannel, Bool.and_eq_true, Option.any_eq_true, decide_eq_true_eq] at h
  obtain ⟨⟨channel, hchannel, hplatform⟩, agent, hagent, -⟩ := h
  unfold ChannelRepository.getInstance at hchannel
  obtain ⟨hfind, hscope⟩ := Option.filter_eq_some_iff.mp hchannel
  simp only [Bool.and_eq_true, decide_eq_true_eq] at hscope
  have hid : channel.id = mapping.channelId := Table.key_of_find? hfind
  have hmem := Table.mem_of_find? hfind
  refine ⟨?_, ?_, ?_⟩
  · have hc := hs channel hmem
    rw [hscope.1, hscope.2, hplatform, hid] at hc
    exact hc
  · simp only [ownersIn, List.mem_append, List.mem_map]
    exact .inl (.inl ⟨channel, hmem, by rw [hid]⟩)
  · simp only [ownersIn, List.mem_append, List.mem_map]
    exact .inl (.inr ⟨agent, Table.mem_of_find? hagent, by rw [Table.key_of_find? hagent]⟩)

theorem createIdentityMapping_eq_ok {mapping m : StoredMapping ExternalIdentityMapping}
    (h : createIdentityMapping mapping s = .ok (m, s')) :
    validateChannel s.surroundings mapping = true ∧
      (∀ row ∈ s.identities, subjectKey row ≠ subjectKey mapping) ∧
      s'.surroundings = s.surroundings ∧ s'.routes = s.routes ∧
      s'.identities.rows = s.identities.rows ++ [mapping] := by
  unfold createIdentityMapping at h
  split at h
  · cases h
  · rename_i hchannel
    split at h
    · cases h
    · split at h
      · cases h
      · rename_i hconflict
        simp only [Bool.or_eq_true, List.any_eq_true, decide_eq_true_eq, not_or, not_exists,
          not_and] at hconflict
        cases hi : s.identities.insert? mapping with
        | none =>
          rw [hi] at h
          cases h
        | some identities =>
          rw [hi] at h
          cases h
          exact ⟨by simpa using hchannel, hconflict.2, rfl, rfl, (Table.insert?_eq_some hi).2⟩

theorem createConversationMapping_eq_ok {mapping m : StoredMapping (ExternalRoute (Option String))}
    (h : createConversationMapping mapping s = .ok (m, s')) :
    validateChannel s.surroundings mapping = true ∧
      Owner.conversation mapping.mapping.conversationId ∈ ownersIn s.surroundings ∧
      (∀ row ∈ s.routes, routeKey row ≠ routeKey (conversationModel mapping) ∧
        localKey row ≠ localKey (conversationModel mapping)) ∧
      s'.surroundings = s.surroundings ∧ s'.identities = s.identities ∧
      s'.routes.rows = s.routes.rows ++ [conversationModel mapping] := by
  unfold createConversationMapping at h
  dsimp only at h
  split at h
  · cases h
  · rename_i hchannel
    split at h
    · cases h
    · rename_i hconversation
      split at h
      · cases h
      · rename_i hconflict
        simp only [Bool.or_eq_true, List.any_eq_true, decide_eq_true_eq, not_or, not_exists,
          not_and] at hconflict
        simp only [Bool.not_eq_true', Bool.not_eq_false, Option.any_eq_true] at hconversation
        obtain ⟨item, hitem, -⟩ := hconversation
        cases hi : s.routes.insert? (conversationModel mapping) with
        | none =>
          rw [hi] at h
          cases h
        | some routes =>
          rw [hi] at h
          cases h
          refine ⟨by simpa using hchannel, ?_, hconflict.2, rfl, rfl,
            (Table.insert?_eq_some hi).2⟩
          simp only [ownersIn, List.mem_append, List.mem_map]
          exact .inr ⟨item, Table.mem_of_find? hitem, by rw [Table.key_of_find? hitem]⟩

theorem map_bindingOf_updateMappingStatus {tenantId agentId mappingId : UUID}
    {status : ExternalMappingStatus} {now : Datetime}
    {t : Table (StoredMapping.id : StoredMapping α → UUID)} :
    (updateMappingStatus tenantId agentId mappingId status now t).2.rows.map bindingOf =
      t.rows.map bindingOf := by
  unfold updateMappingStatus
  cases getMapping t tenantId agentId mappingId with
  | none => rfl
  | some row => exact Table.map_updateWhere fun r ↦ rfl

theorem map_bindingOf_cascade {owners : Binding α → List Owner} {os : List Owner}
    {t : Table (StoredMapping.id : StoredMapping α → UUID)} :
    (cascade owners os t).rows.map bindingOf =
      (t.rows.map bindingOf).filter fun b ↦ ∀ o ∈ owners b, o ∉ os := by
  rw [cascade, Table.deleteWhere, List.filter_map]
  congr 1
  refine List.filter_congr fun row _ ↦ ?_
  simp

end operations

section acceptance

variable {ports : Ports} {tenantId agentId channelId : UUID} {event : ChannelInboundEvent}
  {verification : InboundVerification} {envelope : InboundEnvelope}

/-- An envelope goes where the mappings say that were found for it. -/
theorem normalize_found
    (h : InboundGatewayService.normalize ports tenantId agentId channelId event verification =
      .ok envelope) :
    (envelope.tenantId = tenantId ∧ envelope.agentId = agentId ∧ envelope.channelId = channelId) ∧
      (∃ identity, ports.findIdentityMapping envelope.externalSubjectId = some identity ∧
        identity.userId = envelope.userId) ∧
      ∃ route, ports.findConversationMapping envelope.externalConversationId
          envelope.externalThreadId = some route ∧
        route.conversationId = envelope.conversationId ∧
        route.kind = envelope.conversationKind := by
  unfold InboundGatewayService.normalize at h
  obtain ⟨channel, -, h⟩ := bind_eq_ok.mp h
  obtain ⟨-, -, h⟩ := bind_eq_ok.mp h
  obtain ⟨-, -, h⟩ := bind_eq_ok.mp h
  obtain ⟨maximumBytes, -, h⟩ := bind_eq_ok.mp h
  obtain ⟨-, -, h⟩ := bind_eq_ok.mp h
  obtain ⟨maximumAge, -, h⟩ := bind_eq_ok.mp h
  obtain ⟨-, -, h⟩ := bind_eq_ok.mp h
  obtain ⟨subjectId, -, h⟩ := bind_eq_ok.mp h
  obtain ⟨externalConversationId, -, h⟩ := bind_eq_ok.mp h
  obtain ⟨externalThreadId, -, h⟩ := bind_eq_ok.mp h
  obtain ⟨externalEventId, -, h⟩ := bind_eq_ok.mp h
  obtain ⟨externalMessageId, -, h⟩ := bind_eq_ok.mp h
  obtain ⟨identity, hidentity, h⟩ := bind_eq_ok.mp h
  obtain ⟨conversation, hconversation, h⟩ := bind_eq_ok.mp h
  obtain ⟨-, -, h⟩ := bind_eq_ok.mp h
  obtain ⟨localConversation, -, h⟩ := bind_eq_ok.mp h
  obtain ⟨-, -, h⟩ := bind_eq_ok.mp h
  obtain ⟨-, -, h⟩ := bind_eq_ok.mp h
  obtain ⟨blocks, -, h⟩ := bind_eq_ok.mp h
  cases h
  exact ⟨⟨rfl, rfl, rfl⟩, ⟨identity, found_eq_ok.mp hidentity, rfl⟩,
    conversation, found_eq_ok.mp hconversation, rfl, rfl⟩

/-- What a call accepts is bound by rows of the tables that it read. -/
theorem envelopeBound_of_normalize {w : GatewayWorld} {call : AcceptCall}
    {s₀ s₁ s₂ s₃ : GatewayStore} (h₁ : Seen w s₁) (h₂ : Seen w s₂)
    (h : InboundGatewayService.normalize (call.ports s₀ s₁ s₂ s₃) call.tenantId call.agentId
      call.channelId call.event call.verification = .ok envelope) : EnvelopeBound w envelope := by
  have hthread := (normalize_spec h).1.externalThreadId
  obtain ⟨⟨htenant, hagent, hchannel⟩, ⟨identity, hidentity, huser⟩, route, hroute, hlocal, hkind⟩ :=
    normalize_found h
  refine ⟨?_, ?_, ?_⟩
  · obtain ⟨row, hrow, rfl⟩ := Option.map_eq_some_iff.mp hidentity
    unfold findIdentityMapping at hrow
    have hkey := List.find?_some hrow
    rw [decide_eq_true_eq] at hkey
    obtain ⟨hrowTenant, hrowAgent, hrowChannel, hsubject, -⟩ := hkey
    refine ⟨_, h₁.identities row (List.mem_of_find?_eq_some hrow), ?_, ?_, ?_, huser⟩
    · exact hrowTenant.trans htenant.symm
    · exact hrowAgent.trans hagent.symm
    · exact Prod.ext (hrowChannel.trans hchannel.symm) hsubject
  · obtain ⟨found, hfound, rfl⟩ := Option.map_eq_some_iff.mp hroute
    obtain ⟨row, hrow, rfl⟩ := Option.map_eq_some_iff.mp hfound
    have hkey := List.find?_some hrow
    rw [decide_eq_true_eq] at hkey
    obtain ⟨-, -, hrowChannel, hexternal, hrowThread, -⟩ := hkey
    refine ⟨_, h₂.routes row (List.mem_of_find?_eq_some hrow), ?_, hlocal, hkind⟩
    exact Prod.ext (hrowChannel.trans hchannel.symm) (Prod.ext hexternal hrowThread)
  · rintro hempty
    rw [hempty] at hthread
    simp [isClean] at hthread

end acceptance

section step

variable {scopeOf : UUID → ChannelScope} {w : GatewayWorld}

theorem Routed.seen (h : Routed scopeOf w) : Seen w w.store :=
  ⟨fun _ hr ↦ h.identities.entered _ (List.mem_map_of_mem hr),
    fun _ hr ↦ h.routes.entered _ (List.mem_map_of_mem hr)⟩

theorem Routed.kept (h : Routed scopeOf w) {v : GatewayWorld} (hg : Grown w v)
    (hcalls : v.calls = w.calls) (haccepted : v.accepted = w.accepted) :
    (∀ c ∈ v.calls, ReadingSeen v c.2) ∧ ∀ e ∈ v.accepted, EnvelopeBound v e := by
  rw [hcalls, haccepted]
  exact ⟨fun c hc ↦ (h.calls c hc).mono hg, fun e he ↦ (h.accepted e he).mono hg⟩

theorem routed_createIdentity (h : Routed scopeOf w)
    (mapping : StoredMapping ExternalIdentityMapping) :
    Routed scopeOf (gatewayStep w (.createIdentity mapping)).2 := by
  unfold gatewayStep
  dsimp only
  split
  · exact h
  · rename_i m store hcreate
    obtain ⟨hchannel, hfresh, hsurroundings, hroutes, hrows⟩ := createIdentityMapping_eq_ok hcreate
    obtain ⟨hscope, hpresentChannel, hpresentAgent⟩ := validateChannel_spec hchannel h.surroundings
    have howners : ∀ o ∈ identityOwners (bindingOf mapping), o ∉ w.gone := by
      simp only [identityOwners, List.mem_cons, List.not_mem_nil, or_false]
      rintro o (rfl | rfl)
      · exact h.present _ hpresentChannel
      · exact h.present _ hpresentAgent
    have hnew : ∀ b ∈ w.store.identities.rows.map bindingOf,
        subjectOf b ≠ subjectOf (bindingOf mapping) := by
      intro b hb hkey
      obtain ⟨row, hrow, rfl⟩ := List.mem_map.mp hb
      obtain ⟨hsame, hsubject⟩ := Prod.mk.inj hkey
      have hrowScope := h.identityScopes _ (h.identities.entered _ hb)
      rw [hsame, show (bindingOf mapping).channelId = mapping.channelId from rfl, ← hscope] at hrowScope
      obtain ⟨htenant, hrest⟩ := Prod.mk.inj hrowScope
      obtain ⟨-, hplatform⟩ := Prod.mk.inj hrest
      exact hfresh row hrow
        (Prod.ext htenant (Prod.ext hplatform (Prod.ext hsame hsubject)))
    have hregister : identityRegister { w with store, boundIdentities := w.boundIdentities ++
        [bindingOf mapping] } = (identityRegister w).enter (bindingOf mapping) := by
      simp [identityRegister, Register.enter, hrows]
    have hrouteRegister : routeRegister { w with store, boundIdentities := w.boundIdentities ++
        [bindingOf mapping] } = routeRegister w := by
      simp [routeRegister, hroutes]
    have hkept := h.kept (v := { w with store, boundIdentities := w.boundIdentities ++
      [bindingOf mapping] }) ⟨fun b hb ↦ List.mem_append_left _ hb, fun _ hb ↦ hb⟩ rfl rfl
    constructor
    · exact hsurroundings ▸ h.surroundings
    · exact hsurroundings ▸ h.present
    · exact hregister ▸ h.identities.enter howners
    · exact hrouteRegister ▸ h.routes
    · exact hregister ▸ h.identities.replaced_enter h.subjects hnew howners
    · exact hrouteRegister ▸ h.locals
    · exact hrouteRegister ▸ h.threads
    · intro b hb
      rcases List.mem_append.mp hb with hb | hb
      · exact h.identityScopes b hb
      · rw [List.mem_singleton.mp hb]
        exact hscope
    · exact h.routeScopes
    · exact hkept.1
    · exact hkept.2

theorem routed_createConversation (h : Routed scopeOf w)
    (mapping : StoredMapping (ExternalRoute (Option String))) :
    Routed scopeOf (gatewayStep w (.createConversation mapping)).2 := by
  unfold gatewayStep
  dsimp only
  split
  · exact h
  · rename_i m store hcreate
    obtain ⟨hchannel, hconversation, hfresh, hsurroundings, hidentities, hrows⟩ :=
      createConversationMapping_eq_ok hcreate
    obtain ⟨hscope, hpresentChannel, hpresentAgent⟩ := validateChannel_spec hchannel h.surroundings
    have howners : ∀ o ∈ routeOwners (bindingOf (conversationModel mapping)), o ∉ w.gone := by
      simp only [routeOwners, List.mem_cons, List.not_mem_nil, or_false]
      rintro o (rfl | rfl | rfl)
      · exact h.present _ hpresentChannel
      · exact h.present _ hpresentAgent
      · exact h.present _ hconversation
    have hnewLocal : ∀ b ∈ w.store.routes.rows.map bindingOf,
        localOf b ≠ localOf (bindingOf (conversationModel mapping)) := by
      intro b hb hkey
      obtain ⟨row, hrow, rfl⟩ := List.mem_map.mp hb
      exact (hfresh row hrow).2 hkey
    have hnewThread : ∀ b ∈ w.store.routes.rows.map bindingOf,
        threadOf b ≠ threadOf (bindingOf (conversationModel mapping)) := by
      intro b hb hkey
      obtain ⟨row, hrow, rfl⟩ := List.mem_map.mp hb
      obtain ⟨hsame, hthread⟩ := Prod.mk.inj hkey
      have hrowScope := h.routeScopes _ (h.routes.entered _ hb)
      rw [hsame, show (bindingOf (conversationModel mapping)).channelId = mapping.channelId from rfl,
        ← hscope] at hrowScope
      obtain ⟨htenant, hrest⟩ := Prod.mk.inj hrowScope
      obtain ⟨-, hplatform⟩ := Prod.mk.inj hrest
      exact (hfresh row hrow).1
        (Prod.ext htenant (Prod.ext hplatform (Prod.ext hsame hthread)))
    have hregister : routeRegister { w with store, boundRoutes := w.boundRoutes ++
        [bindingOf (conversationModel mapping)] } =
          (routeRegister w).enter (bindingOf (conversationModel mapping)) := by
      simp [routeRegister, Register.enter, hrows]
    have hidentityRegister : identityRegister { w with store, boundRoutes := w.boundRoutes ++
        [bindingOf (conversationModel mapping)] } = identityRegister w := by
      simp [identityRegister, hidentities]
    have hkept := h.kept (v := { w with store, boundRoutes := w.boundRoutes ++
      [bindingOf (conversationModel mapping)] })
      ⟨fun _ hb ↦ hb, fun b hb ↦ List.mem_append_left _ hb⟩ rfl rfl
    constructor
    · exact hsurroundings ▸ h.surroundings
    · exact hsurroundings ▸ h.present
    · exact hidentityRegister ▸ h.identities
    · exact hregister ▸ h.routes.enter howners
    · exact hidentityRegister ▸ h.subjects
    · exact hregister ▸ h.routes.replaced_enter h.locals hnewLocal howners
    · exact hregister ▸ h.routes.replaced_enter h.threads hnewThread howners
    · exact h.identityScopes
    · intro b hb
      rcases List.mem_append.mp hb with hb | hb
      · exact h.routeScopes b hb
      · rw [List.mem_singleton.mp hb]
        exact hscope
    · exact hkept.1
    · exact hkept.2

/-- A change of the tables that leaves the registers alone. -/
theorem Routed.of_registers (h : Routed scopeOf w) {store : GatewayStore}
    (hsurroundings : store.surroundings = w.store.surroundings)
    (hidentities : store.identities.rows.map bindingOf = w.store.identities.rows.map bindingOf)
    (hroutes : store.routes.rows.map bindingOf = w.store.routes.rows.map bindingOf) :
    Routed scopeOf { w with store } := by
  have hregister : identityRegister { w with store } = identityRegister w := by
    simp only [identityRegister, hidentities]
  have hrouteRegister : routeRegister { w with store } = routeRegister w := by
    simp only [routeRegister, hroutes]
  have hkept := h.kept (v := { w with store }) ⟨fun _ hb ↦ hb, fun _ hb ↦ hb⟩ rfl rfl
  constructor
  · exact hsurroundings ▸ h.surroundings
  · exact hsurroundings ▸ h.present
  · exact hregister ▸ h.identities
  · exact hrouteRegister ▸ h.routes
  · exact hregister ▸ h.subjects
  · exact hrouteRegister ▸ h.locals
  · exact hrouteRegister ▸ h.threads
  · exact h.identityScopes
  · exact h.routeScopes
  · exact hkept.1
  · exact hkept.2

theorem routed_elsewhere (h : Routed scopeOf w) {surroundings : GatewaySurroundings}
    (ha : GatewayAdmissible scopeOf w (.elsewhere surroundings)) :
    Routed scopeOf (gatewayStep w (.elsewhere surroundings)).2 := by
  obtain ⟨hscoped, hpresent⟩ := ha
  have hidentities : identityRegister (gatewayStep w (.elsewhere surroundings)).2 =
      (identityRegister w).retire identityOwners (lostOwners w.store.surroundings surroundings) := by
    simp [identityRegister, Register.retire, gatewayStep, map_bindingOf_cascade]
  have hroutes : routeRegister (gatewayStep w (.elsewhere surroundings)).2 =
      (routeRegister w).retire routeOwners (lostOwners w.store.surroundings surroundings) := by
    simp [routeRegister, Register.retire, gatewayStep, map_bindingOf_cascade]
  have hkept := h.kept (v := (gatewayStep w (.elsewhere surroundings)).2)
    ⟨fun _ hb ↦ hb, fun _ hb ↦ hb⟩ rfl rfl
  constructor
  · exact hscoped
  · intro o ho hgone
    rcases List.mem_append.mp hgone with hgone | hlost
    · exact hpresent o ho hgone
    · simp only [lostOwners, List.mem_filter, decide_eq_true_eq] at hlost
      exact hlost.2 ho
  · exact hidentities ▸ h.identities.retire
  · exact hroutes ▸ h.routes.retire
  · exact hidentities ▸ h.subjects.retire
  · exact hroutes ▸ h.locals.retire
  · exact hroutes ▸ h.threads.retire
  · exact h.identityScopes
  · exact h.routeScopes
  · exact hkept.1
  · exact hkept.2

theorem Routed.with_calls (h : Routed scopeOf w) {calls : List (AcceptCall × Reading)}
    {accepted : List InboundEnvelope} (hcalls : ∀ c ∈ calls, ReadingSeen w c.2)
    (haccepted : ∀ e ∈ accepted, EnvelopeBound w e) :
    Routed scopeOf { w with calls, accepted } := by
  have hg : Grown w { w with calls, accepted } := ⟨fun _ hb ↦ hb, fun _ hb ↦ hb⟩
  constructor
  · exact h.surroundings
  · exact h.present
  · exact h.identities
  · exact h.routes
  · exact h.subjects
  · exact h.locals
  · exact h.threads
  · exact h.identityScopes
  · exact h.routeScopes
  · exact fun c hc ↦ (hcalls c hc).mono hg
  · exact fun e he ↦ (haccepted e he).mono hg

/-- What a call sees when it reads is bound then, and stays so. -/
theorem routed_advance (h : Routed scopeOf w) (i : ℕ) :
    Routed scopeOf (gatewayStep w (.advance i)).2 := by
  unfold gatewayStep
  dsimp only
  split
  · exact h
  · rename_i call reading hcall
    have hreading := h.calls _ (List.mem_of_getElem? hcall)
    have hset : ∀ reading', ReadingSeen w reading' →
        Routed scopeOf { w with calls := w.calls.set i (call, reading') } := by
      intro reading' hseen
      refine h.with_calls ?_ h.accepted
      intro c hc
      rcases List.mem_or_eq_of_mem_set hc with hc | rfl
      · exact h.calls c hc
      · exact hseen
    have herase : ∀ c ∈ w.calls.eraseIdx i, ReadingSeen w c.2 :=
      fun c hc ↦ h.calls c (List.mem_of_mem_eraseIdx hc)
    cases reading with
    | channel => exact hset _ trivial
    | identity s₀ => exact hset _ h.seen
    | route s₀ s₁ => exact hset _ ⟨hreading, h.seen⟩
    | conversation s₀ s₁ s₂ =>
      unfold advanceCall
      dsimp only
      split
      · exact h.with_calls herase h.accepted
      · rename_i envelope hnormalize
        refine h.with_calls herase ?_
        intro e he
        rcases List.mem_append.mp he with he | he
        · exact h.accepted e he
        · rw [List.mem_singleton.mp he]
          exact envelopeBound_of_normalize (w := w) hreading.1 hreading.2 hnormalize

theorem routed_step (w : GatewayWorld) (a : GatewayAction) (h : Routed scopeOf w)
    (ha : GatewayAdmissible scopeOf w a) : Routed scopeOf (gatewayStep w a).2 := by
  cases a with
  | createIdentity mapping => exact routed_createIdentity h mapping
  | setIdentityStatus tenantId agentId mappingId status now =>
    exact h.of_registers rfl map_bindingOf_updateMappingStatus rfl
  | createConversation mapping => exact routed_createConversation h mapping
  | setConversationStatus tenantId agentId mappingId status now =>
    exact h.of_registers rfl rfl map_bindingOf_updateMappingStatus
  | accept call =>
    refine h.with_calls ?_ h.accepted
    intro c hc
    rcases List.mem_append.mp hc with hc | hc
    · exact h.calls c hc
    · rw [List.mem_singleton.mp hc]
      trivial
  | advance i => exact routed_advance h i
  | elsewhere surroundings => exact routed_elsewhere h ha

theorem routed_start {surroundings : GatewaySurroundings} (hs : Scoped scopeOf surroundings) :
    Routed scopeOf (.start surroundings) where
  surroundings := hs
  present _ _ := List.not_mem_nil
  identities := ⟨fun _ hb ↦ hb, fun _ hb ↦ .inl hb, fun _ _ _ _ ↦ List.not_mem_nil⟩
  routes := ⟨fun _ hb ↦ hb, fun _ hb ↦ .inl hb, fun _ _ _ _ ↦ List.not_mem_nil⟩
  subjects := .nil
  locals := .nil
  threads := .nil
  identityScopes _ hb := absurd hb List.not_mem_nil
  routeScopes _ hb := absurd hb List.not_mem_nil
  calls _ hc := absurd hc List.not_mem_nil
  accepted _ he := absurd he List.not_mem_nil

end step

/-- What is never crossed between two envelopes of one channel: a subject stands for one user, and
a local conversation for one thread of the platform; a thread goes to another conversation only
when one of the two was deleted. -/
structure NeverCrossed (gone : List Owner) (e e' : InboundEnvelope) : Prop where
  scope : e.tenantId = e'.tenantId ∧ e.agentId = e'.agentId
  subject : e.externalSubjectId = e'.externalSubjectId → e.userId = e'.userId
  inward : e.conversationId = e'.conversationId →
    e.externalConversationId = e'.externalConversationId ∧
      e.externalThreadId = e'.externalThreadId ∧ e.conversationKind = e'.conversationKind
  outward : e.externalConversationId = e'.externalConversationId →
    e.externalThreadId = e'.externalThreadId → e.conversationId = e'.conversationId ∨
      Owner.conversation e.conversationId ∈ gone ∨ Owner.conversation e'.conversationId ∈ gone

section envelopes

variable {scopeOf : UUID → ChannelScope} {w : GatewayWorld} {e e' : InboundEnvelope}

theorem getD_thread_inj {t t' : Option String} (ht : t ≠ some "") (ht' : t' ≠ some "")
    (h : t.getD "" = t'.getD "") : t = t' := by
  cases t with
  | none =>
    cases t' with
    | none => rfl
    | some v' => exact absurd (congrArg some h.symm) ht'
  | some v =>
    cases t' with
    | none => exact absurd (congrArg some h) ht
    | some v' => exact congrArg some h

theorem Routed.neverCrossed (h : Routed scopeOf w) (he : EnvelopeBound w e)
    (he' : EnvelopeBound w e') (hchannel : e.channelId = e'.channelId) :
    NeverCrossed w.gone e e' := by
  obtain ⟨⟨b, hb, htenant, hagent, hsubject, huser⟩, ⟨r, hr, hthread, hlocal, hkind⟩, hempty⟩ := he
  obtain ⟨⟨b', hb', htenant', hagent', hsubject', huser'⟩, ⟨r', hr', hthread', hlocal', hkind'⟩,
    hempty'⟩ := he'
  have hbChannel : b.channelId = b'.channelId :=
    (Prod.mk.inj hsubject).1.trans (hchannel.trans (Prod.mk.inj hsubject').1.symm)
  have hrChannel : r.channelId = r'.channelId :=
    (Prod.mk.inj hthread).1.trans (hchannel.trans (Prod.mk.inj hthread').1.symm)
  have hbScope : b.scope = b'.scope := by
    rw [h.identityScopes b hb, h.identityScopes b' hb', hbChannel]
  have hrAgent : r.agentId = r'.agentId := by
    have hrScope : r.scope = r'.scope := by
      rw [h.routeScopes r hr, h.routeScopes r' hr', hrChannel]
    exact congrArg (·.2.1) hrScope
  have hbAgent : b.agentId = b'.agentId := congrArg (·.2.1) hbScope
  have hbTenant : b.tenantId = b'.tenantId := congrArg (·.1) hbScope
  constructor
  · exact ⟨htenant ▸ htenant' ▸ hbTenant, hagent ▸ hagent' ▸ hbAgent⟩
  · intro hsame
    -- the owners of an identity are fixed by its channel
    have heq : b = b' := h.subjects.eq_of_owners_eq hb hb'
      (by rw [hsubject, hsubject', hchannel, hsame])
      (by rw [identityOwners, identityOwners, hbChannel, hbAgent])
    rw [← huser, ← huser', heq]
  · intro hsame
    have hconversation : r.mapping.conversationId = r'.mapping.conversationId := by
      rw [hlocal, hlocal', hsame]
    have heq : r = r' := h.locals.eq_of_owners_eq hr hr'
      (by rw [localOf, localOf, hrChannel, hconversation])
      (by rw [routeOwners, routeOwners, hrChannel, hrAgent, hconversation])
    rw [heq, hthread'] at hthread
    obtain ⟨hexternal, hthreads⟩ := Prod.mk.inj (Prod.mk.inj hthread).2
    refine ⟨hexternal.symm, getD_thread_inj hempty hempty' hthreads.symm, ?_⟩
    rw [← hkind, ← hkind', heq]
  · intro hexternal hthreads
    have hkey : threadOf r = threadOf r' := by
      rw [hthread, hthread', hchannel, hexternal, hthreads]
    rw [← hlocal, ← hlocal']
    rcases h.threads.eq_or_gone hr hr' hkey with heq | ⟨o, ho, hgone, hnot⟩ | ⟨o, ho, hgone, hnot⟩
    · exact .inl (by rw [heq])
    · simp only [routeOwners, hrChannel, hrAgent, List.mem_cons, List.not_mem_nil, or_false] at ho hnot
      obtain rfl : o = .conversation r.mapping.conversationId := by tauto
      exact .inr (.inl hgone)
    · simp only [routeOwners, hrChannel, hrAgent, List.mem_cons, List.not_mem_nil, or_false] at ho hnot
      obtain rfl : o = .conversation r'.mapping.conversationId := by tauto
      exact .inr (.inr hgone)

end envelopes

/-- Whatever the gateway accepts, while mappings are made and set aside and the rest of the system
goes on, no message is taken for another user or for another conversation. -/
theorem messages_never_crossed (scopeOf : UUID → ChannelScope) (surroundings : GatewaySurroundings)
    (as : List GatewayAction) (hs : Scoped scopeOf surroundings)
    (h : Machine.Along gatewayStep (GatewayAdmissible scopeOf) (.start surroundings) as) :
    let w := Machine.run gatewayStep (.start surroundings) as
    ∀ e ∈ w.accepted, ∀ e' ∈ w.accepted, e.channelId = e'.channelId → NeverCrossed w.gone e e' := by
  intro w e he e' he' hchannel
  have hrouted : Routed scopeOf w := Machine.run_invariant routed_step (routed_start hs) h
  exact hrouted.neverCrossed (hrouted.accepted e he) (hrouted.accepted e' he') hchannel

def botTables (conversationId : UUID) : GatewaySurroundings where
  channels := { instances := .put .empty ⟨2, 0, 1, .telegram, .enabled, 60⟩
                events := .empty
                rateWindows := .empty }
  agents := .put .empty { id := 1, tenantId := 0, status := .active }
  users := [(0, 3)]
  conversations := .put .empty
    { id := conversationId, tenantId := 0, agentId := 1, title := "", status := .active
      createdBy := 3, eventSequence := 0, createdAt := 0, updatedAt := 0 }
  members := .put .empty ⟨conversationId, 3⟩

def botScope (_ : UUID) : ChannelScope := (0, 1, .telegram)

def botCall (text : String) : AcceptCall where
  tenantId := 0
  agentId := 1
  channelId := 2
  event := textEvent text
  verification := ⟨true, 200, 1700000000000000⟩
  configuration := boundUser.configuration
  sha256 := id

def bindConversation (id conversationId : UUID) : GatewayAction :=
  .createConversation
    ⟨id, 0, 1, 2, .telegram, ⟨⟨.direct, conversationId⟩, "5", none⟩, .enabled, 3, 0, 0⟩

/-- A user and a conversation are bound, and a message is read in. The conversation is deleted, the
next one is bound to the same conversation of the platform, and another message is read in. -/
def botActions : List GatewayAction :=
  [.createIdentity ⟨5, 0, 1, 2, .telegram, ⟨"5", 3⟩, .enabled, 3, 0, 0⟩, bindConversation 6 4,
    .accept (botCall "hi"), .advance 0, .advance 0, .advance 0, .advance 0,
    .elsewhere (botTables 7), bindConversation 8 7,
    .accept (botCall "again"), .advance 0, .advance 0, .advance 0, .advance 0]

theorem scoped_botTables (conversationId : UUID) : Scoped botScope (botTables conversationId) := by
  intro c hc
  obtain rfl | ⟨hc, -⟩ := Table.mem_put.mp hc
  · rfl
  · exact absurd hc (Table.not_mem_empty c)

theorem admissible_botActions :
    Machine.Along gatewayStep (GatewayAdmissible botScope) (.start (botTables 4)) botActions :=
  ⟨trivial, trivial, trivial, trivial, trivial, trivial, trivial,
    ⟨scoped_botTables 7, by decide +kernel⟩, trivial, trivial, trivial, trivial, trivial, trivial,
    trivial⟩

theorem messages_never_crossed_bot :
    let w := Machine.run gatewayStep (.start (botTables 4)) botActions
    w.accepted.map InboundEnvelope.conversationId = [4, 7] ∧ w.gone = [.conversation 4] ∧
      ∀ e ∈ w.accepted, ∀ e' ∈ w.accepted, e.channelId = e'.channelId → NeverCrossed w.gone e e' :=
  ⟨by decide +kernel, by decide +kernel, messages_never_crossed botScope (botTables 4) botActions
    (scoped_botTables 4) admissible_botActions⟩

end CyberNetizen.Inbound
