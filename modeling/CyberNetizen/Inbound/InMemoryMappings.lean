import CyberNetizen.Inbound.Routing
import Mathlib.Data.List.Find

/-! # The mappings of the gateway in memory -/

namespace CyberNetizen.Infrastructure

open Domain KeyedTable

namespace MemoryInboundGatewayRepository

open SqlAlchemyInboundGatewayRepository (ValueError identityConflict subjectKey withStatus isUsable)

structure MappingDictionaries where
  identities : IdentityTable
  conversations : Table (StoredMapping.id : StoredMapping (ExternalRoute (Option String)) → UUID)

def MappingDictionaries.empty : MappingDictionaries := ⟨.empty, .empty⟩

section mappings

variable {α : Type}

def getMapping (t : Table (StoredMapping.id : StoredMapping α → UUID))
    (tenantId agentId mappingId : UUID) : Option (StoredMapping α) :=
  (t.find? mappingId).filter fun item ↦ item.tenantId = tenantId ∧ item.agentId = agentId

def updateMappingStatus (tenantId agentId mappingId : UUID) (status : ExternalMappingStatus)
    (updatedAt : Datetime) (t : Table (StoredMapping.id : StoredMapping α → UUID)) :
    Option (StoredMapping α) × Table (StoredMapping.id : StoredMapping α → UUID) :=
  match getMapping t tenantId agentId mappingId with
  | none => (none, t)
  | some item => (some (withStatus status updatedAt item), t.put (withStatus status updatedAt item))

end mappings

def createIdentityMapping (mapping : StoredMapping ExternalIdentityMapping)
    (s : MappingDictionaries) :
    Except ValueError (StoredMapping ExternalIdentityMapping × MappingDictionaries) :=
  if s.identities.rows.any fun item ↦ subjectKey item = subjectKey mapping then
    .error identityConflict
  else .ok (mapping, { s with identities := s.identities.put mapping })

def sameRoute (item mapping : StoredMapping (ExternalRoute (Option String))) : Bool :=
  item.tenantId = mapping.tenantId && item.platform = mapping.platform &&
    item.channelId = mapping.channelId &&
    item.mapping.externalConversationId = mapping.mapping.externalConversationId &&
    item.mapping.externalThreadId = mapping.mapping.externalThreadId

def createConversationMapping (mapping : StoredMapping (ExternalRoute (Option String)))
    (s : MappingDictionaries) :
    Except ValueError (StoredMapping (ExternalRoute (Option String)) × MappingDictionaries) :=
  if s.conversations.rows.any (sameRoute · mapping) then
    .error ⟨"该渠道已存在相同外部会话与线程的路由映射"⟩
  else if s.conversations.rows.any fun item ↦ item.channelId = mapping.channelId &&
      item.mapping.conversationId = mapping.mapping.conversationId then
    .error ⟨"该内部会话已绑定到当前渠道的其他外部路由"⟩
  else .ok (mapping, { s with conversations := s.conversations.put mapping })

def findIdentityMapping (tenantId agentId channelId : UUID) (enabledOnly : Bool)
    (s : MappingDictionaries) (externalSubjectId : String) :
    Option (StoredMapping ExternalIdentityMapping) :=
  s.identities.rows.find? fun item ↦ item.tenantId = tenantId ∧ item.agentId = agentId ∧
    item.channelId = channelId ∧ item.mapping.externalSubjectId = externalSubjectId ∧
    isUsable enabledOnly item = true

def findConversationMapping (tenantId agentId channelId : UUID) (enabledOnly : Bool)
    (s : MappingDictionaries) (externalConversationId : String) (externalThreadId : Option String) :
    Option (StoredMapping (ExternalRoute (Option String))) :=
  s.conversations.rows.find? fun item ↦ item.tenantId = tenantId ∧ item.agentId = agentId ∧
    item.channelId = channelId ∧ item.mapping.externalConversationId = externalConversationId ∧
    item.mapping.externalThreadId = externalThreadId ∧ isUsable enabledOnly item = true

end MemoryInboundGatewayRepository

end CyberNetizen.Infrastructure

namespace CyberNetizen.Inbound

open Domain Infrastructure KeyedTable SqlAlchemyInboundGatewayRepository
open MemoryInboundGatewayRepository (MappingDictionaries)

/-- The calls of the `InboundGatewayRepository` protocol on mappings. -/
inductive MappingCall
  | createIdentity (mapping : StoredMapping ExternalIdentityMapping)
  | createConversation (mapping : StoredMapping (ExternalRoute (Option String)))
  | setIdentityStatus (tenantId agentId mappingId : UUID) (status : ExternalMappingStatus)
      (now : Datetime)
  | setConversationStatus (tenantId agentId mappingId : UUID) (status : ExternalMappingStatus)
      (now : Datetime)
  | getIdentity (tenantId agentId mappingId : UUID)
  | getConversation (tenantId agentId mappingId : UUID)
  | findIdentity (tenantId agentId channelId : UUID) (externalSubjectId : String)
      (enabledOnly : Bool)
  | findConversation (tenantId agentId channelId : UUID) (externalConversationId : String)
      (externalThreadId : Option String) (enabledOnly : Bool)

inductive MappingReply
  | identity (mapping : Option (StoredMapping ExternalIdentityMapping))
  | conversation (mapping : Option (StoredMapping (ExternalRoute (Option String))))
  /-- A `ValueError`, whose text the two repositories word differently. -/
  | refused

def created {α σ : Type} (s : σ) (f : α → MappingReply) : Except ValueError (α × σ) → MappingReply × σ
  | .ok (mapping, s') => (f mapping, s')
  | .error _ => (.refused, s)

def sqlMappingStep (s : GatewayStore) : MappingCall → MappingReply × GatewayStore
  | .createIdentity mapping => created s (.identity ∘ some) (createIdentityMapping mapping s)
  | .createConversation mapping =>
    created s (.conversation ∘ some) (createConversationMapping mapping s)
  | .setIdentityStatus tenantId agentId mappingId status now =>
    let (row, identities) :=
      updateMappingStatus tenantId agentId mappingId status now s.identities
    (.identity row, { s with identities })
  | .setConversationStatus tenantId agentId mappingId status now =>
    let (row, routes) := updateMappingStatus tenantId agentId mappingId status now s.routes
    (.conversation (row.map conversation), { s with routes })
  | .getIdentity tenantId agentId mappingId =>
    (.identity (getMapping s.identities tenantId agentId mappingId), s)
  | .getConversation tenantId agentId mappingId =>
    (.conversation ((getMapping s.routes tenantId agentId mappingId).map conversation), s)
  | .findIdentity tenantId agentId channelId externalSubjectId enabledOnly =>
    (.identity (findIdentityMapping tenantId agentId channelId enabledOnly s externalSubjectId), s)
  | .findConversation tenantId agentId channelId externalConversationId externalThreadId
      enabledOnly =>
    (.conversation (findConversationMapping tenantId agentId channelId enabledOnly s
      externalConversationId externalThreadId), s)

def memoryMappingStep (s : MappingDictionaries) : MappingCall → MappingReply × MappingDictionaries
  | .createIdentity mapping =>
    created s (.identity ∘ some) (MemoryInboundGatewayRepository.createIdentityMapping mapping s)
  | .createConversation mapping =>
    created s (.conversation ∘ some)
      (MemoryInboundGatewayRepository.createConversationMapping mapping s)
  | .setIdentityStatus tenantId agentId mappingId status now =>
    let (item, identities) := MemoryInboundGatewayRepository.updateMappingStatus tenantId agentId
      mappingId status now s.identities
    (.identity item, { s with identities })
  | .setConversationStatus tenantId agentId mappingId status now =>
    let (item, conversations) := MemoryInboundGatewayRepository.updateMappingStatus tenantId agentId
      mappingId status now s.conversations
    (.conversation item, { s with conversations })
  | .getIdentity tenantId agentId mappingId =>
    (.identity (MemoryInboundGatewayRepository.getMapping s.identities tenantId agentId mappingId),
      s)
  | .getConversation tenantId agentId mappingId =>
    (.conversation
      (MemoryInboundGatewayRepository.getMapping s.conversations tenantId agentId mappingId), s)
  | .findIdentity tenantId agentId channelId externalSubjectId enabledOnly =>
    (.identity (MemoryInboundGatewayRepository.findIdentityMapping tenantId agentId channelId
      enabledOnly s externalSubjectId), s)
  | .findConversation tenantId agentId channelId externalConversationId externalThreadId
      enabledOnly =>
    (.conversation (MemoryInboundGatewayRepository.findConversationMapping tenantId agentId
      channelId enabledOnly s externalConversationId externalThreadId), s)

/-- What the gateway has checked before it makes a mapping: the channel, the users and the
conversation exist, the id is new, and no thread is called by an empty name. -/
def MappingCall.Checked (s : GatewayStore) : MappingCall → Prop
  | .createIdentity mapping =>
    validateChannel s.surroundings mapping = true ∧
      userExists s.surroundings mapping.tenantId mapping.mapping.userId = true ∧
      creatorExists s.surroundings mapping = true ∧ s.identities.find? mapping.id = none
  | .createConversation mapping =>
    validateChannel s.surroundings mapping = true ∧
      ((s.surroundings.conversations.find? mapping.mapping.conversationId).any fun item ↦
        item.tenantId = mapping.tenantId && item.agentId = mapping.agentId &&
          item.deletedAt.isNone) = true ∧
      creatorExists s.surroundings mapping = true ∧ s.routes.find? mapping.id = none ∧
      mapping.mapping.externalThreadId ≠ some ""
  | .findConversation _ _ _ _ externalThreadId _ => externalThreadId ≠ some ""
  | _ => True

/-- The dictionaries hold what the tables hold, in the same order. -/
structure Agrees (m : MappingDictionaries) (s : GatewayStore) : Prop where
  identities : m.identities = s.identities
  routes : m.conversations.rows.map conversationModel = s.routes.rows
  threads : ∀ item ∈ m.conversations, item.mapping.externalThreadId ≠ some ""

section agreement

variable {α : Type} {m : MappingDictionaries} {s : GatewayStore}

theorem thread_eq_iff {a b : Option String} (ha : a ≠ some "") (hb : b ≠ some "") :
    a.getD "" = b.getD "" ↔ a = b := by
  cases a <;> cases b <;> simp_all [eq_comm]

theorem conversation_conversationModel {item : StoredMapping (ExternalRoute (Option String))}
    (h : item.mapping.externalThreadId ≠ some "") : conversation (conversationModel item) = item := by
  obtain ⟨id, tenantId, agentId, channelId, platform, ⟨route, external, thread⟩, status, createdBy,
    createdAt, updatedAt⟩ := item
  unfold conversation conversationModel
  dsimp only at h ⊢
  cases thread with
  | none => rfl
  | some thread =>
    have hne : thread.isEmpty = false := by
      simpa [String.isEmpty_iff] using h
    simp [hne]

theorem getMapping_eq (t : Table (StoredMapping.id : StoredMapping α → UUID))
    (tenantId agentId mappingId : UUID) :
    MemoryInboundGatewayRepository.getMapping t tenantId agentId mappingId =
      getMapping t tenantId agentId mappingId := by
  apply Option.ext
  intro row
  unfold MemoryInboundGatewayRepository.getMapping getMapping
  rw [Option.filter_eq_some_iff, Table.find?_eq_some, decide_eq_true_eq]
  constructor
  · rintro ⟨⟨hrow, hid⟩, htenant, hagent⟩
    cases hrow' : t.rows.find? fun row ↦
        row.tenantId = tenantId ∧ row.agentId = agentId ∧ row.id = mappingId with
    | none =>
      have hnone := List.find?_eq_none.mp hrow' row hrow
      simp [htenant, hagent, hid] at hnone
    | some row' =>
      have hfound := List.find?_some hrow'
      simp only [decide_eq_true_eq] at hfound
      rw [Table.eq_of_key_eq (List.mem_of_find?_eq_some hrow') hrow (hfound.2.2.trans hid.symm)]
  · intro hrow
    have hfound := List.find?_some hrow
    simp only [decide_eq_true_eq] at hfound
    obtain ⟨htenant, hagent, hid⟩ := hfound
    exact ⟨⟨List.mem_of_find?_eq_some hrow, hid⟩, htenant, hagent⟩

theorem updateMappingStatus_eq (tenantId agentId mappingId : UUID) (status : ExternalMappingStatus)
    (now : Datetime) (t : Table (StoredMapping.id : StoredMapping α → UUID)) :
    MemoryInboundGatewayRepository.updateMappingStatus tenantId agentId mappingId status now t =
      updateMappingStatus tenantId agentId mappingId status now t := by
  unfold MemoryInboundGatewayRepository.updateMappingStatus updateMappingStatus
  rw [getMapping_eq]
  cases hrow : getMapping t tenantId agentId mappingId with
  | none => rfl
  | some row =>
    dsimp only
    rw [← getMapping_eq] at hrow
    obtain ⟨hfound, -⟩ := Option.filter_eq_some_iff.mp hrow
    rw [Table.put_eq_updateWhere _ hfound]

theorem Agrees.find?_routes (h : Agrees m s) (mappingId : UUID) :
    s.routes.find? mappingId = (m.conversations.find? mappingId).map conversationModel := by
  unfold Table.find?
  rw [← h.routes, List.find?_map]
  rfl

theorem Agrees.getMapping_routes (h : Agrees m s) (tenantId agentId mappingId : UUID) :
    getMapping s.routes tenantId agentId mappingId =
      (MemoryInboundGatewayRepository.getMapping m.conversations tenantId agentId mappingId).map
        conversationModel := by
  rw [← getMapping_eq]
  unfold MemoryInboundGatewayRepository.getMapping
  rw [h.find?_routes, Option.filter_map]
  rfl

theorem Agrees.conversation_map (h : Agrees m s)
    {item : Option (StoredMapping (ExternalRoute (Option String)))}
    (hmem : ∀ i ∈ item, i ∈ m.conversations) :
    (item.map conversationModel).map conversation = item := by
  cases item with
  | none => rfl
  | some item =>
    rw [Option.map_some, Option.map_some,
      conversation_conversationModel (h.threads item (hmem item rfl))]

def Alike (m : MappingDictionaries) (s : GatewayStore) (call : MappingCall) : Prop :=
  (memoryMappingStep m call).1 = (sqlMappingStep s call).1 ∧
    Agrees (memoryMappingStep m call).2 (sqlMappingStep s call).2

theorem agrees_createIdentity (h : Agrees m s) {mapping : StoredMapping ExternalIdentityMapping}
    (hc : (MappingCall.createIdentity mapping).Checked s) : Alike m s (.createIdentity mapping) := by
  obtain ⟨hchannel, huser, hcreator, hnew⟩ := hc
  unfold Alike memoryMappingStep sqlMappingStep
  dsimp only
  unfold MemoryInboundGatewayRepository.createIdentityMapping createIdentityMapping
  rw [h.identities, hchannel, huser, hcreator]
  simp only [Bool.not_true, Bool.false_eq_true, if_false, Bool.false_or]
  by_cases hsubject : (s.identities.rows.any fun row ↦ subjectKey row = subjectKey mapping) = true
  · rw [if_pos hsubject, if_pos hsubject]
    exact ⟨rfl, h⟩
  · rw [if_neg hsubject, if_neg hsubject]
    cases hinsert : s.identities.insert? mapping with
    | none =>
      obtain ⟨row, hrow, hid⟩ := Table.insert?_eq_none.mp hinsert
      exact absurd hid (Table.find?_eq_none.mp hnew row hrow)
    | some identities =>
      rw [Table.put_eq_of_insert? hinsert]
      exact ⟨rfl, rfl, h.routes, h.threads⟩

theorem sameRoute_iff {item mapping : StoredMapping (ExternalRoute (Option String))}
    (hitem : item.mapping.externalThreadId ≠ some "")
    (hmapping : mapping.mapping.externalThreadId ≠ some "") :
    MemoryInboundGatewayRepository.sameRoute item mapping = true ↔
      routeKey (conversationModel item) = routeKey (conversationModel mapping) := by
  simp [MemoryInboundGatewayRepository.sameRoute, routeKey, conversationModel,
    thread_eq_iff hitem hmapping, and_assoc]

/-- A route is taken, or its conversation is, in both repositories or in none. -/
theorem Agrees.routeTaken_iff (h : Agrees m s)
    {mapping : StoredMapping (ExternalRoute (Option String))}
    (hthread : mapping.mapping.externalThreadId ≠ some "") :
    (s.routes.rows.any fun r ↦ routeKey r = routeKey (conversationModel mapping) ||
        localKey r = localKey (conversationModel mapping)) = true ↔
      m.conversations.rows.any (MemoryInboundGatewayRepository.sameRoute · mapping) = true ∨
        (m.conversations.rows.any fun item ↦ item.channelId = mapping.channelId &&
          item.mapping.conversationId = mapping.mapping.conversationId) = true := by
  rw [← h.routes, List.any_map]
  simp only [List.any_eq_true, Function.comp_apply, Bool.or_eq_true, decide_eq_true_eq,
    Bool.and_eq_true]
  constructor
  · rintro ⟨item, hitem, hroute | hlocal⟩
    · exact .inl ⟨item, hitem, (sameRoute_iff (h.threads item hitem) hthread).mpr hroute⟩
    · exact .inr ⟨item, hitem, Prod.mk.inj hlocal⟩
  · rintro (⟨item, hitem, hroute⟩ | ⟨item, hitem, hchannel, hconversation⟩)
    · exact ⟨item, hitem, .inl ((sameRoute_iff (h.threads item hitem) hthread).mp hroute)⟩
    · exact ⟨item, hitem, .inr (Prod.ext hchannel hconversation)⟩

theorem agrees_createConversation (h : Agrees m s)
    {mapping : StoredMapping (ExternalRoute (Option String))}
    (hc : (MappingCall.createConversation mapping).Checked s) :
    Alike m s (.createConversation mapping) := by
  obtain ⟨hchannel, hconversation, hcreator, hnew, hthread⟩ := hc
  have htaken := h.routeTaken_iff hthread
  unfold Alike memoryMappingStep sqlMappingStep
  dsimp only
  unfold MemoryInboundGatewayRepository.createConversationMapping createConversationMapping
  dsimp only
  rw [hchannel, hconversation, hcreator]
  simp only [Bool.not_true, Bool.false_eq_true, if_false, Bool.false_or]
  by_cases hroute : m.conversations.rows.any
      (MemoryInboundGatewayRepository.sameRoute · mapping) = true
  · rw [if_pos hroute, if_pos (htaken.mpr (.inl hroute))]
    exact ⟨rfl, h⟩
  rw [if_neg hroute]
  by_cases hlocal : (m.conversations.rows.any fun item ↦ item.channelId = mapping.channelId &&
      item.mapping.conversationId = mapping.mapping.conversationId) = true
  · rw [if_pos hlocal, if_pos (htaken.mpr (.inr hlocal))]
    exact ⟨rfl, h⟩
  rw [if_neg hlocal, if_neg fun htake ↦ (htaken.mp htake).elim hroute hlocal]
  have hkey : mapping.id ∉ m.conversations.rows.map StoredMapping.id := by
    rw [h.find?_routes, Option.map_eq_none_iff, Table.find?_eq_none] at hnew
    intro hmem
    obtain ⟨item, hitem, hid⟩ := List.mem_map.mp hmem
    exact hnew item hitem hid
  cases hinsert : s.routes.insert? (conversationModel mapping) with
  | none =>
    obtain ⟨row, hrow, hid⟩ := Table.insert?_eq_none.mp hinsert
    exact absurd hid (Table.find?_eq_none.mp hnew row hrow)
  | some routes =>
    refine ⟨rfl, h.identities, ?_, ?_⟩
    · change (m.conversations.put mapping).rows.map conversationModel = routes.rows
      rw [Table.put_of_not_mem hkey, List.map_append, h.routes, (Table.insert?_eq_some hinsert).2]
      rfl
    · intro item hitem
      rcases Table.mem_put.mp hitem with rfl | ⟨hitem, -⟩
      · exact hthread
      · exact h.threads item hitem

theorem mem_of_getMapping {t : Table (StoredMapping.id : StoredMapping α → UUID)}
    {tenantId agentId mappingId : UUID} {item : StoredMapping α}
    (h : MemoryInboundGatewayRepository.getMapping t tenantId agentId mappingId = some item) :
    t.find? mappingId = some item :=
  (Option.filter_eq_some_iff.mp h).1

theorem agrees_setConversationStatus (h : Agrees m s) (tenantId agentId mappingId : UUID)
    (status : ExternalMappingStatus) (now : Datetime) :
    Alike m s (.setConversationStatus tenantId agentId mappingId status now) := by
  unfold Alike memoryMappingStep sqlMappingStep
  dsimp only
  unfold MemoryInboundGatewayRepository.updateMappingStatus updateMappingStatus
  rw [h.getMapping_routes]
  cases hitem : MemoryInboundGatewayRepository.getMapping m.conversations tenantId agentId mappingId with
  | none => exact ⟨rfl, h⟩
  | some item =>
    have hfound := mem_of_getMapping hitem
    have hmem : item ∈ m.conversations := Table.mem_of_find? hfound
    dsimp only [Option.map_some]
    refine ⟨?_, h.identities, ?_, ?_⟩
    · have hthread : (withStatus status now item).mapping.externalThreadId ≠ some "" :=
        h.threads item hmem
      rw [← conversation_conversationModel hthread]
      rfl
    · rw [Table.put_eq_updateWhere _ hfound]
      dsimp only [Table.updateWhere]
      rw [← h.routes, List.map_map, List.map_map]
      refine List.map_congr_left fun row _ ↦ ?_
      change conversationModel (if decide (row.id = mappingId) = true then
        withStatus status now row else row) = if decide (row.id = mappingId) = true then
          withStatus status now (conversationModel row) else conversationModel row
      split <;> rfl
    · intro row hrow
      rcases Table.mem_put.mp hrow with rfl | ⟨hrow, -⟩
      · exact h.threads item hmem
      · exact h.threads row hrow

theorem agrees_findConversation (h : Agrees m s) (tenantId agentId channelId : UUID)
    (externalConversationId : String) {externalThreadId : Option String} (enabledOnly : Bool)
    (hthread : externalThreadId ≠ some "") :
    Alike m s (.findConversation tenantId agentId channelId externalConversationId
      externalThreadId enabledOnly) := by
  refine ⟨congrArg MappingReply.conversation ?_, h⟩
  unfold MemoryInboundGatewayRepository.findConversationMapping findConversationMapping
  rw [← h.routes, List.find?_map, h.conversation_map fun i hi ↦ List.mem_of_find?_eq_some hi]
  apply List.find?_congr
  intro item hitem
  rw [Function.comp_apply, decide_eq_decide]
  change _ ↔ item.tenantId = tenantId ∧ item.agentId = agentId ∧ item.channelId = channelId ∧
    item.mapping.externalConversationId = externalConversationId ∧
    item.mapping.externalThreadId.getD "" = externalThreadId.getD "" ∧
    isUsable enabledOnly item = true
  rw [thread_eq_iff (h.threads item hitem) hthread]

theorem agrees_step (h : Agrees m s) (call : MappingCall) (hc : call.Checked s) :
    Alike m s call := by
  cases call with
  | createIdentity mapping => exact agrees_createIdentity h hc
  | createConversation mapping => exact agrees_createConversation h hc
  | setIdentityStatus tenantId agentId mappingId status now =>
    unfold Alike memoryMappingStep sqlMappingStep
    dsimp only
    rw [updateMappingStatus_eq, h.identities]
    exact ⟨rfl, rfl, h.routes, h.threads⟩
  | setConversationStatus tenantId agentId mappingId status now =>
    exact agrees_setConversationStatus h tenantId agentId mappingId status now
  | getIdentity tenantId agentId mappingId =>
    refine ⟨congrArg MappingReply.identity ?_, h⟩
    rw [getMapping_eq, h.identities]
  | getConversation tenantId agentId mappingId =>
    refine ⟨congrArg MappingReply.conversation ?_, h⟩
    rw [h.getMapping_routes, h.conversation_map]
    intro item hitem
    exact Table.mem_of_find? (mem_of_getMapping hitem)
  | findIdentity tenantId agentId channelId externalSubjectId enabledOnly =>
    refine ⟨congrArg MappingReply.identity ?_, h⟩
    unfold MemoryInboundGatewayRepository.findIdentityMapping findIdentityMapping
    rw [h.identities]
  | findConversation tenantId agentId channelId externalConversationId externalThreadId enabledOnly =>
    exact agrees_findConversation h tenantId agentId channelId externalConversationId enabledOnly hc

theorem agrees_outputs {calls : List MappingCall} (h : Agrees m s)
    (hc : Machine.Along sqlMappingStep (fun s call ↦ call.Checked s) s calls) :
    Machine.outputs memoryMappingStep m calls = Machine.outputs sqlMappingStep s calls := by
  induction calls generalizing m s with
  | nil => rfl
  | cons call calls ih =>
    obtain ⟨hanswer, hnext⟩ := agrees_step h call hc.1
    unfold Machine.outputs
    rw [hanswer, ih hnext hc.2]

end agreement

/-- The dictionaries answer every run of checked calls as the tables do. -/
theorem memory_mappings_refine (surroundings : GatewaySurroundings) (calls : List MappingCall)
    (h : Machine.Along sqlMappingStep (fun s call ↦ call.Checked s) ⟨surroundings, .empty, .empty⟩
      calls) :
    Machine.outputs memoryMappingStep .empty calls =
      Machine.outputs sqlMappingStep ⟨surroundings, .empty, .empty⟩ calls := by
  apply agrees_outputs _ h
  constructor
  · rfl
  · rfl
  · exact fun item hitem ↦ absurd hitem (Table.not_mem_empty item)

def botUserMapping : StoredMapping ExternalIdentityMapping where
  id := 20
  tenantId := 0
  agentId := 1
  channelId := 2
  platform := .telegram
  mapping := { externalSubjectId := "5", userId := 3 }
  status := .enabled
  createdBy := 3
  createdAt := 0
  updatedAt := 0

def botChatMapping (id : UUID) : StoredMapping (ExternalRoute (Option String)) where
  id
  tenantId := 0
  agentId := 1
  channelId := 2
  platform := .telegram
  mapping :=
    { kind := .direct, conversationId := 4, externalConversationId := "5", externalThreadId := none }
  status := .enabled
  createdBy := 3
  createdAt := 0
  updatedAt := 0

def botCalls : List MappingCall :=
  [.createIdentity botUserMapping, .createConversation (botChatMapping 21),
    .createConversation (botChatMapping 22), .setConversationStatus 0 1 21 .disabled 1,
    .findConversation 0 1 2 "5" none true]

theorem memory_mappings_refine_bot :
    Machine.outputs memoryMappingStep .empty botCalls =
      Machine.outputs sqlMappingStep ⟨botTables 4, .empty, .empty⟩ botCalls := by
  apply memory_mappings_refine (botTables 4) botCalls
  refine ⟨⟨?_, ?_, ?_, ?_⟩, ⟨?_, ?_, ?_, ?_, ?_⟩, ⟨?_, ?_, ?_, ?_, ?_⟩, trivial,
    (Option.some_ne_none "").symm, trivial⟩ <;> decide +kernel

end CyberNetizen.Inbound
