import Mathlib.Data.List.DropRight
import CyberNetizen.Adapters.TelegramInbound
import CyberNetizen.Lib.Checks

namespace CyberNetizen.Inbound

open Domain Adapters Application Checks
open Application.InboundGatewayService Application.InboundMessageTaskHandler

section texts

variable {value v : String} {c : Char} {maximum : ℕ}

theorem strip_strip (value : String) : strip (strip value) = strip value := by
  have htrim : ∀ l : List Char,
      ((l.dropWhile isSpace).rdropWhile isSpace).dropWhile isSpace =
        (l.dropWhile isSpace).rdropWhile isSpace := by
    intro l
    rw [List.dropWhile_eq_self_iff]
    intro hlen hspace
    have hinitial := List.rdropWhile_prefix isSpace (l := l.dropWhile isSpace)
    have hlen' : 0 < (l.dropWhile isSpace).length := lt_of_lt_of_le hlen hinitial.length_le
    have hself := List.dropWhile_eq_self_iff.mp (List.dropWhile_idempotent (p := isSpace) l) hlen'
    rw [hinitial.getElem hlen] at hspace
    exact hself hspace
  have hstrip : ∀ l : List Char, strip (String.ofList l) =
      String.ofList ((l.dropWhile isSpace).rdropWhile isSpace) := by
    intro l
    unfold strip List.rdropWhile
    rw [String.toList_ofList]
  have hvalue : strip value =
      String.ofList ((value.toList.dropWhile isSpace).rdropWhile isSpace) := rfl
  rw [hvalue, hstrip, htrim, List.rdropWhile_idempotent]

def isClean (maximum : ℕ) (v : String) : Bool :=
  strip v = v && !v.isEmpty && v.length ≤ maximum && !hasControl v

theorem isClean_iff : isClean maximum v = true ↔
    strip v = v ∧ v.isEmpty = false ∧ v.length ≤ maximum ∧ hasControl v = false := by
  simp [isClean, and_assoc]

theorem text_isClean {label : String} (h : InboundGatewayService.text value label maximum = .ok v) :
    isClean maximum v = true := by
  unfold InboundGatewayService.text at h
  dsimp only at h
  split at h
  · cases h
  · rename_i hempty
    split at h
    · cases h
    · rename_i hlength
      split at h
      · cases h
      · rename_i hcontrol
        cases h
        apply isClean_iff.mpr
        refine ⟨strip_strip value, ?_, ?_, ?_⟩
        · exact Bool.eq_false_of_not_eq_true hempty
        · omega
        · exact Bool.eq_false_of_not_eq_true hcontrol

theorem optionalExternalId_isClean {given : Option String} {label : String} {result : Option String}
    (h : optionalExternalId given label = .ok result) : result.all (isClean 255) = true := by
  cases given with
  | none =>
    cases h
    rfl
  | some value =>
    unfold optionalExternalId at h
    dsimp only at h
    split at h
    · cases h
      rfl
    · cases ht : externalId value label with
      | error e =>
        rw [ht] at h
        cases h
      | ok v =>
        rw [ht] at h
        cases h
        exact text_isClean ht

theorem hexDigit (hc : (('0' ≤ c && c ≤ '9') || ('a' ≤ c && c ≤ 'f')) = true) :
    isSpace c = false ∧ (c.toNat < 32 || c.toNat = 127) = false ∧
      (if c.toNat = 0x212A then 'k' else c.toLower) = c := by
  have hall : ∀ n < 103, 48 ≤ n ∧ n ≤ 57 ∨ 97 ≤ n ∧ n ≤ 102 →
      isSpace (Char.ofNat n) = false ∧
        ((Char.ofNat n).toNat < 32 || (Char.ofNat n).toNat = 127) = false ∧
        (if (Char.ofNat n).toNat = 0x212A then 'k' else (Char.ofNat n).toLower) = Char.ofNat n := by
    decide +kernel
  simp only [Bool.or_eq_true, Bool.and_eq_true, decide_eq_true_eq, Char.le_def,
    UInt32.le_iff_toNat_le] at hc
  have hrange : 48 ≤ c.toNat ∧ c.toNat ≤ 57 ∨ 97 ≤ c.toNat ∧ c.toNat ≤ 102 := hc
  have hdigit := hall c.toNat (by omega) hrange
  rw [Char.ofNat_toNat] at hdigit
  exact hdigit

/-- A digest in the stored form is not changed by the decoder. -/
theorem isSha256_spec (h : isSha256 v = true) : isClean 64 v = true ∧ lower v = v := by
  unfold isSha256 at h
  rw [Bool.and_eq_true, decide_eq_true_eq, List.all_eq_true] at h
  obtain ⟨hlength, hchars⟩ := h
  have hdigit := fun c hc ↦ hexDigit (hchars c hc)
  constructor
  · apply isClean_iff.mpr
    refine ⟨?_, ?_, hlength.le, ?_⟩
    · have hdrop : ∀ l : List Char, l ⊆ v.toList → l.dropWhile isSpace = l := by
        intro l hl
        cases l with
        | nil => rfl
        | cons c l =>
          rw [List.dropWhile_cons_of_neg]
          rw [(hdigit c (hl List.mem_cons_self)).1]
          exact Bool.false_ne_true
      unfold strip
      rw [hdrop _ (List.Subset.refl _), hdrop _ fun c hc ↦ List.mem_reverse.mp hc,
        List.reverse_reverse, String.ofList_toList]
    · apply Bool.eq_false_of_not_eq_true
      intro hempty
      rw [String.isEmpty_iff] at hempty
      rw [hempty] at hlength
      cases hlength
    · apply List.any_eq_false.mpr
      intro c hc
      rw [(hdigit c hc).2.1]
      exact Bool.false_ne_true
  · apply String.toList_injective
    unfold lower
    rw [String.toList_map]
    exact (List.map_congr_left fun c hc ↦ (hdigit c hc).2.2).trans (List.map_id _)

end texts

section fields

variable {values : JsonObject} {key : String} {v : String} {maximum : ℕ}

theorem requiredText_str (h : values.lookup key = some (.str v)) :
    requiredText values key maximum = .ok v ↔ isClean maximum v = true := by
  rw [isClean_iff]
  unfold requiredText
  rw [h]
  dsimp only
  constructor
  · intro hok
    split at hok
    · cases hok
    · rename_i hgood
      have hv : strip v = v := Except.ok.inj hok
      rw [hv] at hgood
      simp only [Bool.or_eq_true, decide_eq_true_eq, not_or, Bool.not_eq_true] at hgood
      exact ⟨hv, hgood.1.1, Nat.not_lt.mp hgood.1.2, hgood.2⟩
  · rintro ⟨hv, hempty, hlength, hcontrol⟩
    rw [hv, hempty, hcontrol, if_neg]
    simp
    exact hlength

theorem optionalText_json {given : Option String}
    (h : values.lookup key = some (optionalJson .str given)) :
    optionalText values key maximum = .ok given ↔ given.all (isClean maximum) = true := by
  cases given with
  | none =>
    unfold optionalText
    rw [h]
    exact iff_of_true rfl rfl
  | some v =>
    have htext : optionalText values key maximum =
        (requiredText values key maximum).map some := by
      unfold optionalText
      rw [h]
      rfl
    rw [htext, Option.all_some, ← requiredText_str h]
    constructor
    · intro hok
      cases hr : requiredText values key maximum with
      | error e =>
        rw [hr] at hok
        cases hok
      | ok w =>
        rw [hr] at hok
        cases hok
        rfl
    · intro hok
      rw [hok]
      rfl

theorem uuid_str {id : UUID} (hid : id < 2 ^ 128)
    (h : values.lookup key = some (.str (uuidString id))) : uuid values key = .ok id := by
  unfold uuid uuidString at *
  rw [h]
  dsimp only
  rw [String.toList_ofList, WireText.uuidOfText?_uuidText hid]

theorem optionalUuid_json {given : Option UUID} (hid : ∀ id ∈ given, id < 2 ^ 128)
    (h : values.lookup key = some (optionalJson (fun id ↦ .str (uuidString id)) given)) :
    optionalUuid values key = .ok given := by
  cases given with
  | none =>
    unfold optionalUuid
    rw [h]
    rfl
  | some id =>
    unfold optionalUuid
    rw [h]
    dsimp only [optionalJson]
    rw [uuid_str (hid id rfl) h]
    rfl

theorem optionalInteger_json {given : Option ℤ}
    (h : values.lookup key = some (optionalJson .int given)) :
    optionalInteger values key = .ok given := by
  unfold optionalInteger
  rw [h]
  cases given <;> rfl

theorem datetime_str {t : Datetime} (ht : t < WireText.endOfDays * 86400000000)
    (h : values.lookup key = some (.str (isoformat t))) : datetime values key = .ok t := by
  unfold datetime isoformat at *
  rw [h]
  dsimp only
  rw [String.toList_ofList, WireText.ofIsoText?_isoText ht]

theorem enum_str {α : Type} {members : List α} {value : α → String} {member : α}
    (hfind : members.find? (fun x ↦ value x = value member) = some member)
    (h : values.lookup key = some (.str (value member))) :
    enum values key members value = .ok member := by
  unfold enum
  rw [h]
  dsimp only
  rw [hfind]

theorem optionalContent_some (h : values.lookup key = some (.str v)) {w : Option String} :
    optionalContent values key maximum = .ok w ↔ (strip v).isEmpty = false ∧
      (strip v).length ≤ maximum ∧ hasContentControl (strip v) = false ∧ w = some (strip v) := by
  unfold optionalContent
  rw [h]
  dsimp only
  constructor
  · intro hok
    split at hok
    · cases hok
    · rename_i hgood
      simp only [Bool.or_eq_true, decide_eq_true_eq, not_or, Bool.not_eq_true] at hgood
      exact ⟨hgood.1.1, Nat.not_lt.mp hgood.1.2, hgood.2, (Except.ok.inj hok).symm⟩
  · rintro ⟨hempty, hlength, hcontrol, rfl⟩
    rw [hempty, hcontrol, if_neg]
    simp
    exact hlength

end fields

section blocks

variable {block₀ block : MultimodalContentBlock}

def isReadable (block : MultimodalContentBlock) : Bool :=
  (if isTextKind block.kind then
    block.attachmentId.isNone && (strip (block.text.getD "")).length ≤ 200000 &&
      !hasContentControl (strip (block.text.getD ""))
  else block.text.isNone) &&
  block.sizeBytes.all (0 < ·) && block.sha256.all isSha256 && block.contentType.all (isClean 255) &&
  block.fileName.all (isClean 255) && block.altText.all (isClean 2000)

structure Accepted (block : MultimodalContentBlock) : Prop where
  text : isTextKind block.kind = true → ∃ t, block.text = some t ∧ strip t = t ∧ t.isEmpty = false
  attachment : isTextKind block.kind = false → block.attachmentId.isSome

theorem normalizedBlock_spec (h : normalizedBlock block₀ = .ok block) :
    Accepted block ∧ block.attachmentId = block₀.attachmentId ∧
      isReadable block = isReadable block₀ := by
  unfold normalizedBlock at h
  dsimp only at h
  split at h
  · rename_i hkind
    split at h
    · cases h
    · rename_i hempty
      cases h
      refine ⟨⟨fun _ ↦ ⟨_, rfl, strip_strip _, Bool.eq_false_of_not_eq_true hempty⟩, ?_⟩, rfl, ?_⟩
      · intro hfalse
        rw [hkind] at hfalse
        cases hfalse
      · simp only [isReadable, hkind, if_true, Option.getD_some, strip_strip]
  · rename_i hkind
    split at h
    · cases h
    · rename_i hattachment
      cases h
      refine ⟨⟨fun htrue ↦ absurd htrue hkind, fun _ ↦ ?_⟩, rfl, rfl⟩
      rw [Option.isSome_iff_ne_none]
      simpa using hattachment

theorem kind_enum (kind : ContentBlockKind) :
    contentBlockKinds.find? (fun x ↦ x.value = kind.value) = some kind := by
  cases kind <;> decide

theorem refuse_eq_ok {bad : Bool} {u : Unit} (message : String) :
    refuse bad message = .ok u ↔ bad = false := by
  unfold refuse
  rw [require_eq_ok, Bool.not_eq_true']

theorem refuseContent_eq_ok {kind : ContentBlockKind} {text : Option String}
    {attachmentId : Option UUID} {u : Unit} :
    refuseContent kind text attachmentId = .ok u ↔
      if isTextKind kind then text.isSome ∧ attachmentId = none
      else attachmentId.isSome ∧ text = none := by
  unfold refuseContent
  split <;> rw [refuse_eq_ok] <;> cases text <;> cases attachmentId <;> simp

/-- The digest that comes back is the one that was stored. -/
theorem digest_spec {values : JsonObject} {given : Option String}
    (h : values.lookup "sha256" = some (optionalJson .str given)) :
    (∃ digest, optionalText values "sha256" 64 = .ok digest ∧
      (digest.any fun digest ↦ !isSha256 (lower digest)) = false ∧ digest.map lower = given) ↔
    given.all isSha256 = true := by
  constructor
  · rintro ⟨digest, hdigest, hsha, hgiven⟩
    cases given with
    | none => rfl
    | some d =>
      obtain ⟨w, rfl, hw⟩ := Option.map_eq_some_iff.mp hgiven
      rw [Option.any_some, Bool.not_eq_false', hw] at hsha
      exact hsha
  · intro hsha
    refine ⟨given, (optionalText_json h).mpr ?_, ?_, ?_⟩
    · cases given with
      | none => rfl
      | some d => exact (isSha256_spec hsha).1
    · cases given with
      | none => rfl
      | some d =>
        rw [Option.all_some] at hsha
        rw [Option.any_some, (isSha256_spec hsha).2, hsha]
        rfl
    · cases given with
      | none => rfl
      | some d => rw [Option.map_some, (isSha256_spec hsha).2]

/-- The text that comes back is the one that was stored. -/
theorem content_spec {values : JsonObject} (haccepted : Accepted block)
    (h : values.lookup "text" = some (optionalJson .str block.text)) :
    (optionalContent values "text" 200000 = .ok block.text ∧
      refuseContent block.kind block.text block.attachmentId = .ok ()) ↔
    (if isTextKind block.kind then
      block.attachmentId.isNone && (strip (block.text.getD "")).length ≤ 200000 &&
        !hasContentControl (strip (block.text.getD ""))
    else block.text.isNone) = true := by
  rw [refuseContent_eq_ok]
  by_cases hkind : isTextKind block.kind = true
  · obtain ⟨t, ht, hstrip, hempty⟩ := haccepted.text hkind
    rw [if_pos hkind, if_pos hkind]
    rw [ht] at h ⊢
    rw [optionalContent_some h, Option.getD_some, hstrip]
    simp [hempty, and_comm, and_assoc]
  · have hattachment := haccepted.attachment (Bool.eq_false_of_not_eq_true hkind)
    rw [if_neg hkind, if_neg hkind]
    cases ht : block.text with
    | none =>
      have hnone : optionalContent values "text" 200000 = .ok none := by
        unfold optionalContent
        rw [h, ht]
        rfl
      simp [hnone, hattachment]
    | some t => simp

/-- The stored form of an accepted block is read back exactly if the block is readable. -/
theorem block_payload (h : Accepted block) (hid : ∀ id ∈ block.attachmentId, id < 2 ^ 128) :
    InboundMessageTaskHandler.block (.dict (blockPayload block)) = .ok block ↔
      isReadable block = true := by
  have hkind : enum (blockPayload block) "kind" contentBlockKinds ContentBlockKind.value =
      .ok block.kind := enum_str (kind_enum block.kind) rfl
  have hattachment : optionalUuid (blockPayload block) "attachment_id" = .ok block.attachmentId :=
    optionalUuid_json hid rfl
  have hsize : optionalInteger (blockPayload block) "size_bytes" = .ok block.sizeBytes :=
    optionalInteger_json rfl
  have hdigest := @digest_spec (blockPayload block) block.sha256 rfl
  have hcontent := @content_spec block (blockPayload block) h rfl
  have hcontentType : optionalText (blockPayload block) "content_type" 255 = .ok block.contentType ↔
      block.contentType.all (isClean 255) = true := optionalText_json rfl
  have hfileName : optionalText (blockPayload block) "file_name" 255 = .ok block.fileName ↔
      block.fileName.all (isClean 255) = true := optionalText_json rfl
  have haltText : optionalText (blockPayload block) "alt_text" 2000 = .ok block.altText ↔
      block.altText.all (isClean 2000) = true := optionalText_json rfl
  have hpositive : (block.sizeBytes.any (· ≤ 0)) = false ↔ block.sizeBytes.all (0 < ·) = true := by
    cases block.sizeBytes <;> simp
  unfold isReadable InboundMessageTaskHandler.block
  simp only [Bool.and_eq_true]
  rw [← hcontent, ← hpositive, ← hdigest, ← hcontentType, ← hfileName, ← haltText]
  rw [bind_of_ok hkind]
  constructor
  · intro hok
    obtain ⟨text, htext, hok⟩ := bind_eq_ok.mp hok
    rw [bind_of_ok hattachment] at hok
    obtain ⟨⟨⟩, hrefuse, hok⟩ := bind_eq_ok.mp hok
    rw [bind_of_ok hsize] at hok
    obtain ⟨⟨⟩, hbad, hok⟩ := bind_eq_ok.mp hok
    obtain ⟨digest, hsha, hok⟩ := bind_eq_ok.mp hok
    obtain ⟨⟨⟩, hbadDigest, hok⟩ := bind_eq_ok.mp hok
    obtain ⟨contentType, hct, hok⟩ := bind_eq_ok.mp hok
    obtain ⟨fileName, hfn, hok⟩ := bind_eq_ok.mp hok
    obtain ⟨altText, hat, hok⟩ := bind_eq_ok.mp hok
    have heq := Except.ok.inj hok
    have htext' : text = block.text := congrArg (·.text) heq
    have hct' : contentType = block.contentType := congrArg (·.contentType) heq
    have hfn' : fileName = block.fileName := congrArg (·.fileName) heq
    have hat' : altText = block.altText := congrArg (·.altText) heq
    have hsha' : digest.map lower = block.sha256 := congrArg (·.sha256) heq
    subst htext' hct' hfn' hat'
    exact ⟨⟨⟨⟨⟨⟨htext, hrefuse⟩, (refuse_eq_ok _).mp hbad⟩,
      ⟨digest, hsha, (refuse_eq_ok _).mp hbadDigest, hsha'⟩⟩, hct⟩, hfn⟩, hat⟩
  · rintro ⟨⟨⟨⟨⟨⟨htext, hrefuse⟩, hbad⟩, ⟨digest, hsha, hbadDigest, hsha'⟩⟩, hct⟩, hfn⟩, hat⟩
    have hpass := fun message ↦ (refuse_eq_ok (u := ()) message).mpr hbad
    have hpassDigest := fun message ↦ (refuse_eq_ok (u := ()) message).mpr hbadDigest
    rw [bind_of_ok htext, bind_of_ok hattachment, bind_of_ok hrefuse, bind_of_ok hsize,
      bind_of_ok (hpass _), bind_of_ok hsha, bind_of_ok (hpassDigest _), bind_of_ok hct,
      bind_of_ok hfn, bind_of_ok hat, hsha']
    rfl

end blocks

section envelopes

variable {ports : Ports} {tenantId agentId channelId : UUID} {event : ChannelInboundEvent}
  {verification : InboundVerification} {envelope : InboundEnvelope}

/-- The ids of an envelope have 128 bits, and its times lie before the year 10000. -/
structure IsTyped (envelope : InboundEnvelope) : Prop where
  agentId : envelope.agentId < 2 ^ 128
  channelId : envelope.channelId < 2 ^ 128
  userId : envelope.userId < 2 ^ 128
  conversationId : envelope.conversationId < 2 ^ 128
  attachmentId : ∀ block ∈ envelope.blocks, ∀ id ∈ block.attachmentId, id < 2 ^ 128
  occurredAt : envelope.occurredAt < WireText.endOfDays * 86400000000
  receivedAt : envelope.receivedAt < WireText.endOfDays * 86400000000

/-- What the gateway has checked of an envelope. -/
structure Normalized (event : ChannelInboundEvent) (envelope : InboundEnvelope) : Prop where
  schemaVersion : envelope.schemaVersion = inboundEnvelopeSchemaVersion
  externalEventId : isClean 255 envelope.externalEventId = true
  externalSubjectId : isClean 255 envelope.externalSubjectId = true
  externalConversationId : isClean 255 envelope.externalConversationId = true
  externalThreadId : envelope.externalThreadId.all (isClean 255) = true
  externalMessageId : isClean 255 envelope.externalMessageId = true
  nonempty : event.blocks ≠ []
  blocks : List.Forall₂ (fun block₀ block ↦ normalizedBlock block₀ = .ok block) event.blocks
    envelope.blocks

theorem normalize_spec
    (h : InboundGatewayService.normalize ports tenantId agentId channelId event verification = .ok envelope) :
    Normalized event envelope ∧ envelope.tenantId = tenantId := by
  unfold InboundGatewayService.normalize at h
  obtain ⟨channel, -, h⟩ := bind_eq_ok.mp h
  obtain ⟨-, -, h⟩ := bind_eq_ok.mp h
  obtain ⟨-, -, h⟩ := bind_eq_ok.mp h
  obtain ⟨maximumBytes, -, h⟩ := bind_eq_ok.mp h
  obtain ⟨-, -, h⟩ := bind_eq_ok.mp h
  obtain ⟨maximumAge, -, h⟩ := bind_eq_ok.mp h
  obtain ⟨-, -, h⟩ := bind_eq_ok.mp h
  obtain ⟨subjectId, hsubject, h⟩ := bind_eq_ok.mp h
  obtain ⟨externalConversationId, hconversation, h⟩ := bind_eq_ok.mp h
  obtain ⟨externalThreadId, hthread, h⟩ := bind_eq_ok.mp h
  obtain ⟨externalEventId, hevent, h⟩ := bind_eq_ok.mp h
  obtain ⟨externalMessageId, hmessage, h⟩ := bind_eq_ok.mp h
  obtain ⟨identity, -, h⟩ := bind_eq_ok.mp h
  obtain ⟨conversation, -, h⟩ := bind_eq_ok.mp h
  obtain ⟨-, -, h⟩ := bind_eq_ok.mp h
  obtain ⟨localConversation, -, h⟩ := bind_eq_ok.mp h
  obtain ⟨-, -, h⟩ := bind_eq_ok.mp h
  obtain ⟨_, hnonempty, h⟩ := bind_eq_ok.mp h
  obtain ⟨blocks, hblocks, h⟩ := bind_eq_ok.mp h
  cases h
  refine ⟨⟨rfl, text_isClean hevent, text_isClean hsubject, text_isClean hconversation,
    optionalExternalId_isClean hthread, text_isClean hmessage, ?_, of_mapM_eq_ok hblocks⟩, rfl⟩
  intro hnil
  rw [require_eq_ok, hnil] at hnonempty
  cases hnonempty

theorem platform_enum (platform : ChannelPlatform) :
    platforms.find? (fun x ↦ x.value = platform.value) = some platform := by
  cases platform <;> decide

theorem conversationKind_enum (kind : ExternalConversationKind) :
    conversationKinds.find? (fun x ↦ x.value = kind.value) = some kind := by
  cases kind <;> decide

/-- The decoder gives a stored envelope back but for its blocks, which it reads one by one. -/
theorem envelope_payload (h : Normalized event envelope) (htyped : IsTyped envelope)
    {job : BackgroundJob} (htenant : job.tenantId = envelope.tenantId)
    (hpayload : job.payload = envelopePayload envelope) :
    InboundMessageTaskHandler.envelope job = .ok envelope ↔
      ∀ block ∈ envelope.blocks,
        InboundMessageTaskHandler.block (.dict (blockPayload block)) = .ok block := by
  obtain ⟨first, rest, hblocks⟩ : ∃ first rest, envelope.blocks = first :: rest := by
    cases hb : envelope.blocks with
    | nil =>
      have hforall := h.blocks
      rw [hb] at hforall
      exact absurd (List.forall₂_nil_right_iff.mp hforall) h.nonempty
    | cons first rest => exact ⟨first, rest, rfl⟩
  have hversion : requiredText (envelopePayload envelope) "schema_version" 20 =
      .ok envelope.schemaVersion := by
    apply (requiredText_str rfl).mpr
    rw [h.schemaVersion]
    decide +kernel
  have hcheck : refuse (envelope.schemaVersion ≠ inboundEnvelopeSchemaVersion)
      "Inbox Envelope schema version 不受支持" = .ok () := by
    apply (refuse_eq_ok _).mpr
    rw [h.schemaVersion]
    decide
  have hlist : (envelopePayload envelope).lookup "blocks" =
      some (.list (.dict (blockPayload first) ::
        rest.map fun block ↦ .dict (blockPayload block))) := by
    rw [← List.map_cons (f := fun block ↦ JsonValue.dict (blockPayload block)), ← hblocks]
    rfl
  have hread : ((.dict (blockPayload first) ::
      rest.map fun block ↦ JsonValue.dict (blockPayload block)).mapM
        InboundMessageTaskHandler.block = .ok envelope.blocks) ↔
      ∀ block ∈ envelope.blocks,
        InboundMessageTaskHandler.block (.dict (blockPayload block)) = .ok block := by
    rw [hblocks]
    exact mapM_map_eq_ok (g := fun block ↦ JsonValue.dict (blockPayload block)) (l := first :: rest)
  rw [← hread]
  unfold InboundMessageTaskHandler.envelope
  rw [hpayload, bind_of_ok hversion, bind_of_ok hcheck, hlist, htenant]
  dsimp only
  rw [bind_of_ok (datetime_str htyped.occurredAt rfl), bind_of_ok (datetime_str htyped.receivedAt rfl),
    bind_of_ok (uuid_str htyped.agentId rfl), bind_of_ok (uuid_str htyped.channelId rfl),
    bind_of_ok (enum_str (platform_enum envelope.platform) rfl),
    bind_of_ok ((requiredText_str rfl).mpr h.externalEventId),
    bind_of_ok ((requiredText_str rfl).mpr h.externalSubjectId),
    bind_of_ok (uuid_str htyped.userId rfl),
    bind_of_ok (enum_str (conversationKind_enum envelope.conversationKind) rfl),
    bind_of_ok ((requiredText_str rfl).mpr h.externalConversationId),
    bind_of_ok ((optionalText_json rfl).mpr h.externalThreadId),
    bind_of_ok (uuid_str htyped.conversationId rfl),
    bind_of_ok ((requiredText_str rfl).mpr h.externalMessageId)]
  constructor
  · intro hok
    obtain ⟨blocks, hblocks, hok⟩ := bind_eq_ok.mp hok
    rw [hblocks]
    exact congrArg (fun e ↦ Except.ok (InboundEnvelope.blocks e)) (Except.ok.inj hok)
  · intro hok
    rw [bind_of_ok hok]
    rfl

theorem blocks_isReadable {before after : List MultimodalContentBlock}
    (h : List.Forall₂ (fun block₀ block ↦ normalizedBlock block₀ = .ok block) before after)
    (hid : ∀ block ∈ after, ∀ id ∈ block.attachmentId, id < 2 ^ 128) :
    (∀ block ∈ after, InboundMessageTaskHandler.block (.dict (blockPayload block)) = .ok block) ↔
      ∀ block ∈ before, isReadable block = true := by
  induction h with
  | nil => simp
  | cons hblock _ ih =>
    obtain ⟨haccepted, -, hreadable⟩ := normalizedBlock_spec hblock
    rw [List.forall_mem_cons, List.forall_mem_cons, block_payload haccepted
      (hid _ List.mem_cons_self), hreadable, ih fun block hb ↦ hid block (List.mem_cons_of_mem _ hb)]

/-- The job of an accepted event keeps the payload it was given, under the key it was given. -/
theorem enqueue_job {command : BackgroundTaskService.EnqueueCommand} {newId eventId : UUID}
    {now : Datetime} {request : EnqueueRequest}
    (h : BackgroundTaskService.enqueue command newId eventId now = .ok request) :
    request.job.payload = command.payload ∧ request.job.tenantId = command.tenantId ∧
      BackgroundTaskService.requiredText command.deduplicationKey "任务去重键" 255 =
        .ok request.job.deduplicationKey ∧
      request.inbox = command.sourceInbox := by
  unfold BackgroundTaskService.enqueue at h
  obtain ⟨key, hkey, h⟩ := bind_eq_ok.mp h
  by_cases hattempts : 1 ≤ command.maxAttempts ∧ command.maxAttempts ≤ 20
  · rw [dif_pos hattempts] at h
    obtain ⟨leaseSeconds, -, h⟩ := bind_eq_ok.mp h
    obtain ⟨retryBaseSeconds, -, h⟩ := bind_eq_ok.mp h
    obtain ⟨correlationId, -, h⟩ := bind_eq_ok.mp h
    obtain rfl := Except.ok.inj h
    exact ⟨rfl, rfl, hkey, rfl⟩
  · rw [dif_neg hattempts] at h
    cases h

theorem acceptNormalized_spec {createdBy : Option UUID} {jobId inboxId eventId : UUID}
    {now : Datetime} {request : EnqueueRequest}
    (h : acceptNormalized ports tenantId agentId channelId event verification createdBy jobId
      inboxId eventId now = .ok (envelope, request)) :
    Normalized event envelope ∧ request.job.payload = envelopePayload envelope ∧
      request.job.tenantId = envelope.tenantId ∧
      BackgroundTaskService.requiredText
        s!"im:{uuidString envelope.channelId}:{ports.sha256 envelope.externalMessageId}"
        "任务去重键" 255 = .ok request.job.deduplicationKey ∧
      ∃ event, request.inbox = some event := by
  unfold acceptNormalized at h
  obtain ⟨accepted, haccepted, h⟩ := bind_eq_ok.mp h
  obtain ⟨hnormalized, htenant⟩ := normalize_spec haccepted
  obtain ⟨eventType, -, h⟩ := bind_eq_ok.mp h
  obtain ⟨maxAttempts, -, h⟩ := bind_eq_ok.mp h
  obtain ⟨leaseSeconds, -, h⟩ := bind_eq_ok.mp h
  obtain ⟨retryBaseSeconds, -, h⟩ := bind_eq_ok.mp h
  dsimp only at h
  split at h
  · cases h
  · rename_i stored henqueue
    obtain ⟨hpayload, hjob, hkey, hinbox⟩ := enqueue_job henqueue
    obtain ⟨rfl, rfl⟩ := Prod.mk.inj (Except.ok.inj h)
    exact ⟨hnormalized, hpayload, hjob.trans htenant.symm, hkey, _, hinbox⟩

end envelopes

section telegram

open Adapters.Telegram

variable {payload : JsonObject} {event : ChannelInboundEvent}

theorem messageText_spec {message : JsonObject} {t : String} (h : messageText message = .ok t) :
    strip t = t ∧ t.length ≤ maxMessageTextChars := by
  unfold messageText at h
  split at h
  · dsimp only at h
    split at h
    · cases h
    · split at h
      · cases h
      · rename_i hlength
        split at h
        · cases h
        · cases h
          exact ⟨strip_strip _, Nat.not_lt.mp hlength⟩
  · cases h

/-- An update becomes one text block. -/
theorem normalizeInbound_blocks (h : normalizeInbound payload = .ok event) :
    ∃ t, event.blocks = [{ kind := .text, text := some t }] ∧ strip t = t ∧
      t.length ≤ maxMessageTextChars := by
  unfold normalizeInbound at h
  split at h
  · cases h
  · obtain ⟨updateId, -, h⟩ := bind_eq_ok.mp h
    obtain ⟨message, -, h⟩ := bind_eq_ok.mp h
    obtain ⟨messageId, -, h⟩ := bind_eq_ok.mp h
    obtain ⟨occurredAt, -, h⟩ := bind_eq_ok.mp h
    obtain ⟨sender, -, h⟩ := bind_eq_ok.mp h
    split at h
    · obtain ⟨senderId, -, h⟩ := bind_eq_ok.mp h
      obtain ⟨chat, -, h⟩ := bind_eq_ok.mp h
      obtain ⟨chatId, -, h⟩ := bind_eq_ok.mp h
      obtain ⟨chatType, -, h⟩ := bind_eq_ok.mp h
      obtain ⟨t, htext, h⟩ := bind_eq_ok.mp h
      obtain ⟨threadId, -, h⟩ := bind_eq_ok.mp h
      obtain rfl := Except.ok.inj h
      exact ⟨t, rfl, messageText_spec htext⟩
    · cases h

theorem telegram_isReadable (h : normalizeInbound payload = .ok event) :
    (∀ block ∈ event.blocks, isReadable block = true) ↔
      ∀ block ∈ event.blocks, hasContentControl (block.text.getD "") = false := by
  obtain ⟨t, hblocks, hstrip, hlength⟩ := normalizeInbound_blocks h
  have hmaximum : t.length ≤ 200000 := by
    unfold maxMessageTextChars at hlength
    omega
  rw [hblocks]
  simp [isReadable, isTextKind, hstrip, hmaximum]

end telegram

section roundTrip

variable {ports : Ports} {tenantId agentId channelId : UUID} {event : ChannelInboundEvent}
  {verification : InboundVerification} {envelope : InboundEnvelope}

/-- An accepted event is decoded to its own envelope exactly if all its blocks are readable, and
an accepted update exactly if its text has no control character. -/
theorem inbound_round_trip {createdBy : Option UUID} {jobId inboxId eventId : UUID}
    {now : Datetime} {request : EnqueueRequest}
    (haccepted : acceptNormalized ports tenantId agentId channelId event verification createdBy
      jobId inboxId eventId now = .ok (envelope, request))
    (htyped : IsTyped envelope) {job : BackgroundJob} (htenant : job.tenantId = request.job.tenantId)
    (hpayload : job.payload = request.job.payload) :
    (InboundMessageTaskHandler.envelope job = .ok envelope ↔
      ∀ block ∈ event.blocks, isReadable block = true) ∧
    ∀ update, Telegram.normalizeInbound update = .ok event →
      (InboundMessageTaskHandler.envelope job = .ok envelope ↔
        ∀ block ∈ event.blocks, hasContentControl (block.text.getD "") = false) := by
  obtain ⟨hnormalized, hstored, hjob, -⟩ := acceptNormalized_spec haccepted
  have hread : InboundMessageTaskHandler.envelope job = .ok envelope ↔
      ∀ block ∈ event.blocks, isReadable block = true := by
    rw [envelope_payload hnormalized htyped (htenant.trans hjob) (hpayload.trans hstored)]
    exact blocks_isReadable hnormalized.blocks htyped.attachmentId
  refine ⟨hread, ?_⟩
  intro update hupdate
  rw [hread, telegram_isReadable hupdate]

def textUpdate (text : String) : JsonObject :=
  [("update_id", .int 1),
    ("message", .dict
      [("message_id", .int 7), ("date", .int 1700000000),
        ("from", .dict [("id", .int 5), ("is_bot", .bool false)]),
        ("chat", .dict [("id", .int 5), ("type", .str "private")]), ("text", .str text)])]

def textEvent (text : String) : ChannelInboundEvent where
  externalEventId := "telegram:update:1"
  eventType := "message.created"
  senderExternalId := "5"
  conversationExternalId := "5"
  blocks := [{ kind := .text, text := some text }]
  occurredAt := 1700000000000000
  messageExternalId := some "telegram:message:5:7"

def boundUser : Ports where
  getInstance tenantId agentId channelId :=
    some { id := channelId, tenantId, agentId, platform := .telegram, status := .enabled
           rateLimitPerMinute := 60 }
  configuration key :=
    [("inbox.max_payload_bytes", .int 65536), ("inbox.max_event_age_seconds", .int 300),
      ("inbox.max_attempts", .int 5), ("tasks.lease_seconds", .int 120),
      ("tasks.retry_base_seconds", .int 5)].lookup key
  findIdentityMapping subjectId := some { externalSubjectId := subjectId, userId := 3 }
  findConversationMapping _ _ := some { kind := .direct, conversationId := 4 }
  getConversationForUser conversationId userId agentId :=
    some { id := conversationId, tenantId := 0, agentId, title := "", status := .active
           createdBy := userId, eventSequence := 0, createdAt := 0, updatedAt := 0 }
  sha256 value := value

def textAccepted (text : String) : Except InboundError (InboundEnvelope × EnqueueRequest) :=
  acceptNormalized boundUser 0 1 2 (textEvent text)
    { signatureValid := true, payloadSizeBytes := 200, receivedAt := 1700000000000000 } none 6 7 8
    1700000000000000

def textEnvelope (text : String) : InboundEnvelope where
  schemaVersion := "1"
  tenantId := 0
  agentId := 1
  channelId := 2
  platform := .telegram
  externalEventId := "telegram:update:1"
  externalSubjectId := "5"
  userId := 3
  conversationKind := .direct
  externalConversationId := "5"
  externalThreadId := none
  conversationId := 4
  externalMessageId := "telegram:message:5:7"
  blocks := [{ kind := .text, text := some text }]
  occurredAt := 1700000000000000
  receivedAt := 1700000000000000

theorem textEnvelope_isTyped (text : String) : IsTyped (textEnvelope text) where
  agentId := (by decide : 1 < 2 ^ 128)
  channelId := (by decide : 2 < 2 ^ 128)
  userId := (by decide : 3 < 2 ^ 128)
  conversationId := (by decide : 4 < 2 ^ 128)
  attachmentId := by simp [textEnvelope]
  occurredAt := (by decide : 1700000000000000 < WireText.endOfDays * 86400000000)
  receivedAt := (by decide : 1700000000000000 < WireText.endOfDays * 86400000000)

theorem of_toOption {ε α β : Type} {x : Except ε α} {f : α → β} {b : β}
    (h : x.toOption.map f = some b) : ∃ a, x = .ok a ∧ f a = b := by
  obtain ⟨a, ha, hb⟩ := Option.map_eq_some_iff.mp h
  cases x with
  | error e => cases ha
  | ok a' =>
    cases ha
    exact ⟨_, rfl, hb⟩

/-- A plain text is accepted and read back. -/
theorem inbound_round_trip_plain_text :
    ∃ request, textAccepted "hi" = .ok (textEnvelope "hi", request) ∧
      InboundMessageTaskHandler.envelope request.job = .ok (textEnvelope "hi") := by
  have hupdate : ∃ event, Telegram.normalizeInbound (textUpdate "hi") = .ok event ∧
      event = textEvent "hi" := ⟨_, rfl, rfl⟩
  have haccept : (textAccepted "hi").toOption.map Prod.fst = some (textEnvelope "hi") := by
    decide +kernel
  obtain ⟨event, hevent, rfl⟩ := hupdate
  obtain ⟨⟨envelope, request⟩, haccepted, rfl⟩ := of_toOption haccept
  refine ⟨request, haccepted, ?_⟩
  have hread := (inbound_round_trip haccepted (textEnvelope_isTyped "hi") rfl rfl).2
    (textUpdate "hi") hevent
  apply hread.mpr
  intro block hblock
  obtain rfl := List.mem_singleton.mp hblock
  decide +kernel

/-- The platform may send a bell in a text: the message is accepted, and the decoder refuses it. -/
theorem bell_is_accepted_and_refused :
    Telegram.normalizeInbound (textUpdate "a\x07b") = .ok (textEvent "a\x07b") ∧
    ∃ request, textAccepted "a\x07b" = .ok (textEnvelope "a\x07b", request) ∧
      InboundMessageTaskHandler.envelope request.job =
        .error ⟨"Inbox Envelope 内容字段无效：text"⟩ := by
  have hrun : (textAccepted "a\x07b").toOption.map
      (fun accepted ↦ (accepted.1, InboundMessageTaskHandler.envelope accepted.2.job)) =
      some (textEnvelope "a\x07b", .error ⟨"Inbox Envelope 内容字段无效：text"⟩) := by
    decide +kernel
  obtain ⟨⟨envelope, request⟩, haccepted, hread⟩ := of_toOption hrun
  obtain ⟨rfl, hrefused⟩ := Prod.mk.inj hread
  exact ⟨rfl, request, haccepted, hrefused⟩

end roundTrip

end CyberNetizen.Inbound
