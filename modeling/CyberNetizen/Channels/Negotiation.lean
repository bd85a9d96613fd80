import CyberNetizen.Adapters.Channel
import CyberNetizen.Lib.Checks
import CyberNetizen.Lib.Chunks

namespace CyberNetizen.Channels

open Domain Adapters Application Checks

section spec

variable (markdownToText : Option String → String) (capabilities : ChannelCapabilities)

def isText (block : MultimodalContentBlock) : Bool :=
  block.kind = .text || block.kind = .markdown

def carried (block : MultimodalContentBlock) : List Char :=
  if isText block then (block.text.getD "").toList else []

def supports : ContentBlockKind → Bool
  | .text => capabilities.text
  | .markdown => capabilities.markdown
  | .image => capabilities.images
  | .file => capabilities.files

def conversion (block : MultimodalContentBlock) : Option String :=
  if supports capabilities block.kind then none
  else
    match block.kind with
    | .text => none
    | .markdown => some "markdown_to_text"
    | .image => some (if capabilities.files then "image_to_file" else "image_to_text_reference")
    | .file => some "file_to_text_reference"

def converted (block : MultimodalContentBlock) : List Char :=
  match block.kind with
  | .text => (block.text.getD "").toList
  | .markdown =>
    if capabilities.markdown then (block.text.getD "").toList
    else (markdownToText block.text).toList
  | .image =>
    if capabilities.images || capabilities.files then []
    else carried (attachmentFallback block "图片")
  | .file => if capabilities.files then [] else carried (attachmentFallback block "附件")

def Visible (text : List Char) : Prop := ∃ c ∈ text, isSpace c = false

/-- The blocks sent in the place of one block of the command. -/
structure Represents (block : MultimodalContentBlock) (sent : List MultimodalContentBlock) :
    Prop where
  sent_ne_nil : sent ≠ []
  content : sent.flatMap carried = converted markdownToText capabilities block
  blocks : ∀ b ∈ sent, isText b = true ∨ b = block ∨ b = { block with kind := .file }

/-- What negotiation promises about its result. -/
structure Sound (command : ChannelDeliveryCommand) (negotiation : CapabilityNegotiation) :
    Prop where
  count : negotiation.blocks.length ≤ capabilities.maxBlocks
  kinds : ∀ b ∈ negotiation.blocks, supports capabilities b.kind = true
  texts : ∀ b ∈ negotiation.blocks, isText b = true →
    Visible (carried b) ∧ (carried b).length ≤ capabilities.maxTextChars
  content : negotiation.blocks.flatMap carried =
    command.blocks.flatMap (converted markdownToText capabilities)
  represented : ∃ sections : List (List MultimodalContentBlock),
    sections.flatten = negotiation.blocks ∧
    List.Forall₂ (fun block sent ↦ Represents markdownToText capabilities block sent ∨
      ∃ reason ∈ conversion capabilities block, reason ∈ negotiation.degradations)
      command.blocks sections
  silent : negotiation.degradations = [] ↔ negotiation.blocks = command.blocks ∧
    negotiation.threadId = command.threadId ∧ negotiation.editMessageId = command.editMessageId ∧
    negotiation.buffered = false

/-- Markdown has somewhere to go: the platform takes it or the plain text it is turned into. -/
def Convertible (command : ChannelDeliveryCommand) : Prop :=
  capabilities.text = true ∨ ∀ block ∈ command.blocks, block.kind = .markdown →
    capabilities.markdown = true ∨ markdownToText block.text = ""

def Cuttable (command : ChannelDeliveryCommand) : Prop :=
  ∀ block ∈ command.blocks, ∀ i,
    i * capabilities.maxTextChars < (converted markdownToText capabilities block).length →
    Visible (((converted markdownToText capabilities block).drop
      (i * capabilities.maxTextChars)).take capabilities.maxTextChars)

end spec

variable {markdownToText : Option String → String} {capabilities : ChannelCapabilities}
  {command : ChannelDeliveryCommand} {negotiation : CapabilityNegotiation}
  {block b : MultimodalContentBlock} {reasons : List String}

section blocks

theorem attachmentFallback_ne_nil (label : String) :
    carried (attachmentFallback block label) ≠ [] := by
  intro h
  have hclose : ']' ∈ carried (attachmentFallback block label) := by
    unfold carried attachmentFallback isText
    simp [toString]
  rw [h] at hclose
  exact List.not_mem_nil hclose

theorem validateBlock_text (h : validateBlock block capabilities = .ok ())
    (ht : isText block = true) : ∃ text, block.text = some text ∧ text ≠ "" := by
  have hkind : block.kind = .text ∨ block.kind = .markdown := by simpa [isText] using ht
  unfold validateBlock at h
  rw [if_pos hkind] at h
  cases htext : block.text with
  | none => rw [htext] at h; cases h
  | some text =>
    refine ⟨text, rfl, ?_⟩
    rintro rfl
    rw [htext] at h
    cases h

/-- What the first loop can do with a block. -/
inductive Normalization (markdownToText : Option String → String)
    (capabilities : ChannelCapabilities) (block : MultimodalContentBlock) :
    MultimodalContentBlock → List String → Prop
  | kept (hs : supports capabilities block.kind = true)
      (ht : isText block = true → carried block ≠ []) :
      Normalization markdownToText capabilities block block []
  | markdown (hk : block.kind = .markdown) (hm : capabilities.markdown = false) :
      Normalization markdownToText capabilities block
        { kind := .text, text := some (markdownToText block.text) } ["markdown_to_text"]
  | asFile (hk : block.kind = .image) (hi : capabilities.images = false)
      (hf : capabilities.files = true) :
      Normalization markdownToText capabilities block { block with kind := .file }
        ["image_to_file"]
  | image (hk : block.kind = .image) (hi : capabilities.images = false)
      (hf : capabilities.files = false) (ht : capabilities.text = true) :
      Normalization markdownToText capabilities block (attachmentFallback block "图片")
        ["image_to_text_reference"]
  | file (hk : block.kind = .file) (hf : capabilities.files = false)
      (ht : capabilities.text = true) :
      Normalization markdownToText capabilities block (attachmentFallback block "附件")
        ["file_to_text_reference"]

theorem normalizeBlock_cases
    (h : normalizeBlock markdownToText capabilities block = .ok (b, reasons)) :
    Normalization markdownToText capabilities block b reasons := by
  unfold normalizeBlock at h
  rw [bind_eq_ok] at h
  obtain ⟨⟨⟩, hvalid, h⟩ := h
  have htext : isText block = true → carried block ≠ [] := by
    intro ht
    obtain ⟨text, htext, hne⟩ := validateBlock_text hvalid ht
    unfold carried
    rw [if_pos ht, htext]
    exact fun hnil ↦ hne (String.toList_eq_nil_iff.mp hnil)
  cases hk : block.kind with
  | text =>
    rw [hk] at h
    cases ht : capabilities.text with
    | false => rw [ht] at h; cases h
    | true =>
      rw [ht] at h
      cases h
      exact .kept (by rw [hk]; exact ht) htext
  | markdown =>
    rw [hk] at h
    cases hm : capabilities.markdown with
    | false =>
      rw [hm] at h
      cases h
      exact .markdown hk hm
    | true =>
      rw [hm] at h
      cases h
      exact .kept (by rw [hk]; exact hm) htext
  | image =>
    rw [hk] at h
    cases hi : capabilities.images with
    | true =>
      rw [hi] at h
      cases h
      exact .kept (by rw [hk]; exact hi) htext
    | false =>
      rw [hi] at h
      cases hf : capabilities.files with
      | true =>
        rw [hf] at h
        cases h
        exact .asFile hk hi hf
      | false =>
        rw [hf] at h
        cases ht : capabilities.text with
        | false => rw [ht] at h; cases h
        | true =>
          rw [ht] at h
          cases h
          exact .image hk hi hf ht
  | file =>
    rw [hk] at h
    cases hf : capabilities.files with
    | true =>
      rw [hf] at h
      cases h
      exact .kept (by rw [hk]; exact hf) htext
    | false =>
      rw [hf] at h
      cases ht : capabilities.text with
      | false => rw [ht] at h; cases h
      | true =>
        rw [ht] at h
        cases h
        exact .file hk hf ht

namespace Normalization

variable (h : Normalization markdownToText capabilities block b reasons)

include h

theorem reasons_eq : reasons = (conversion capabilities block).toList := by
  cases h with
  | kept hs => unfold conversion; rw [if_pos hs]; rfl
  | markdown hk hm => simp [conversion, supports, hk, hm]
  | asFile hk hi hf => simp [conversion, supports, hk, hi, hf]
  | image hk hi hf => simp [conversion, supports, hk, hi, hf]
  | file hk hf => simp [conversion, supports, hk, hf]

theorem carried_eq : carried b = converted markdownToText capabilities block := by
  cases h with
  | kept hs =>
    cases hk : block.kind <;> rw [hk] at hs <;> simp_all [carried, converted, isText, supports]
  | markdown hk hm => simp [carried, converted, isText, hk, hm]
  | asFile hk hi hf => simp [carried, converted, isText, hk, hf]
  | image hk hi hf => simp [converted, hk, hi, hf]
  | file hk hf => simp [converted, hk, hf]

theorem supports_or : supports capabilities b.kind = true ∨
    b.kind = .text ∧ block.kind = .markdown ∧ capabilities.markdown = false := by
  cases h with
  | kept hs => exact .inl hs
  | markdown hk hm => exact .inr ⟨rfl, hk, hm⟩
  | asFile _ _ hf => exact .inl hf
  | image _ _ _ ht => exact .inl ht
  | file _ _ ht => exact .inl ht

theorem eq_of_nil (hr : reasons = []) : b = block ∧ (isText b = true → carried b ≠ []) := by
  cases h with
  | kept hs ht => exact ⟨rfl, ht⟩
  | markdown | asFile | image | file => cases hr

theorem kind_ne (hr : reasons ≠ []) : b.kind ≠ block.kind := by
  cases h with
  | kept => exact absurd rfl hr
  | markdown hk => rw [hk]; exact nofun
  | asFile hk => rw [hk]; exact nofun
  | image hk => rw [hk]; exact nofun
  | file hk => rw [hk]; exact nofun

theorem shape : isText b = true ∨ b = block ∨ b = { block with kind := .file } := by
  cases h with
  | kept => exact .inr (.inl rfl)
  | markdown => exact .inl rfl
  | asFile => exact .inr (.inr rfl)
  | image => exact .inl rfl
  | file => exact .inl rfl

theorem carried_ne_nil (hm : block.kind = .markdown → capabilities.markdown = true)
    (ht : isText b = true) : carried b ≠ [] := by
  cases h with
  | kept hs htext => exact htext ht
  | markdown hk hm' => rw [hm hk] at hm'; cases hm'
  | asFile => cases ht
  | image => exact attachmentFallback_ne_nil _
  | file => exact attachmentFallback_ne_nil _

end Normalization

/-- What the second loop does with a block that has left the first. -/
inductive Expansion (capabilities : ChannelCapabilities) (b : MultimodalContentBlock) :
    List MultimodalContentBlock → List String → Prop
  | cut (ht : isText b = true) (hm : 0 < capabilities.maxTextChars) :
      Expansion capabilities b
        ((Chunks.chunks capabilities.maxTextChars (carried b)).map fun chunk ↦
          { b with text := some (String.ofList chunk) })
        (if 1 < (Chunks.chunks capabilities.maxTextChars (carried b)).length then
          ["long_text_split"] else [])
  | whole (ht : isText b = false) : Expansion capabilities b [b] []

theorem expandBlock_cases {sent : List MultimodalContentBlock}
    (h : expandBlock capabilities b = .ok (sent, reasons)) :
    Expansion capabilities b sent reasons := by
  unfold expandBlock at h
  cases ht : isText b with
  | false =>
    have hkind : ¬(b.kind = .text ∨ b.kind = .markdown) := by simpa [isText] using ht
    rw [if_neg hkind] at h
    cases h
    exact .whole ht
  | true =>
    have hkind : b.kind = .text ∨ b.kind = .markdown := by simpa [isText] using ht
    have hcarried : (b.text.getD "").toList = carried b := by
      unfold carried
      rw [if_pos ht]
    rw [if_pos hkind, hcarried] at h
    by_cases hm : capabilities.maxTextChars = 0
    · rw [if_pos hm] at h
      cases h
    · rw [if_neg hm] at h
      cases h
      exact .cut ht (Nat.pos_of_ne_zero hm)

theorem carried_piece (ht : isText b = true) (chunk : List Char) :
    carried { b with text := some (String.ofList chunk) } = chunk := by
  unfold carried
  rw [if_pos (show isText { b with text := some (String.ofList chunk) } = true from ht)]
  exact String.toList_ofList

namespace Expansion

variable {sent : List MultimodalContentBlock} (h : Expansion capabilities b sent reasons)

include h

theorem flatMap_carried : sent.flatMap carried = carried b := by
  cases h with
  | whole => rw [List.flatMap_singleton]
  | cut ht hm =>
    rw [List.flatMap_map]
    simp only [carried_piece ht]
    rw [List.flatMap_id', Chunks.flatten_chunks hm]

theorem kind_eq {x : MultimodalContentBlock} (hx : x ∈ sent) : x.kind = b.kind := by
  cases h with
  | whole => rw [List.mem_singleton.mp hx]
  | cut =>
    obtain ⟨chunk, -, rfl⟩ := List.mem_map.mp hx
    rfl

theorem ne_nil (hb : isText b = true → carried b ≠ []) : sent ≠ [] := by
  cases h with
  | whole => exact List.cons_ne_nil _ _
  | cut ht hm =>
    intro hnil
    exact Chunks.chunks_ne_nil hm (hb ht) (List.map_eq_nil_iff.mp hnil)

/-- A block is sent as it is if it is sent in one piece. -/
theorem eq_singleton (hb : isText b = true → carried b ≠ []) (hr : reasons = []) :
    sent = [b] := by
  cases h with
  | whole => rfl
  | cut ht hm =>
    have hlen : (Chunks.chunks capabilities.maxTextChars (carried b)).length ≤ 1 := by
      by_contra hlong
      rw [if_pos (by omega)] at hr
      cases hr
    rw [Chunks.chunks_of_length_le hm (hb ht) hlen]
    have htext : b.text = some (String.ofList (carried b)) := by
      have hne := hb ht
      unfold carried at hne ⊢
      rw [if_pos ht] at hne ⊢
      cases hbt : b.text with
      | none => rw [hbt] at hne; exact absurd rfl hne
      | some text => exact congrArg some String.ofList_toList.symm
    rw [List.map_singleton, ← htext]

theorem reasons_eq_nil (hlen : sent.length ≤ 1) : reasons = [] := by
  cases h with
  | whole => rfl
  | cut ht hm =>
    rw [List.length_map] at hlen
    exact if_neg (by omega)

theorem eq_nil (ht : isText b = true) (hb : carried b = []) : sent = [] := by
  cases h with
  | whole hf => rw [hf] at ht; cases ht
  | cut => rw [hb, Chunks.chunks_nil, List.map_nil]

/-- The pieces of a text are as long as the platform takes them, and can all be seen if no stretch
of spaces fills one. -/
theorem texts_iff : (∀ x ∈ sent, isText x = true →
      Visible (carried x) ∧ (carried x).length ≤ capabilities.maxTextChars) ↔
    ∀ i, i * capabilities.maxTextChars < (carried b).length →
      Visible (((carried b).drop (i * capabilities.maxTextChars)).take
        capabilities.maxTextChars) := by
  cases h with
  | whole ht =>
    have hnil : carried b = [] := by
      unfold carried
      rw [ht]
      rfl
    refine iff_of_true (fun x hx hxt ↦ ?_) fun i hi ↦ ?_
    · rw [List.mem_singleton.mp hx, ht] at hxt
      cases hxt
    · rw [hnil] at hi
      exact absurd hi (Nat.not_lt_zero _)
  | cut ht hm =>
    constructor
    · intro hall i hi
      have hmem := (Chunks.mem_chunks hm).mpr ⟨i, hi, rfl⟩
      have hvisible := (hall _ (List.mem_map_of_mem hmem) ht).1
      rwa [carried_piece ht] at hvisible
    · intro hall x hx hxt
      obtain ⟨chunk, hchunk, rfl⟩ := List.mem_map.mp hx
      obtain ⟨i, hi, rfl⟩ := (Chunks.mem_chunks hm).mp hchunk
      rw [carried_piece ht]
      exact ⟨hall i hi, List.length_take_le _ _⟩

end Expansion

def Sent (markdownToText : Option String → String) (capabilities : ChannelCapabilities)
    (block : MultimodalContentBlock) (e : List MultimodalContentBlock × List String) : Prop :=
  ∃ b reasons, Normalization markdownToText capabilities block b reasons ∧
    Expansion capabilities b e.1 e.2

end blocks

section runs

structure Negotiated (markdownToText : Option String → String) (capabilities : ChannelCapabilities)
    (command : ChannelDeliveryCommand) (negotiation : CapabilityNegotiation)
    (expanded : List (List MultimodalContentBlock × List String)) : Prop where
  sent : List.Forall₂ (Sent markdownToText capabilities) command.blocks expanded
  blocks : negotiation.blocks = expanded.flatMap Prod.fst
  count : negotiation.blocks.length ≤ capabilities.maxBlocks
  buffered : negotiation.buffered = (command.requestStreaming && !capabilities.streaming)
  threadId : negotiation.threadId =
    if command.threadId.isSome && !capabilities.threads then none else command.threadId
  editMessageId : negotiation.editMessageId =
    if command.editMessageId.isSome && !capabilities.messageEdit then none
    else command.editMessageId
  reasons : ∀ reason, reason ∈ negotiation.degradations ↔
    (command.requestStreaming && !capabilities.streaming) = true ∧
      reason = "streaming_to_buffered" ∨
    (command.threadId.isSome && !capabilities.threads) = true ∧
      reason = "thread_to_root_message" ∨
    (command.editMessageId.isSome && !capabilities.messageEdit) = true ∧
      reason = "edit_to_new_message" ∨
    (∃ block ∈ command.blocks, conversion capabilities block = some reason) ∨
    ∃ e ∈ expanded, reason ∈ e.2

theorem negotiateCapabilities_cases
    (h : negotiateCapabilities markdownToText command capabilities = .ok negotiation) :
    ∃ expanded, Negotiated markdownToText capabilities command negotiation expanded := by
  unfold negotiateCapabilities at h
  by_cases hproactive : command.proactive ∧ ¬capabilities.proactiveMessages
  · rw [if_pos hproactive] at h
    cases h
  rw [if_neg hproactive] at h
  dsimp only at h
  rw [bind_eq_ok] at h
  obtain ⟨normalized, hnormalized, h⟩ := h
  rw [bind_eq_ok] at h
  obtain ⟨expanded, hexpanded, h⟩ := h
  by_cases hempty : (expanded.flatMap Prod.fst).isEmpty = true
  · rw [if_pos hempty] at h
    cases h
  rw [if_neg hempty] at h
  by_cases hmany : capabilities.maxBlocks < (expanded.flatMap Prod.fst).length
  · rw [if_pos hmany] at h
    cases h
  rw [if_neg hmany] at h
  cases h
  have hfirst : List.Forall₂ (fun block p ↦
      Normalization markdownToText capabilities block p.1 p.2) command.blocks normalized := by
    refine (of_mapM_eq_ok hnormalized).imp fun block p hp ↦ normalizeBlock_cases ?_
    cases hb : normalizeBlock markdownToText capabilities block with
    | error error => rw [hb] at hp; cases hp
    | ok p => rw [hb] at hp; cases hp; rfl
  have hsecond : List.Forall₂ (fun p e ↦ Expansion capabilities p.1 e.1 e.2) normalized expanded :=
    (of_mapM_eq_ok hexpanded).imp fun p e he ↦ expandBlock_cases he
  have hreasons : normalized.flatMap Prod.snd =
      command.blocks.flatMap fun block ↦ (conversion capabilities block).toList :=
    (Sections.flatMap_eq hfirst fun _ _ hp ↦ hp.reasons_eq.symm).symm
  refine ⟨expanded, (Sections.comp hfirst hsecond).imp fun _ _ ⟨p, hp, he⟩ ↦ ⟨p.1, p.2, hp, he⟩,
    rfl, Nat.le_of_not_lt hmany, rfl, rfl, rfl, fun reason ↦ ?_⟩
  rw [ReflectionTaskHandler.mem_fromKeys, hreasons]
  simp only [List.mem_append, List.mem_flatMap, List.mem_ite_nil_right, List.mem_singleton,
    Option.mem_toList, or_assoc]

namespace Negotiated

variable {expanded : List (List MultimodalContentBlock × List String)}
  (h : Negotiated markdownToText capabilities command negotiation expanded)

include h

theorem kinds_iff : (∀ b ∈ negotiation.blocks, supports capabilities b.kind = true) ↔
    Convertible markdownToText capabilities command := by
  have hone : ∀ block e, Sent markdownToText capabilities block e →
      ((∀ x ∈ e.1, supports capabilities x.kind = true) ↔
        (capabilities.text = true ∨ (block.kind = .markdown →
          capabilities.markdown = true ∨ markdownToText block.text = ""))) := by
    rintro block ⟨sent, split⟩ ⟨b, reasons, hp, he⟩
    constructor
    · intro hall
      by_contra hnot
      simp only [not_or, Classical.not_imp, Bool.not_eq_true] at hnot
      obtain ⟨ht, hk, hm, htext⟩ := hnot
      have hkind : b.kind = .text := by
        rcases hp.supports_or with hs | ⟨hkind, -⟩
        · cases hp with
          | kept hs => rw [hk] at hs; exact absurd hs (by simp [supports, hm])
          | markdown => rfl
          | asFile hk' | image hk' | file hk' => rw [hk] at hk'; cases hk'
        · exact hkind
      have hne : sent ≠ [] := by
        refine he.ne_nil fun _ ↦ ?_
        rw [hp.carried_eq]
        simpa [converted, hk, hm] using htext
      obtain ⟨x, hx⟩ := List.exists_mem_of_ne_nil _ hne
      have hs := hall x hx
      rw [he.kind_eq hx, hkind] at hs
      exact absurd hs (by simp [supports, ht])
    · intro hq x hx
      rw [he.kind_eq hx]
      rcases hp.supports_or with hs | ⟨hkind, hk, hm⟩
      · exact hs
      · rcases hq with ht | hq
        · rw [hkind]
          exact ht
        · rcases hq hk with hm' | htext
          · rw [hm] at hm'
            cases hm'
          · have hnil : carried b = [] := by
              rw [hp.carried_eq]
              simp [converted, hk, hm, htext]
            rw [he.eq_nil (by simp [isText, hkind]) hnil] at hx
            exact absurd hx List.not_mem_nil
  rw [h.blocks, Sections.forall_flatMap_iff h.sent hone]
  unfold Convertible
  by_cases ht : capabilities.text = true
  · simp [ht]
  · simp [ht]

theorem texts_iff : (∀ b ∈ negotiation.blocks, isText b = true →
      Visible (carried b) ∧ (carried b).length ≤ capabilities.maxTextChars) ↔
    Cuttable markdownToText capabilities command := by
  rw [h.blocks]
  refine Sections.forall_flatMap_iff h.sent fun block e hsent ↦ ?_
  obtain ⟨b, reasons, hp, he⟩ := hsent
  rw [he.texts_iff, hp.carried_eq]

theorem content : negotiation.blocks.flatMap carried =
    command.blocks.flatMap (converted markdownToText capabilities) := by
  rw [h.blocks, List.flatMap_assoc]
  refine (Sections.flatMap_eq h.sent fun block e hsent ↦ ?_).symm
  obtain ⟨b, reasons, hp, he⟩ := hsent
  rw [he.flatMap_carried, hp.carried_eq]

theorem represented : ∃ sections : List (List MultimodalContentBlock),
    sections.flatten = negotiation.blocks ∧
    List.Forall₂ (fun block sent ↦ Represents markdownToText capabilities block sent ∨
      ∃ reason ∈ conversion capabilities block, reason ∈ negotiation.degradations)
      command.blocks sections := by
  refine ⟨expanded.map Prod.fst, by rw [h.blocks, List.flatMap_def], ?_⟩
  rw [List.forall₂_map_right_iff]
  refine (Sections.mem h.sent).imp ?_
  rintro block ⟨sent, split⟩ ⟨hblock, -, b, reasons, hp, he⟩
  cases hc : conversion capabilities block with
  | some reason =>
    exact .inr ⟨reason, rfl, (h.reasons reason).mpr (.inr (.inr (.inr (.inl ⟨block, hblock, hc⟩))))⟩
  | none =>
    have hnil : reasons = [] := by
      rw [hp.reasons_eq, hc]
      rfl
    obtain ⟨-, hshown⟩ := hp.eq_of_nil hnil
    refine .inl ⟨he.ne_nil hshown, by rw [he.flatMap_carried, hp.carried_eq], fun x hx ↦ ?_⟩
    cases ht : isText b with
    | true =>
      refine .inl ?_
      unfold isText at ht ⊢
      rwa [he.kind_eq hx]
    | false =>
      cases he with
      | cut ht' => rw [ht] at ht'; cases ht'
      | whole =>
        rw [List.mem_singleton.mp hx]
        exact hp.shape

theorem markdown_of_mem {x : MultimodalContentBlock} (hx : x ∈ negotiation.blocks)
    (hk : x.kind = .markdown) : capabilities.markdown = true := by
  rw [h.blocks] at hx
  obtain ⟨e, he, hx⟩ := List.mem_flatMap.mp hx
  obtain ⟨block, -, b, reasons, hp, hexp⟩ := Sections.exists_of_mem_right h.sent he
  rw [hexp.kind_eq hx] at hk
  rcases hp.supports_or with hs | ⟨hkind, -⟩
  · rw [hk] at hs
    exact hs
  · rw [hk] at hkind
    cases hkind

/-- Blocks that come out as they went in have been sent one by one. -/
theorem unchanged (hblocks : negotiation.blocks = command.blocks) :
    List.Forall₂ (fun block e ↦ conversion capabilities block = none ∧ e.2 = [])
      command.blocks expanded := by
  have hne : ∀ sent ∈ expanded.map Prod.fst, sent ≠ [] := by
    intro sent hsent
    obtain ⟨e, he, rfl⟩ := List.mem_map.mp hsent
    obtain ⟨block, hblock, b, reasons, hp, hexp⟩ := Sections.exists_of_mem_right h.sent he
    refine hexp.ne_nil (hp.carried_ne_nil fun hk ↦ h.markdown_of_mem ?_ hk)
    rw [hblocks]
    exact hblock
  have hlen : (expanded.map Prod.fst).length = command.blocks.length := by
    rw [List.length_map, h.sent.length_eq]
  have hflat : (expanded.map Prod.fst).flatten = command.blocks := by
    rw [← List.flatMap_def, ← h.blocks, hblocks]
  have hsections := Sections.eq_map_singleton hlen hne hflat
  have heq : List.Forall₂ (fun block e ↦ e.1 = [block]) command.blocks expanded := by
    rw [← List.forall₂_eq_eq_eq, List.forall₂_map_left_iff, List.forall₂_map_right_iff] at hsections
    exact hsections.flip
  refine List.Forall₂.mp ?_ heq h.sent
  rintro block ⟨sent, split⟩ heq ⟨b, reasons, hp, he⟩
  dsimp only at heq he
  refine ⟨?_, he.reasons_eq_nil (by rw [heq]; exact le_rfl)⟩
  by_contra hconversion
  have hreasons : reasons ≠ [] := by
    rw [hp.reasons_eq]
    cases hc : conversion capabilities block with
    | none => exact absurd hc hconversion
    | some reason => exact List.cons_ne_nil _ _
  have hkind := he.kind_eq (x := block) (by rw [heq]; exact List.mem_singleton_self block)
  exact hp.kind_ne hreasons hkind.symm

theorem silent_iff : negotiation.degradations = [] ↔ negotiation.blocks = command.blocks ∧
    negotiation.threadId = command.threadId ∧ negotiation.editMessageId = command.editMessageId ∧
    negotiation.buffered = false := by
  rw [List.eq_nil_iff_forall_not_mem]
  constructor
  · intro hnone
    have hno := fun reason ↦ mt (h.reasons reason).mpr (hnone reason)
    simp only [not_or] at hno
    have hbuffered : (command.requestStreaming && !capabilities.streaming) = false :=
      Bool.eq_false_iff.mpr fun hb ↦ (hno _).1 ⟨hb, rfl⟩
    have hthread : (command.threadId.isSome && !capabilities.threads) = false :=
      Bool.eq_false_iff.mpr fun hb ↦ (hno _).2.1 ⟨hb, rfl⟩
    have hedit : (command.editMessageId.isSome && !capabilities.messageEdit) = false :=
      Bool.eq_false_iff.mpr fun hb ↦ (hno _).2.2.1 ⟨hb, rfl⟩
    refine ⟨?_, ?_, ?_, h.buffered.trans hbuffered⟩
    · rw [h.blocks, ← List.flatMap_singleton' command.blocks]
      refine (Sections.flatMap_eq (Sections.mem h.sent) ?_).symm
      rintro block ⟨sent, split⟩ ⟨hblock, hmem, b, reasons, hp, he⟩
      have hconversion : conversion capabilities block = none := by
        cases hc : conversion capabilities block with
        | none => rfl
        | some reason => exact absurd ⟨block, hblock, hc⟩ (hno reason).2.2.2.1
      obtain ⟨rfl, hshown⟩ := hp.eq_of_nil (by rw [hp.reasons_eq, hconversion]; rfl)
      have hsplit : split = [] := by
        rw [List.eq_nil_iff_forall_not_mem]
        exact fun reason hreason ↦ (hno reason).2.2.2.2 ⟨_, hmem, hreason⟩
      exact (he.eq_singleton hshown hsplit).symm
    · rw [h.threadId, hthread]
      rfl
    · rw [h.editMessageId, hedit]
      rfl
  · rintro ⟨hblocks, hthread, hedit, hbuffered⟩ reason hreason
    have hunchanged := h.unchanged hblocks
    rcases (h.reasons reason).mp hreason with ⟨hb, -⟩ | ⟨hb, -⟩ | ⟨hb, -⟩ | ⟨block, hblock, hc⟩ |
      ⟨e, he, hmem⟩
    · rw [h.buffered, hb] at hbuffered
      cases hbuffered
    · rw [h.threadId, if_pos hb] at hthread
      rw [← hthread] at hb
      cases hb
    · rw [h.editMessageId, if_pos hb] at hedit
      rw [← hedit] at hb
      cases hb
    · obtain ⟨e, -, hnone, -⟩ := Sections.exists_of_mem_left hunchanged hblock
      rw [hnone] at hc
      cases hc
    · obtain ⟨block, -, -, hnil⟩ := Sections.exists_of_mem_right hunchanged he
      rw [hnil] at hmem
      exact List.not_mem_nil hmem

theorem sound_iff : Sound markdownToText capabilities command negotiation ↔
    Convertible markdownToText capabilities command ∧
      Cuttable markdownToText capabilities command :=
  ⟨fun hs ↦ ⟨h.kinds_iff.mp hs.kinds, h.texts_iff.mp hs.texts⟩, fun ⟨hkinds, htexts⟩ ↦
    ⟨h.count, h.kinds_iff.mpr hkinds, h.texts_iff.mpr htexts, h.content, h.represented,
      h.silent_iff⟩⟩

end Negotiated

end runs

/-- A negotiation that succeeds keeps its promises exactly if markdown has somewhere to go and no
piece of a text is blank. -/
theorem negotiateCapabilities_sound_iff (isDecimal : Char → Bool)
    (h : negotiateCapabilities (Adapters.markdownToText isDecimal) command capabilities =
      .ok negotiation) :
    Sound (Adapters.markdownToText isDecimal) capabilities command negotiation ↔
      Convertible (Adapters.markdownToText isDecimal) capabilities command ∧
        Cuttable (Adapters.markdownToText isDecimal) capabilities command := by
  obtain ⟨expanded, hn⟩ := negotiateCapabilities_cases h
  exact hn.sound_iff

section spaces

def spacedCommand : ChannelDeliveryCommand where
  channelId := 1
  recipientId := "reader"
  blocks := [{ kind := .text, text := some "abcd    efgh" }]
  idempotencyKey := "key"

def narrow : ChannelCapabilities := { maxTextChars := 4 }

def piece (text : String) : MultimodalContentBlock := { kind := .text, text := some text }

def spacedPieces : CapabilityNegotiation where
  blocks := [piece "abcd", piece "    ", piece "efgh"]
  degradations := ["long_text_split"]
  buffered := false
  threadId := none
  editMessageId := none

theorem negotiateCapabilities_sound_iff_of_spaced :
    negotiateCapabilities (Adapters.markdownToText Char.isDigit) spacedCommand narrow =
      .ok spacedPieces ∧
    (Sound (Adapters.markdownToText Char.isDigit) narrow spacedCommand spacedPieces ↔
      Convertible (Adapters.markdownToText Char.isDigit) narrow spacedCommand ∧
        Cuttable (Adapters.markdownToText Char.isDigit) narrow spacedCommand) :=
  ⟨rfl, negotiateCapabilities_sound_iff Char.isDigit rfl⟩

theorem negotiateCapabilities_sends_blank :
    ∃ command capabilities negotiation,
      negotiateCapabilities (Adapters.markdownToText Char.isDigit) command capabilities =
        .ok negotiation ∧
      ¬Sound (Adapters.markdownToText Char.isDigit) capabilities command negotiation := by
  refine ⟨spacedCommand, narrow, spacedPieces, rfl, fun hs ↦ ?_⟩
  obtain ⟨⟨c, hc, hspace⟩, -⟩ := hs.texts (piece "    ") (by simp [spacedPieces]) rfl
  have hall : ∀ c ∈ carried (piece "    "), isSpace c = true :=
    List.all_eq_true.mp (by decide)
  rw [hall c hc] at hspace
  cases hspace

end spaces

end CyberNetizen.Channels
