import CyberNetizen.Application.MultimodalService
import CyberNetizen.Lib.Checks

/-! # The attachments that a request to the model loads -/

namespace CyberNetizen.Attachments

open Domain Application Infrastructure MultimodalInputService KeyedTable
open Checks (bind_eq_ok bind_of_ok of_mapM_eq_ok exists_mapM_eq_ok)

/-! ## One greedy pass -/

/-- The pass over the parts of a message: which attachment parts are taken, and what is left. -/
def greedyParts (limits : MultimodalInputLimits) : List MessagePart → ℤ →
    List (MessagePart × Bool) × ℤ
  | [], remaining => ([], remaining)
  | part :: parts, remaining =>
    if !isAttachmentPart part then greedyParts limits parts remaining
    else
      let size := part.sizeBytes.getD 0
      if part.sizeBytes.isSome ∧ size ≤ itemLimit limits part ∧ size ≤ remaining then
        let rest := greedyParts limits parts (remaining - size)
        ((part, true) :: rest.1, rest.2)
      else
        let rest := greedyParts limits parts remaining
        ((part, false) :: rest.1, rest.2)

def greedyMessages (limits : MultimodalInputLimits) : List Message → ℤ →
    List (Message × List (MessagePart × Bool))
  | [], _ => []
  | message :: messages, remaining =>
    let taken := greedyParts limits message.parts remaining
    (message, taken.1) :: greedyMessages limits messages taken.2

def takenBytes (choices : List (MessagePart × Bool)) : ℤ :=
  (choices.map fun choice ↦ if choice.2 then choice.1.sizeBytes.getD 0 else 0).sum

variable {limits : MultimodalInputLimits} {parts : List MessagePart} {remaining : ℤ}

theorem greedyParts_remaining (parts : List MessagePart) (remaining : ℤ) :
    (greedyParts limits parts remaining).2 =
      remaining - takenBytes (greedyParts limits parts remaining).1 := by
  induction parts generalizing remaining with
  | nil => simp [greedyParts, takenBytes]
  | cons part parts ih =>
    rw [greedyParts]
    split
    · exact ih remaining
    · dsimp only
      split
      · rw [ih]
        simp [takenBytes]
        omega
      · rw [ih]
        simp [takenBytes]

theorem greedyParts_nonneg (parts : List MessagePart) (h : 0 ≤ remaining) :
    0 ≤ (greedyParts limits parts remaining).2 := by
  induction parts generalizing remaining with
  | nil => exact h
  | cons part parts ih =>
    rw [greedyParts]
    split
    · exact ih h
    · dsimp only
      split
      · exact ih (by omega)
      · exact ih h

theorem takenBytes_le (parts : List MessagePart) (h : 0 ≤ remaining) :
    takenBytes (greedyParts limits parts remaining).1 ≤ remaining := by
  have hremaining := @greedyParts_remaining limits parts remaining
  have hnonneg := @greedyParts_nonneg limits remaining parts h
  omega

theorem greedyMessages_le (messages : List Message) (h : 0 ≤ remaining) :
    ((greedyMessages limits messages remaining).map fun entry ↦ takenBytes entry.2).sum ≤
      remaining := by
  induction messages generalizing remaining with
  | nil => exact h
  | cons message messages ih =>
    have hrest := ih (@greedyParts_nonneg limits remaining message.parts h)
    have hremaining := @greedyParts_remaining limits message.parts remaining
    rw [greedyMessages]
    simp only [List.map_cons, List.sum_cons]
    omega

theorem greedyMessages_fst (messages : List Message) (remaining : ℤ) :
    (greedyMessages limits messages remaining).map Prod.fst = messages := by
  induction messages generalizing remaining with
  | nil => rfl
  | cons message messages ih => exact congrArg (message :: ·) (ih _)

/-! ## The first phase -/

theorem reserve_eq (parts : List MessagePart) (reserved remaining : ℤ) :
    reserve limits parts reserved remaining =
      (reserved + takenBytes (greedyParts limits parts remaining).1,
        (greedyParts limits parts remaining).2) := by
  induction parts generalizing reserved remaining with
  | nil => simp [reserve, greedyParts, takenBytes]
  | cons part parts ih =>
    rw [reserve, greedyParts]
    cases hkind : isAttachmentPart part with
    | false => exact ih reserved remaining
    | true =>
      simp only [Bool.not_true, Bool.false_eq_true, if_false]
      cases hsize : part.sizeBytes with
      | none =>
        simp only [Option.isSome_none, Bool.false_eq_true, false_and, if_false, ih]
        simp [takenBytes]
      | some size =>
        simp only [Option.isSome_some, true_and, Option.getD_some]
        split
        · rw [ih]
          simp [takenBytes, hsize, add_assoc]
        · rw [ih]
          simp [takenBytes]

theorem selectMessages_eq (messages : List Message) (remaining : ℤ) :
    selectMessages limits messages remaining =
      (greedyMessages limits messages remaining).map fun entry ↦
        (entry.1, takenBytes entry.2) := by
  induction messages generalizing remaining with
  | nil => rfl
  | cons message messages ih =>
    rw [selectMessages, greedyMessages, reserve_eq]
    simp only [List.map_cons, zero_add, ih]

/-! ## The second phase -/

variable {service : MultimodalInputService} {message : Message}

def RowMatches (service : MultimodalInputService) (message : Message) (part : MessagePart) : Prop :=
  ∃ attachment, service.referredAttachment message part = .ok attachment

theorem sizeBytes_of_referred {part : MessagePart} {attachment : Attachment}
    (h : service.referredAttachment message part = .ok attachment) :
    part.sizeBytes = some attachment.sizeBytes := by
  unfold referredAttachment at h
  cases hid : part.attachmentId with
  | none =>
    rw [hid] at h
    exact nomatch h
  | some attachmentId =>
    rw [hid] at h
    dsimp only at h
    unfold verifyAttachmentReference at h
    cases hrow : service.getAttachmentForUser attachmentId service.userId with
    | none =>
      rw [hrow] at h
      exact nomatch h
    | some row =>
      rw [hrow] at h
      dsimp only at h
      split_ifs at h with h₁ h₂ h₃ h₄ h₅
      obtain rfl := Except.ok.inj h
      exact not_not.mp fun hne ↦ h₅ (.inr (.inr (.inl hne)))

def fallbackReason (limits : MultimodalInputLimits) (part : MessagePart) (attachment : Attachment) :
    String :=
  if (itemLimit limits part : ℤ) < attachment.sizeBytes then "超过单个模型输入上限"
  else "超过本次模型输入总量上限"

def render (service : MultimodalInputService) (message : Message) (limits : MultimodalInputLimits)
    (choice : MessagePart × Bool) : Except MultimodalError ModelInputPart :=
  match service.referredAttachment message choice.1 with
  | .error error => .error error
  | .ok attachment =>
    if choice.2 then (service.readPart limits choice.1 attachment).map Prod.fst
    else .ok (limitFallback attachment (fallbackReason limits choice.1 attachment))

theorem readPart_size {part : MessagePart} {attachment : Attachment} {item : ModelInputPart}
    {size : ℤ} (h : service.readPart limits part attachment = .ok (item, size)) :
    size = attachment.sizeBytes := by
  unfold readPart at h
  cases hread : service.readObject attachment.objectKey (itemLimit limits part) with
  | error error =>
    rw [hread] at h
    exact nomatch h
  | ok content =>
    rw [hread] at h
    dsimp only at h
    split_ifs at h with hcheck himage
    · obtain ⟨-, rfl⟩ := Prod.mk.inj (Except.ok.inj h)
      exact not_not.mp fun hne ↦ hcheck (.inl hne)
    · cases htext : service.readers.extractDocumentText content.data attachment.contentType
        limits.maxDocumentCharacters limits.maxPdfPages with
      | error error =>
        rw [htext] at h
        exact nomatch h
      | ok result =>
        rw [htext] at h
        obtain ⟨-, rfl⟩ := Prod.mk.inj (Except.ok.inj h)
        exact not_not.mp fun hne ↦ hcheck (.inl hne)

/-- `ck_message_parts_shape` -/
def SizesStored (parts : List MessagePart) : Prop :=
  ∀ part ∈ parts, ∀ size ∈ part.sizeBytes, (0 : ℤ) < size

theorem takenBytes_nonneg (hsizes : SizesStored parts) (remaining : ℤ) :
    0 ≤ takenBytes (greedyParts limits parts remaining).1 := by
  induction parts generalizing remaining with
  | nil => simp [greedyParts, takenBytes]
  | cons part parts ih =>
    have hrest := ih fun p hp ↦ hsizes p (List.mem_cons_of_mem part hp)
    rw [greedyParts]
    split
    · exact hrest remaining
    · dsimp only
      cases hsize : part.sizeBytes with
      | none =>
        have hle := hrest remaining
        simpa [takenBytes] using hle
      | some size =>
        have hpos := hsizes part List.mem_cons_self size hsize
        simp only [Option.isSome_some, true_and, Option.getD_some]
        split
        · have hle := hrest (remaining - size)
          simp only [takenBytes, List.map_cons, List.sum_cons, hsize, if_true, Option.getD_some]
          unfold takenBytes at hle
          omega
        · have hle := hrest remaining
          simpa [takenBytes] using hle

theorem takenBytes_cons_true {part : MessagePart} {size : ℤ} (hsize : part.sizeBytes = some size)
    (choices : List (MessagePart × Bool)) :
    takenBytes ((part, true) :: choices) = size + takenBytes choices := by
  simp [takenBytes, hsize]

theorem takenBytes_cons_false (part : MessagePart) (choices : List (MessagePart × Bool)) :
    takenBytes ((part, false) :: choices) = takenBytes choices := by
  simp [takenBytes]

/-- The loop in the terms of the choice that is made at its first part. -/
theorem loadParts_cons {part : MessagePart} {attachment : Attachment} {reserved bytesLoaded : ℤ}
    (hkind : isAttachmentPart part = true)
    (hrow : service.referredAttachment message part = .ok attachment) {taken : Bool}
    (htaken : taken = true ↔ attachment.sizeBytes ≤ itemLimit limits part ∧
      attachment.sizeBytes ≤ reserved - bytesLoaded) :
    service.loadParts message limits reserved (part :: parts) bytesLoaded =
      (render service message limits (part, taken)).bind fun item ↦
        (service.loadParts message limits reserved parts
          (bytesLoaded + if taken then attachment.sizeBytes else 0)).map fun loaded ↦
            { loaded with parts := item :: loaded.parts } := by
  rw [loadParts, hkind, if_neg (by simp), bind_of_ok hrow]
  unfold render
  rw [hrow]
  dsimp only
  cases taken with
  | true =>
    obtain ⟨hitem, htotal⟩ := htaken.mp rfl
    rw [if_neg (not_lt.mpr hitem), if_neg (not_lt.mpr htotal), if_pos rfl, if_pos rfl]
    cases hread : service.readPart limits part attachment with
    | error error => rfl
    | ok result =>
      obtain ⟨item, size⟩ := result
      rw [readPart_size hread]
      rfl
  | false =>
    have hnot : ¬(attachment.sizeBytes ≤ itemLimit limits part ∧
        attachment.sizeBytes ≤ reserved - bytesLoaded) := fun h ↦ nomatch htaken.mpr h
    unfold fallbackReason
    rw [if_neg Bool.false_ne_true, if_neg Bool.false_ne_true, add_zero]
    by_cases hitem : (itemLimit limits part : ℤ) < attachment.sizeBytes
    · rw [if_pos hitem, if_pos hitem]
      rfl
    · rw [if_neg hitem, if_neg hitem, if_pos (by omega)]
      rfl

/-- With what the one pass takes in reserve, the loop takes just that. -/
theorem loadParts_eq (hrows : ∀ part ∈ parts, isAttachmentPart part = true →
      RowMatches service message part) (hsizes : SizesStored parts) (h : 0 ≤ remaining)
    (bytesLoaded reserved : ℤ)
    (hreserved : reserved = bytesLoaded + takenBytes (greedyParts limits parts remaining).1) :
    service.loadParts message limits reserved parts bytesLoaded =
      ((greedyParts limits parts remaining).1.mapM (render service message limits)).map fun items ↦
        ⟨items, reserved⟩ := by
  induction parts generalizing remaining bytesLoaded with
  | nil => simp [greedyParts, takenBytes, loadParts, Except.map, pure, Except.pure, hreserved]
  | cons part parts ih =>
    have hrest : ∀ remaining' bytesLoaded', 0 ≤ remaining' → reserved = bytesLoaded' +
        takenBytes (greedyParts limits parts remaining').1 →
        service.loadParts message limits reserved parts bytesLoaded' =
          ((greedyParts limits parts remaining').1.mapM (render service message limits)).map
            fun items ↦ ⟨items, reserved⟩ := fun remaining' bytesLoaded' h' hreserved' ↦
      ih (fun p hp ↦ hrows p (List.mem_cons_of_mem part hp))
        (fun p hp ↦ hsizes p (List.mem_cons_of_mem part hp)) h' bytesLoaded' hreserved'
    have hrestSizes : SizesStored parts := fun p hp ↦ hsizes p (List.mem_cons_of_mem part hp)
    rw [greedyParts] at hreserved ⊢
    cases hkind : isAttachmentPart part with
    | false =>
      rw [hkind, Bool.not_false, if_pos rfl] at hreserved
      rw [Bool.not_false, if_pos rfl, loadParts, hkind, Bool.not_false, if_pos rfl]
      exact hrest remaining bytesLoaded h hreserved
    | true =>
      obtain ⟨attachment, hrow⟩ := hrows part List.mem_cons_self hkind
      have hsize := sizeBytes_of_referred hrow
      simp only [hkind, Bool.not_true, Bool.false_eq_true, if_false, hsize, Option.isSome_some,
        true_and, Option.getD_some] at hreserved ⊢
      by_cases hfits : attachment.sizeBytes ≤ itemLimit limits part ∧
          attachment.sizeBytes ≤ remaining
      · rw [if_pos hfits, takenBytes_cons_true hsize] at hreserved
        have hnonneg := @takenBytes_nonneg limits parts hrestSizes (remaining - attachment.sizeBytes)
        rw [if_pos hfits, List.mapM_cons, @loadParts_cons limits parts service message part attachment
          reserved bytesLoaded hkind hrow true (iff_of_true rfl ⟨hfits.1, by omega⟩), if_pos rfl,
          hrest (remaining - attachment.sizeBytes) _ (by omega) (by omega)]
        cases render service message limits (part, true) with
        | error error => rfl
        | ok item =>
          cases (greedyParts limits parts (remaining - attachment.sizeBytes)).1.mapM
            (render service message limits) <;> rfl
      · rw [if_neg hfits, takenBytes_cons_false] at hreserved
        have hle := @takenBytes_le limits remaining parts h
        rw [if_neg hfits, List.mapM_cons, @loadParts_cons limits parts service message part attachment
          reserved bytesLoaded hkind hrow false
          (iff_of_false Bool.false_ne_true fun h' ↦ hfits ⟨h'.1, by omega⟩),
          if_neg Bool.false_ne_true, add_zero, hrest remaining bytesLoaded h hreserved]
        cases render service message limits (part, false) with
        | error error => rfl
        | ok item =>
          cases (greedyParts limits parts remaining).1.mapM (render service message limits) <;> rfl

/-! ## Both phases -/

/-- A message as it is stored: its parts stand in the order of their positions, and the attachment
rows match them. -/
structure StoredMessage (service : MultimodalInputService) (message : Message) : Prop where
  ordered : message.parts.Pairwise fun a b ↦ a.position ≤ b.position
  sizes : SizesStored message.parts
  rows : ∀ part ∈ message.parts, isAttachmentPart part = true → RowMatches service message part

/-- What a part has become: its content if it was taken, and otherwise one text that says why not. -/
def Rendered (service : MultimodalInputService) (message : Message) (limits : MultimodalInputLimits)
    (choice : MessagePart × Bool) (item : ModelInputPart) : Prop :=
  ∃ attachment, service.referredAttachment message choice.1 = .ok attachment ∧
    if choice.2 then service.readPart limits choice.1 attachment = .ok (item, attachment.sizeBytes)
    else item = limitFallback attachment (fallbackReason limits choice.1 attachment)

/-- An entry of the result belongs to the choices for its message: one item for each attachment part,
in their order, and the bytes of those that are taken. -/
structure Loads (service : MultimodalInputService) (limits : MultimodalInputLimits)
    (entry : Message × List (MessagePart × Bool)) (loaded : UUID × LoadedModelInput) : Prop where
  id : loaded.1 = entry.1.id
  choices : entry.2.map Prod.fst = entry.1.parts.filter isAttachmentPart
  parts : List.Forall₂ (Rendered service entry.1 limits) entry.2 loaded.2.parts
  bytes : loaded.2.bytesLoaded = takenBytes entry.2

theorem greedyParts_fst (parts : List MessagePart) (remaining : ℤ) :
    (greedyParts limits parts remaining).1.map Prod.fst = parts.filter isAttachmentPart := by
  induction parts generalizing remaining with
  | nil => rfl
  | cons part parts ih =>
    rw [greedyParts]
    cases hkind : isAttachmentPart part with
    | false =>
      rw [List.filter_cons_of_neg (by simp [hkind])]
      exact ih remaining
    | true =>
      rw [List.filter_cons_of_pos hkind]
      simp only [Bool.not_true, Bool.false_eq_true, if_false]
      split <;> simp [ih]

theorem rendered_of_render {choice : MessagePart × Bool} {item : ModelInputPart}
    (h : render service message limits choice = .ok item) :
    Rendered service message limits choice item := by
  unfold render at h
  unfold Rendered
  cases hrow : service.referredAttachment message choice.1 with
  | error error =>
    rw [hrow] at h
    exact nomatch h
  | ok attachment =>
    rw [hrow] at h
    refine ⟨attachment, rfl, ?_⟩
    cases htaken : choice.2 with
    | false =>
      simp only [htaken, Bool.false_eq_true, if_false] at h ⊢
      exact (Except.ok.inj h).symm
    | true =>
      simp only [htaken, if_true] at h ⊢
      cases hread : service.readPart limits choice.1 attachment with
      | error error =>
        rw [hread] at h
        exact nomatch h
      | ok result =>
        rw [hread] at h
        obtain ⟨item', size⟩ := result
        obtain rfl := Except.ok.inj h
        rw [readPart_size hread]

def loadChoices (service : MultimodalInputService) (limits : MultimodalInputLimits)
    (entry : Message × List (MessagePart × Bool)) : Except MultimodalError LoadedModelInput :=
  (entry.2.mapM (render service entry.1 limits)).map fun items ↦ ⟨items, takenBytes entry.2⟩

theorem loadMessageAttachments_eq (hmessage : StoredMessage service message) (h : 0 ≤ remaining) :
    service.loadMessageAttachments message limits
        (takenBytes (greedyParts limits message.parts remaining).1) =
      loadChoices service limits (message, (greedyParts limits message.parts remaining).1) := by
  have hsorted : message.parts.mergeSort (fun a b ↦ decide (a.position ≤ b.position)) =
      message.parts :=
    List.mergeSort_of_pairwise (hmessage.ordered.imp fun hle ↦ decide_eq_true hle)
  unfold loadMessageAttachments
  rw [hsorted]
  exact loadParts_eq hmessage.rows hmessage.sizes h 0 _ (zero_add _).symm

theorem mapM_selectMessages {messages : List Message}
    (hmessages : ∀ message ∈ messages, StoredMessage service message) (h : 0 ≤ remaining) :
    ((selectMessages limits messages remaining).mapM fun entry ↦
        service.loadMessageAttachments entry.1 limits entry.2) =
      (greedyMessages limits messages remaining).mapM (loadChoices service limits) := by
  induction messages generalizing remaining with
  | nil => rfl
  | cons message messages ih =>
    have hrest := ih (fun m hm ↦ hmessages m (List.mem_cons_of_mem message hm))
      (@greedyParts_nonneg limits remaining message.parts h)
    rw [selectMessages, greedyMessages, reserve_eq, zero_add]
    simp only [List.mapM_cons]
    rw [loadMessageAttachments_eq (hmessages message List.mem_cons_self) h, hrest]

theorem rows_foldl_put {entries : List (UUID × LoadedModelInput)} {table : LoadedTable}
    (h : (table.rows.map Prod.fst ++ entries.map Prod.fst).Nodup) :
    (entries.foldl Table.put table).rows = table.rows ++ entries := by
  induction entries generalizing table with
  | nil => simp
  | cons entry entries ih =>
    have hnew : entry.1 ∉ table.rows.map Prod.fst := by
      intro hmem
      exact (List.nodup_append.mp h).2.2 _ hmem _ (List.mem_cons_self) rfl
    have hrows := Table.put_of_not_mem hnew
    rw [List.foldl_cons, ih, hrows, List.append_assoc, List.singleton_append]
    rw [hrows]
    simpa using h

theorem mem_greedyMessages {messages : List Message} {entry : Message × List (MessagePart × Bool)}
    (h : entry ∈ greedyMessages limits messages remaining) :
    entry.1 ∈ messages ∧ entry.2.map Prod.fst = entry.1.parts.filter isAttachmentPart := by
  induction messages generalizing remaining with
  | nil => exact nomatch h
  | cons message messages ih =>
    rcases List.mem_cons.mp h with rfl | h
    · exact ⟨List.mem_cons_self, greedyParts_fst message.parts remaining⟩
    · exact ⟨List.mem_cons_of_mem message (ih h).1, (ih h).2⟩

theorem forall₂_rendered {choices : List (MessagePart × Bool)} {items : List ModelInputPart}
    (h : choices.mapM (render service message limits) = .ok items) :
    List.Forall₂ (Rendered service message limits) choices items :=
  (of_mapM_eq_ok h).imp fun _ _ ↦ rendered_of_render

theorem loads_of_loadChoices {entry : Message × List (MessagePart × Bool)}
    {loaded : LoadedModelInput} (hentry : entry.2.map Prod.fst =
      entry.1.parts.filter isAttachmentPart) (h : loadChoices service limits entry = .ok loaded) :
    Loads service limits entry (entry.1.id, loaded) := by
  unfold loadChoices at h
  cases hitems : entry.2.mapM (render service entry.1 limits) with
  | error error =>
    rw [hitems] at h
    exact nomatch h
  | ok items =>
    rw [hitems] at h
    obtain rfl := Except.ok.inj h
    exact ⟨rfl, hentry, forall₂_rendered hitems, rfl⟩

theorem forall₂_zip {α β κ : Type} (key : α → κ) {R : α → β → Prop} {S : α → κ × β → Prop}
    {l : List α} {l' : List β} (h : List.Forall₂ R l l')
    (hS : ∀ a ∈ l, ∀ b, R a b → S a (key a, b)) :
    List.Forall₂ S l ((l.map key).zip l') := by
  induction h with
  | nil => exact .nil
  | cons hab _ ih =>
    exact .cons (hS _ List.mem_cons_self _ hab) (ih fun a ha ↦ hS a (List.mem_cons_of_mem _ ha))

theorem map_bytesLoaded {entries : List (Message × List (MessagePart × Bool))}
    {rows : List (UUID × LoadedModelInput)} (h : List.Forall₂ (Loads service limits) entries rows) :
    (rows.map fun entry ↦ entry.2.bytesLoaded) = entries.map fun entry ↦ takenBytes entry.2 := by
  induction h with
  | nil => rfl
  | cons hloads _ ih => rw [List.map_cons, List.map_cons, hloads.bytes, ih]

theorem rows_zip_put {ids : List UUID} {loaded : List LoadedModelInput} (hnodup : ids.Nodup)
    (hlength : ids.length = loaded.length) :
    ((ids.zip loaded).foldl Table.put (Table.empty : LoadedTable)).rows = ids.zip loaded := by
  apply rows_foldl_put
  rw [List.map_fst_zip hlength.le]
  exact hnodup

/-- For stored messages the two phases load exactly what one greedy pass over the newest message first
takes, the bytes are within the total, every other attachment part leaves one text in its place, and
nothing fails if what is taken can be read. -/
theorem loadMessages_greedy {messages : List Message}
    (hmessages : ∀ message ∈ messages, StoredMessage service message)
    (hids : (messages.map fun message ↦ message.id).Nodup) :
    (∀ loaded, service.loadMessages messages limits = .ok loaded →
      List.Forall₂ (Loads service limits)
          (greedyMessages limits messages.reverse limits.maxTotalBytes) loaded.rows ∧
        (loaded.rows.map fun entry ↦ entry.2.bytesLoaded).sum ≤ limits.maxTotalBytes) ∧
    ((∀ entry ∈ greedyMessages limits messages.reverse limits.maxTotalBytes,
        ∀ choice ∈ entry.2, choice.2 = true → ∀ attachment,
          service.referredAttachment entry.1 choice.1 = .ok attachment →
          ∃ result, service.readPart limits choice.1 attachment = .ok result) →
      ∃ loaded, service.loadMessages messages limits = .ok loaded) := by
  have htotal : (0 : ℤ) ≤ limits.maxTotalBytes := Int.natCast_nonneg _
  have hstored : ∀ message ∈ messages.reverse, StoredMessage service message :=
    fun message hmessage ↦ hmessages message (List.mem_reverse.mp hmessage)
  have hphases := @mapM_selectMessages limits limits.maxTotalBytes service _ hstored htotal
  have hkeys : (selectMessages limits messages.reverse limits.maxTotalBytes).map
        (fun entry ↦ entry.1.id) =
      (greedyMessages limits messages.reverse limits.maxTotalBytes).map fun entry ↦ entry.1.id := by
    rw [selectMessages_eq, List.map_map]
    rfl
  have hnodup : ((greedyMessages limits messages.reverse limits.maxTotalBytes).map
      fun entry ↦ entry.1.id).Nodup := by
    have hmap : (greedyMessages limits messages.reverse limits.maxTotalBytes).map
        (fun entry ↦ entry.1.id) = messages.reverse.map fun message ↦ message.id := by
      have hfst := @greedyMessages_fst limits messages.reverse limits.maxTotalBytes
      conv_rhs => rw [← hfst]
      rw [List.map_map]
      rfl
    rw [hmap, List.map_reverse]
    exact List.nodup_reverse.mpr hids
  constructor
  · intro table h
    unfold loadMessages at h
    obtain ⟨loaded, hloaded, htable⟩ := bind_eq_ok.mp h
    obtain rfl := Except.ok.inj htable
    have hpairs := of_mapM_eq_ok (hphases.symm.trans hloaded)
    have hloads := forall₂_zip (fun entry ↦ entry.1.id) hpairs fun entry hentry _ ↦
      loads_of_loadChoices (mem_greedyMessages hentry).2
    have hfinal : List.Forall₂ (Loads service limits)
        (greedyMessages limits messages.reverse limits.maxTotalBytes)
        ((((selectMessages limits messages.reverse limits.maxTotalBytes).map
          fun entry ↦ entry.1.id).zip loaded).foldl Table.put (Table.empty : LoadedTable)).rows := by
      rw [hkeys, rows_zip_put hnodup (by simp [hpairs.length_eq])]
      exact hloads
    refine ⟨hfinal, ?_⟩
    rw [map_bytesLoaded hfinal]
    exact greedyMessages_le _ htotal
  · intro hreadable
    have hloaded : ∃ loaded, (greedyMessages limits messages.reverse limits.maxTotalBytes).mapM
        (loadChoices service limits) = .ok loaded := by
      apply exists_mapM_eq_ok
      intro entry hentry
      obtain ⟨hmessage, hchoices⟩ := mem_greedyMessages hentry
      have hitems : ∃ items, entry.2.mapM (render service entry.1 limits) = .ok items := by
        apply exists_mapM_eq_ok
        intro choice hchoice
        have hpart : choice.1 ∈ entry.1.parts.filter isAttachmentPart :=
          hchoices ▸ List.mem_map_of_mem hchoice
        obtain ⟨hmem, hkind⟩ := List.mem_filter.mp hpart
        obtain ⟨attachment, hrow⟩ := (hstored entry.1 hmessage).rows choice.1 hmem hkind
        unfold render
        rw [hrow]
        cases htaken : choice.2 with
        | false => exact ⟨_, rfl⟩
        | true =>
          obtain ⟨result, hread⟩ := hreadable entry hentry choice hchoice htaken attachment hrow
          exact ⟨result.1, congrArg (Except.map Prod.fst) hread⟩
      obtain ⟨items, hitems⟩ := hitems
      unfold loadChoices
      rw [hitems]
      exact ⟨_, rfl⟩
    obtain ⟨loaded, hloaded⟩ := hloaded
    unfold loadMessages
    exact ⟨_, bind_of_ok (hphases.trans hloaded)⟩

section note

def notePart (id messageId position attachmentId : ℕ) (size : ℤ) : MessagePart where
  id
  tenantId := 1
  messageId
  position
  kind := .file
  attachmentId := some attachmentId
  contentType := some "text/plain"
  fileName := some "a.txt"
  sizeBytes := some size
  sha256 := some "h"
  createdAt := 0
  updatedAt := 0

def letterMessage (id clientMessageId : UUID) (parts : List MessagePart) : Message where
  id
  tenantId := 1
  conversationId := 3
  senderType := .user
  senderId := 2
  content := ""
  status := .completed
  clientMessageId := some clientMessageId
  createdAt := 0
  updatedAt := 0
  parts

def noteAttachment (id messageId clientMessageId : UUID) (size : ℤ) (objectKey : String) :
    Attachment where
  id
  tenantId := 1
  ownerId := 2
  conversationId := 3
  clientMessageId
  originalName := "a.txt"
  contentType := "text/plain"
  sizeBytes := size
  sha256 := "h"
  status := .attached
  createdAt := 0
  expiresAt := 0
  objectKey
  messageId := some messageId

def noteReaders : DocumentReaders where
  decodeUtf8 := fun _ ↦ some "a"
  loadsJson := fun _ ↦ true
  openImage := fun _ ↦ .error .badImage
  verifyImage := fun _ ↦ .error .badImage
  openZip := fun _ ↦ .error .badZipFile
  readMember := fun _ _ ↦ .error .badZipFile
  readName := fun _ _ ↦ .error .badZipFile
  fromString := fun _ ↦ .error .parseError
  pdfPages := fun _ ↦ .error .listed
  extractText := fun _ _ ↦ .error .listed

def noteService : MultimodalInputService where
  getAttachmentForUser attachmentId _ :=
    [noteAttachment 9 4 5 2 "long", noteAttachment 10 4 5 1 "short",
      noteAttachment 19 14 15 1 "short"].find? fun attachment ↦ attachment.id = attachmentId
  readObject objectKey _ :=
    .ok ⟨if objectKey = "long" then [97, 98] else [97], "text/plain", "h"⟩
  readers := noteReaders
  casefold := id
  userId := 2
  tenantId := 1

def twoLetters : List Message :=
  [letterMessage 4 5 [notePart 7 4 0 9 2, notePart 8 4 1 10 1],
    letterMessage 14 15 [notePart 17 14 0 19 1]]

def twoBytes : MultimodalInputLimits := ⟨0, 2, 2, 10, 1⟩

theorem twoLetters_stored : ∀ message ∈ twoLetters, StoredMessage noteService message := by
  have hordered : ∀ message ∈ twoLetters,
      message.parts.Pairwise fun a b ↦ a.position ≤ b.position := by decide
  have hsizes : ∀ message ∈ twoLetters, ∀ part ∈ message.parts, ∀ size ∈ part.sizeBytes,
      0 < size := by decide
  have hrows : ∀ message ∈ twoLetters, ∀ part ∈ message.parts,
      (noteService.referredAttachment message part).isOk = true := by decide +kernel
  refine fun message hmessage ↦ ⟨hordered message hmessage, hsizes message hmessage, ?_⟩
  intro part hpart _
  have hok := hrows message hmessage part hpart
  unfold RowMatches
  cases hreferred : noteService.referredAttachment message part with
  | error e =>
    rw [hreferred] at hok
    cases hok
  | ok attachment => exact ⟨attachment, rfl⟩

/-- The newer note comes first, and of the older ones only the short one has room. -/
theorem loadMessages_greedy_twoLetters :
    (greedyMessages twoBytes twoLetters.reverse twoBytes.maxTotalBytes).map
        (fun entry ↦ entry.2.map Prod.snd) = [[true], [false, true]] ∧
      ∃ loaded, noteService.loadMessages twoLetters twoBytes = .ok loaded ∧
        List.Forall₂ (Loads noteService twoBytes)
          (greedyMessages twoBytes twoLetters.reverse twoBytes.maxTotalBytes) loaded.rows ∧
        (loaded.rows.map fun entry ↦ entry.2.bytesLoaded).sum ≤ 2 := by
  have hgreedy : (greedyMessages twoBytes twoLetters.reverse twoBytes.maxTotalBytes).map
      (fun entry ↦ entry.2.map Prod.snd) = [[true], [false, true]] := by decide +kernel
  have hreadable : ∀ entry ∈ greedyMessages twoBytes twoLetters.reverse twoBytes.maxTotalBytes,
      ∀ choice ∈ entry.2, ∀ attachment ∈ (noteService.referredAttachment entry.1 choice.1).toOption,
        (noteService.readPart twoBytes choice.1 attachment).isOk = true := by decide +kernel
  obtain ⟨hsound, htotal⟩ := @loadMessages_greedy twoBytes noteService _ twoLetters_stored (by decide)
  obtain ⟨loaded, hloaded⟩ := htotal fun entry hentry choice hchoice _ attachment hrow ↦ by
    have hok := hreadable entry hentry choice hchoice attachment (by rw [hrow]; rfl)
    cases hread : noteService.readPart twoBytes choice.1 attachment with
    | error e =>
      rw [hread] at hok
      cases hok
    | ok result => exact ⟨result, rfl⟩
  exact ⟨hgreedy, loaded, hloaded, hsound loaded hloaded⟩

end note

end CyberNetizen.Attachments
