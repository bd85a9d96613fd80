import Mathlib.Data.List.TakeWhile
import CyberNetizen.Attachments.AttachmentRun

namespace CyberNetizen.Attachments

open Domain Infrastructure Infrastructure.AttachmentRepository Application
open Application.AttachmentService KeyedTable

section rows

variable {good : Attachment → Attachment → Prop} {table : AttachmentTable}

theorem becomes_updateWhere {p : Attachment → Bool} {f : Update Attachment.id}
    (hrefl : ∀ row, good row row) :
    Becomes good table (table.updateWhere p f) ↔
      ∀ row ∈ table, p row = true → good row (f row) := by
  constructor
  · intro h row hrow hp
    refine h row hrow (f row) ?_ (f.key_eq row)
    exact Table.mem_updateWhere.mpr ⟨row, hrow, if_pos hp⟩
  · intro h row hrow row' hrow' hid
    obtain ⟨old, hold, rfl⟩ := Table.mem_updateWhere.mp hrow'
    obtain rfl := Table.eq_of_key_eq hold hrow ((Table.key_update p f old).symm.trans hid)
    by_cases hp : p old = true
    · rw [if_pos hp]
      exact h old hold hp
    · rw [if_neg hp]
      exact hrefl old

theorem becomes_self (hrefl : ∀ row, good row row) : Becomes good table table := by
  intro row hrow row' hrow' hid
  rw [Table.eq_of_key_eq hrow' hrow hid]
  exact hrefl row

theorem becomes_createAttachment {attachment : Attachment} (hrefl : ∀ row, good row row) :
    Becomes good table (createAttachment table attachment) := by
  unfold createAttachment
  cases h : table.insert? attachment with
  | none => exact becomes_self hrefl
  | some table' =>
    obtain ⟨hfresh, -⟩ := Table.insert?_eq_some h
    intro row hrow row' hrow' hid
    rcases (Table.mem_insert? h).mp hrow' with hrow' | rfl
    · exact becomes_self hrefl row hrow row' hrow' hid
    · exact absurd hid.symm (hfresh row hrow)

theorem staysGone_refl (row : Attachment) : staysGone row row := by
  unfold staysGone IsGone IsOpen
  cases row.status <;> decide

theorem staysWithMessage_refl (row : Attachment) : staysWithMessage row row := fun _ ↦ rfl

/-- Which rows an update may write, if every open attachment had its object before. -/
theorem hasObjects_updateWhere {objects : ObjectTable} {p : Attachment → Bool}
    {f : Update Attachment.id} (hkey : ∀ row, (f row).objectKey = row.objectKey)
    (h : HasObjects ⟨table, objects⟩) :
    HasObjects ⟨table.updateWhere p f, objects⟩ ↔
      ∀ row ∈ table, p row = true → IsOpen (f row) → IsStored objects row.objectKey := by
  constructor
  · intro h' row hrow hp hopen
    rw [← hkey]
    exact h' (f row) (Table.mem_updateWhere.mpr ⟨row, hrow, if_pos hp⟩) hopen
  · intro h' row' hrow' hopen
    obtain ⟨row, hrow, rfl⟩ := Table.mem_updateWhere.mp hrow'
    by_cases hp : p row = true
    · rw [if_pos hp] at hopen ⊢
      rw [hkey]
      exact h' row hrow hp hopen
    · rw [if_neg hp] at hopen ⊢
      exact h row hrow hopen

theorem hasObjects_deleteObject {objects : ObjectTable} {objectKey : String}
    (h : HasObjects ⟨table, objects⟩) :
    HasObjects ⟨table, deleteObject objects objectKey⟩ ↔ IsUnused ⟨table, objects⟩ objectKey := by
  constructor
  · intro h' row hrow hopen hkey
    obtain ⟨item, hitem, hitemKey⟩ := h' row hrow hopen
    exact (mem_deleteObject.mp hitem).2 (hitemKey.trans hkey)
  · intro h' row hrow hopen
    obtain ⟨item, hitem, hitemKey⟩ := h row hrow hopen
    refine ⟨item, mem_deleteObject.mpr ⟨hitem, ?_⟩, hitemKey⟩
    rw [hitemKey]
    exact h' row hrow hopen

theorem hasObjects_put {objects : ObjectTable} {item : StoredObject}
    (h : HasObjects ⟨table, objects⟩) : HasObjects ⟨table, objects.put item⟩ := by
  intro row hrow hopen
  obtain ⟨old, hold, hkey⟩ := h row hrow hopen
  by_cases hsame : old.objectKey = item.objectKey
  · exact ⟨item, Table.mem_put.mpr (.inl rfl), hsame.symm.trans hkey⟩
  · exact ⟨old, Table.mem_put.mpr (.inr ⟨hold, hsame⟩), hkey⟩

end rows

section binding

variable {repository : AttachmentRepository} {message : Message} {userId : UUID} {now : Datetime}
  {table : AttachmentTable} {attachmentId : UUID} {attachmentIds : List UUID}

def bindRow (message : Message) (now : Datetime) : Update Attachment.id where
  toFun row := if isBound message row then row else bound message now row
  key_eq row := by split <;> rfl

theorem isBound_bindRow (row : Attachment) : isBound message (bindRow message now row) = true := by
  unfold bindRow
  dsimp only
  split
  · assumption
  · simp [isBound, bound]

theorem bindRow_bindRow (row : Attachment) :
    bindRow message now (bindRow message now row) = bindRow message now row :=
  if_pos (isBound_bindRow row)

theorem checkBinding_bindRow (row : Attachment) :
    checkBinding repository message userId (bindRow message now row) =
      checkBinding repository message userId row := by
  unfold bindRow
  dsimp only
  split
  · rfl
  · rfl

theorem canBind_updateWhere {bindable : Attachment → Bool}
    (h : ∀ row ∈ table, bindable row = true → isBound message row = true ∨ row.status = .ready) :
    canBind repository message userId (table.updateWhere bindable (bindRow message now))
      attachmentId = canBind repository message userId table attachmentId := by
  unfold canBind
  rw [Table.find?_updateWhere]
  cases hfind : table.find? attachmentId with
  | none => rfl
  | some row =>
    rw [Option.map_some, Option.any_some, Option.any_some]
    by_cases hrow : bindable row = true
    · have hready := h row (Table.mem_of_find? hfind) hrow
      simp only [hrow, if_true, checkBinding_bindRow, isBound_bindRow, true_or, and_true, hready]
    · rw [if_neg hrow]

theorem updateWhere_bindRow {p q : UUID → Bool} :
    (table.updateWhere (fun row ↦ p row.id) (bindRow message now)).updateWhere
        (fun row ↦ q row.id) (bindRow message now) =
      table.updateWhere (fun row ↦ p row.id || q row.id) (bindRow message now) := by
  apply Table.ext_rows
  refine List.map_map.trans (List.map_congr_left fun row _ ↦ ?_)
  have hid : (bindRow message now row).id = row.id := (bindRow message now).key_eq row
  cases hp : p row.id <;> cases hq : q row.id <;> simp [hp, hq, hid, bindRow_bindRow]

/-- One attachment of the loop: it is bound if it can be, or else the loop ends. -/
theorem bindOne_spec :
    (canBind repository message userId table attachmentId = true ∧
      ∃ row, bindOne repository message userId now table attachmentId = .ok (row,
        table.updateWhere (fun row ↦ row.id = attachmentId) (bindRow message now))) ∨
    (canBind repository message userId table attachmentId = false ∧
      ∃ e, bindOne repository message userId now table attachmentId = .error e) := by
  unfold canBind bindOne required
  cases hfind : table.find? attachmentId with
  | none => exact .inr ⟨rfl, _, rfl⟩
  | some row =>
    obtain ⟨hrow, hid⟩ := Table.find?_eq_some.mp hfind
    have honly : ∀ other ∈ table, other.id = attachmentId → other = row := by
      intro other hother hotherId
      exact Table.eq_of_key_eq hother hrow (hotherId.trans hid.symm)
    dsimp only [Option.any_some]
    cases hcheck : checkBinding repository message userId row with
    | error e => exact .inr ⟨by simp, _, rfl⟩
    | ok u =>
      by_cases hbound : isBound message row = true
      · refine .inl ⟨by simp [hbound], row, ?_⟩
        rw [if_pos hbound, Table.updateWhere_eq_self]
        intro other hother hotherId
        rw [honly other hother (of_decide_eq_true hotherId)]
        exact if_pos hbound
      · by_cases hready : row.status = .ready
        · have hwrite : write table attachmentId (bound message now) =
              table.updateWhere (fun row ↦ row.id = attachmentId) (bindRow message now) := by
            apply Table.ext_rows
            apply List.map_congr_left
            intro other hother
            by_cases hotherId : other.id = attachmentId
            · rw [honly other hother hotherId]
              simp [bindRow, hbound]
            · simp [hotherId]
          refine .inl ⟨by simp [hready], bound message now row, ?_⟩
          rw [if_neg hbound, if_neg (not_not.mpr hready), ← hwrite]
        · refine .inr ⟨by simp [hbound, hready], .conflict "附件尚未就绪", ?_⟩
          rw [if_neg hbound, if_pos hready]

/-- The loop binds what stands before the first attachment that cannot be bound, and succeeds if
there is none. -/
theorem bindEach_spec :
    (bindEach repository message userId now table attachmentIds).2 = table.updateWhere
        (fun row ↦ row.id ∈ attachmentIds.takeWhile (canBind repository message userId table))
        (bindRow message now) ∧
      ((bindEach repository message userId now table attachmentIds).1.isOk = true ↔
        attachmentIds.all (canBind repository message userId table) = true) := by
  induction attachmentIds generalizing table with
  | nil =>
    refine ⟨?_, iff_of_true rfl rfl⟩
    rw [Table.updateWhere_eq_self]
    · rfl
    · intro row _ hnil
      simp at hnil
  | cons attachmentId attachmentIds ih =>
    rcases @bindOne_spec repository message userId now table attachmentId with
      ⟨hcan, row, hone⟩ | ⟨hcan, e, hone⟩
    · have hready : ∀ row ∈ table, decide (row.id = attachmentId) = true →
          isBound message row = true ∨ row.status = .ready := by
        intro other hother hotherId
        unfold canBind at hcan
        rw [Table.find?_eq_some.mpr ⟨hother, of_decide_eq_true hotherId⟩, Option.any_some] at hcan
        exact (of_decide_eq_true hcan).2
      obtain ⟨htable, hresult⟩ := @ih (table.updateWhere (fun row ↦ row.id = attachmentId)
        (bindRow message now))
      have hsame : canBind repository message userId (table.updateWhere
          (fun row ↦ row.id = attachmentId) (bindRow message now)) =
          canBind repository message userId table := by
        funext other
        exact canBind_updateWhere hready
      rw [hsame] at htable hresult
      unfold bindEach
      rw [hone]
      refine ⟨?_, ?_⟩
      · dsimp only
        rw [htable, updateWhere_bindRow (p := fun id ↦ id = attachmentId) (q := fun id ↦
          id ∈ attachmentIds.takeWhile (canBind repository message userId table)),
          List.takeWhile_cons_of_pos hcan]
        simp only [List.mem_cons, Bool.decide_or]
      · dsimp only
        rw [List.all_cons, hcan, Bool.true_and, ← hresult]
        cases (bindEach repository message userId now (table.updateWhere
          (fun row ↦ row.id = attachmentId) (bindRow message now)) attachmentIds).1 with
        | error e => rfl
        | ok rows => rfl
    · unfold bindEach
      rw [hone]
      refine ⟨?_, ?_⟩
      · rw [List.takeWhile_cons_of_neg (by simp [hcan]), Table.updateWhere_eq_self]
        intro row _ hnil
        simp at hnil
      · simp [hcan, Except.isOk, Except.toBool]

theorem isBound_or_ready {row : Attachment} (hrow : row ∈ table)
    (h : canBind repository message userId table row.id = true) :
    isBound message row = true ∨ row.status = .ready := by
  unfold canBind at h
  rw [Table.find?_key hrow, Option.any_some] at h
  exact (of_decide_eq_true h).2

theorem isOpen_of_isBound {row : Attachment} (h : isBound message row = true) : IsOpen row := by
  unfold isBound at h
  rw [Bool.and_eq_true] at h
  unfold IsOpen
  rw [of_decide_eq_true h.1]
  decide

theorem isOpen_of_canBind {row : Attachment} (hrow : row ∈ table)
    (h : canBind repository message userId table row.id = true) : IsOpen row := by
  rcases isBound_or_ready hrow h with hbound | hready
  · exact isOpen_of_isBound hbound
  · unfold IsOpen
    rw [hready]
    decide

theorem messageId_of_isBound {row : Attachment} (h : isBound message row = true) :
    row.messageId = some message.id := by
  unfold isBound at h
  rw [Bool.and_eq_true] at h
  exact of_decide_eq_true h.2

theorem messageId_bindRow (row : Attachment) :
    (bindRow message now row).messageId = some message.id :=
  messageId_of_isBound (isBound_bindRow row)

theorem objectKey_bindRow (row : Attachment) :
    (bindRow message now row).objectKey = row.objectKey := by
  unfold bindRow
  dsimp only
  split
  · rfl
  · rfl

theorem binding_safe {objects : ObjectTable} (h : HasObjects ⟨table, objects⟩)
    (hcan : ∀ id ∈ attachmentIds, canBind repository message userId table id = true) :
    HasObjects ⟨table.updateWhere (fun row ↦ row.id ∈ attachmentIds) (bindRow message now), objects⟩ ∧
      Becomes staysGone table
        (table.updateWhere (fun row ↦ row.id ∈ attachmentIds) (bindRow message now)) := by
  constructor
  · rw [hasObjects_updateWhere objectKey_bindRow h]
    intro row hrow hid _
    exact h row hrow (isOpen_of_canBind hrow (hcan row.id (of_decide_eq_true hid)))
  · rw [becomes_updateWhere staysGone_refl]
    intro row hrow hid hgone
    exact absurd (isOpen_of_canBind hrow (hcan row.id (of_decide_eq_true hid)))
      (staysGone_refl row hgone)

theorem attach_all (hall : attachmentIds.all (canBind repository message userId table) = true) :
    (attachToMessage repository message userId now table attachmentIds).2 =
      table.updateWhere (fun row ↦ row.id ∈ attachmentIds) (bindRow message now) := by
  obtain ⟨htable, hresult⟩ := @bindEach_spec repository message userId now table attachmentIds
  rw [List.takeWhile_eq_self_iff.mpr (List.all_eq_true.mp hall)] at htable
  have hok := hresult.mpr hall
  unfold attachToMessage
  generalize bindEach repository message userId now table attachmentIds = r at htable hok
  obtain ⟨result, written⟩ := r
  cases result with
  | error e => cases hok
  | ok rows => exact htable

/-- Some attachment cannot be bound: the loop stops there. -/
theorem attach_some (hall : attachmentIds.all (canBind repository message userId table) ≠ true) :
    (attachToMessage repository message userId now table attachmentIds).2 =
      match repository with
      | .memory => table.updateWhere (fun row ↦
          row.id ∈ attachmentIds.takeWhile (canBind .memory message userId table))
          (bindRow message now)
      | .sqlAlchemy => table := by
  obtain ⟨htable, hresult⟩ := @bindEach_spec repository message userId now table attachmentIds
  have herror := mt hresult.mp hall
  unfold attachToMessage
  generalize bindEach repository message userId now table attachmentIds = r at htable herror
  obtain ⟨result, written⟩ := r
  cases result with
  | ok rows => exact absurd rfl herror
  | error e =>
    cases repository with
    | memory => exact htable
    | sqlAlchemy => rfl

/-- Which calls bind all or none and take no attachment from another message. -/
theorem attach_iff {objects : ObjectTable} (h : HasObjects ⟨table, objects⟩) :
    (let after := (attachToMessage repository message userId now table attachmentIds).2;
      HasObjects ⟨after, objects⟩ ∧ Becomes staysGone table after ∧
        Becomes staysWithMessage table after ∧
        BindsAllOrNone repository table after (.attaching userId message attachmentIds)) ↔
      MayAttach repository message userId attachmentIds table := by
  unfold MayAttach
  by_cases hall : attachmentIds.all (canBind repository message userId table) = true
  · rw [if_pos hall]
    dsimp only
    rw [attach_all hall]
    have hcan := List.all_eq_true.mp hall
    obtain ⟨hobjects, hgone⟩ := @binding_safe repository message userId now table attachmentIds
      objects h hcan
    have hbinds : BindsAllOrNone repository table
        (table.updateWhere (fun row ↦ row.id ∈ attachmentIds) (bindRow message now))
        (.attaching userId message attachmentIds) := by
      refine .inr fun id hid ↦ ?_
      have hid' := hcan id hid
      unfold canBind at hid'
      rw [Table.any_find?] at hid'
      obtain ⟨row, hrow, rfl, hcheck⟩ := hid'
      refine ⟨bindRow message now row, ?_, (bindRow message now).key_eq row, ?_, isBound_bindRow row⟩
      · exact Table.mem_updateWhere.mpr ⟨row, hrow, if_pos (decide_eq_true hid)⟩
      · rw [checkBinding_bindRow]
        exact (of_decide_eq_true hcheck).1
    rw [becomes_updateWhere staysWithMessage_refl]
    constructor
    · rintro ⟨-, -, hmessage, -⟩ row hrow hid hne
      have hstays := hmessage row hrow (decide_eq_true hid) hne
      rw [messageId_bindRow] at hstays
      exact hstays.symm
    · intro hmessage
      refine ⟨hobjects, hgone, ?_, hbinds⟩
      intro row hrow hid hne
      rw [messageId_bindRow]
      exact (hmessage row hrow (of_decide_eq_true hid) hne).symm
  · rw [if_neg hall]
    dsimp only
    rw [attach_some hall]
    cases repository with
    | sqlAlchemy =>
      exact iff_of_true ⟨h, becomes_self staysGone_refl, becomes_self staysWithMessage_refl,
        .inl rfl⟩ (.inl rfl)
    | memory =>
      dsimp only
      have hcan : ∀ id ∈ attachmentIds.takeWhile (canBind .memory message userId table),
          canBind .memory message userId table id = true := by
        intro id hid
        exact List.mem_takeWhile_imp hid
      constructor
      · rintro ⟨-, -, -, hsame | hbound⟩
        · right
          intro row hrow hid
          have hafter : bindRow message now row ∈ table := by
            rw [← Table.mem_rows, ← hsame]
            exact Table.mem_updateWhere.mpr ⟨row, hrow, if_pos (decide_eq_true hid)⟩
          rw [← Table.eq_of_key_eq hafter hrow ((bindRow message now).key_eq row)]
          exact isBound_bindRow row
        · refine absurd (List.all_eq_true.mpr fun id hid ↦ ?_) hall
          obtain ⟨row, hrow, hrowId, hcheck, hrowBound⟩ := hbound id hid
          have hsame := @canBind_updateWhere .memory message userId now table id
            (fun row ↦ row.id ∈ attachmentIds.takeWhile (canBind .memory message userId table))
            fun row hrow hid ↦ isBound_or_ready hrow (hcan row.id (of_decide_eq_true hid))
          rw [← hsame]
          unfold canBind
          rw [Table.any_find?]
          exact ⟨row, hrow, hrowId, decide_eq_true ⟨hcheck, .inl hrowBound⟩⟩
      · rintro (hkind | hbound)
        · cases hkind
        · rw [Table.updateWhere_eq_self fun row hrow hid ↦
            if_pos (hbound row hrow (of_decide_eq_true hid))]
          exact ⟨h, becomes_self staysGone_refl, becomes_self staysWithMessage_refl, .inl rfl⟩

end binding

section step

variable {repository : AttachmentRepository} {w : World} {s : AttachmentStore} {now : Datetime}

def Agrees (before after : AttachmentStore) : Prop :=
  HasObjects after ∧ Becomes staysGone before.attachments after.attachments ∧
    Becomes staysWithMessage before.attachments after.attachments

theorem agrees_self (h : HasObjects s) : Agrees s s :=
  ⟨h, becomes_self staysGone_refl, becomes_self staysWithMessage_refl⟩

theorem agrees_deleteObject (h : HasObjects s) {objectKey : String} :
    Agrees s { s with objects := deleteObject s.objects objectKey } ↔ IsUnused s objectKey := by
  constructor
  · intro hafter
    exact (hasObjects_deleteObject h).mp hafter.1
  · intro hunused
    exact ⟨(hasObjects_deleteObject h).mpr hunused, becomes_self staysGone_refl,
      becomes_self staysWithMessage_refl⟩

/-- A change of one row that keeps its object and its message. -/
theorem agrees_write (h : HasObjects s) {id : UUID} {f : Update Attachment.id}
    (hkey : ∀ row, (f row).objectKey = row.objectKey)
    (hmessage : ∀ row, (f row).messageId = row.messageId) :
    Agrees s { s with attachments := write s.attachments id f } ↔
      ∀ row ∈ s.attachments, row.id = id → IsOpen (f row) →
        ¬IsGone row ∧ IsStored s.objects row.objectKey := by
  unfold Agrees write
  rw [hasObjects_updateWhere hkey h, becomes_updateWhere staysGone_refl,
    becomes_updateWhere staysWithMessage_refl]
  simp only [decide_eq_true_eq]
  constructor
  · rintro ⟨hstored, hgone, -⟩ row hrow hid hopen
    exact ⟨fun hrowGone ↦ hgone row hrow hid hrowGone hopen, hstored row hrow hid hopen⟩
  · intro hall
    refine ⟨fun row hrow hid hopen ↦ (hall row hrow hid hopen).2, ?_, fun row _ _ _ ↦ hmessage row⟩
    intro row hrow hid hgone hopen
    exact (hall row hrow hid hopen).1 hgone

theorem agrees_close (h : HasObjects s) {id : UUID} {f : Update Attachment.id}
    (hkey : ∀ row, (f row).objectKey = row.objectKey)
    (hmessage : ∀ row, (f row).messageId = row.messageId) (hclosed : ∀ row, ¬IsOpen (f row)) :
    Agrees s { s with attachments := write s.attachments id f } :=
  (agrees_write h hkey hmessage).mpr fun row _ _ hopen ↦ absurd hopen (hclosed row)

theorem not_isOpen_rejected (reason : String) (row : Attachment) :
    ¬IsOpen (rejected reason row) := by
  simp [IsOpen, rejected]

theorem not_isOpen_deleted (now : Datetime) (row : Attachment) : ¬IsOpen (deleted now row) := by
  simp [IsOpen, deleted]

theorem agrees_reject (h : HasObjects s) (id : UUID) (reason : String) :
    Agrees s { s with attachments := (rejectAttachment s.attachments id reason).2 } := by
  unfold rejectAttachment
  cases required s.attachments id with
  | error e => exact agrees_self h
  | ok item => exact agrees_close h (fun _ ↦ rfl) (fun _ ↦ rfl) (not_isOpen_rejected reason)

theorem agrees_markDeleted (h : HasObjects s) (id userId : UUID) :
    Agrees s { s with attachments := (markAttachmentDeleted s.attachments id userId now).2 } := by
  unfold markAttachmentDeleted
  cases required s.attachments id with
  | error e => exact agrees_self h
  | ok item =>
    dsimp only
    split
    · exact agrees_self h
    · split
      · exact agrees_self h
      · exact agrees_close h (fun _ ↦ rfl) (fun _ ↦ rfl) (not_isOpen_deleted now)

theorem agrees_markReady (h : HasObjects s) {id : UUID} :
    Agrees s { s with attachments := (markAttachmentReady s.attachments id now).2 } ↔
      MayBeReady s id := by
  unfold markAttachmentReady required
  cases hfind : s.attachments.find? id with
  | none =>
    refine iff_of_true (agrees_self h) ?_
    intro row hrow hid
    exact absurd hid (Table.find?_eq_none.mp hfind row hrow)
  | some item =>
    refine (agrees_write h (fun _ ↦ rfl) (fun _ ↦ rfl)).trans ?_
    constructor
    · intro hall row hrow hid
      exact hall row hrow hid (by simp [IsOpen, readied])
    · intro hall row hrow hid _
      exact hall row hrow hid

/-- Which calls agree with the state that they find. -/
theorem advance_iff (h : HasObjects s) (phase : Phase) :
    (Agrees s (AttachmentService.advance repository now s phase).2 ∧
      BindsAllOrNone repository s.attachments
        (AttachmentService.advance repository now s phase).2.attachments phase) ↔
      MayCall repository s phase := by
  have hself := agrees_self h
  cases phase with
  | completing userId attachmentId =>
    refine iff_of_true ⟨?_, trivial⟩ trivial
    unfold AttachmentService.advance
    dsimp only
    split
    · exact hself
    · exact hself
  | checking item =>
    refine iff_of_true ⟨?_, trivial⟩ trivial
    unfold AttachmentService.advance
    dsimp only
    split_ifs
    · exact hself
    · exact hself
    · exact hself
    · exact hself
  | inspecting item =>
    refine iff_of_true ⟨?_, trivial⟩ trivial
    unfold AttachmentService.advance
    dsimp only
    split
    · exact hself
    · exact hself
    · split
      · exact hself
      · exact hself
  | readying attachmentId =>
    refine (and_iff_left trivial).trans ?_
    exact agrees_markReady h
  | rejecting item reason message =>
    refine iff_of_true ⟨?_, trivial⟩ trivial
    have hreject := agrees_reject h item.id reason
    unfold AttachmentService.advance
    dsimp only
    generalize rejectAttachment s.attachments item.id reason = r at hreject ⊢
    obtain ⟨result, attachments⟩ := r
    cases result with
    | error e => exact hreject
    | ok row => exact hreject
  | removingRejected objectKey message =>
    refine (and_iff_left trivial).trans ?_
    exact agrees_deleteObject h
  | deleting userId attachmentId =>
    refine iff_of_true ⟨?_, trivial⟩ trivial
    unfold AttachmentService.advance
    dsimp only
    split
    · exact hself
    · split
      · exact hself
      · exact hself
  | removingDeleted userId item =>
    refine (and_iff_left trivial).trans ?_
    exact agrees_deleteObject h
  | markingDeleted userId attachmentId =>
    exact iff_of_true ⟨agrees_markDeleted h attachmentId userId, trivial⟩ trivial
  | listing before limit => exact iff_of_true ⟨hself, trivial⟩ trivial
  | removingStale count item rest =>
    refine (and_iff_left trivial).trans ?_
    exact agrees_deleteObject h
  | markingStale count item rest =>
    refine iff_of_true ⟨?_, trivial⟩ trivial
    have hmark := @agrees_markDeleted s now h item.id item.ownerId
    unfold AttachmentService.advance
    dsimp only
    generalize markAttachmentDeleted s.attachments item.id item.ownerId now = r at hmark ⊢
    obtain ⟨result, attachments⟩ := r
    cases result with
    | error e => exact hmark
    | ok row => exact hmark
  | attaching userId message attachmentIds =>
    have hattach := @attach_iff repository message userId now s.attachments attachmentIds
      s.objects h
    unfold AttachmentService.advance
    dsimp only
    by_cases hnil : attachmentIds = []
    · rw [if_pos hnil]
      refine iff_of_true ⟨hself, .inl rfl⟩ ?_
      subst hnil
      unfold MayCall MayAttach
      simp
    · rw [if_neg hnil]
      refine Iff.trans ?_ hattach
      unfold Agrees
      rw [and_assoc, and_assoc]
  | returned answer => exact iff_of_true ⟨hself, trivial⟩ trivial
  | raised error => exact iff_of_true ⟨hself, trivial⟩ trivial
  | crashed => exact iff_of_true ⟨hself, trivial⟩ trivial

theorem agrees_createAttachment (h : HasObjects s) {attachment : Attachment}
    (hpending : attachment.status = .pending) :
    Agrees s { s with attachments := createAttachment s.attachments attachment } := by
  refine ⟨?_, becomes_createAttachment staysGone_refl,
    becomes_createAttachment staysWithMessage_refl⟩
  unfold createAttachment
  cases hinsert : s.attachments.insert? attachment with
  | none => exact h
  | some table =>
    intro row hrow hopen
    rcases (Table.mem_insert? hinsert).mp hrow with hrow | rfl
    · exact h row hrow hopen
    · unfold IsOpen at hopen
      rw [hpending] at hopen
      exact absurd hopen (by decide)

/-- Which steps agree with the state that they find. -/
theorem keeps_iff (h : HasObjects w.store) (a : Action) :
    Keeps repository w a ↔ Meets repository w a := by
  -- Only a call of a request can go wrong.
  have hquiet : callOf w a = none → Agrees w.store (step repository w a).2.store →
      (Keeps repository w a ↔ Meets repository w a) := by
    rintro hcall ⟨hobjects, hgone, hmessage⟩
    unfold Keeps Meets
    rw [hcall]
    refine iff_of_true ⟨hobjects, hgone, hmessage, ?_⟩ ?_
    · intro phase hphase
      cases hphase
    · intro phase hphase
      cases hphase
  have hself := agrees_self h
  cases a with
  | tick elapsed => exact hquiet rfl hself
  | reserve identity upload attachmentId =>
    exact hquiet rfl (agrees_createAttachment h rfl)
  | upload attachmentId =>
    refine hquiet rfl ?_
    unfold step
    dsimp only
    split
    · exact hself
    · exact ⟨hasObjects_put h, becomes_self staysGone_refl, becomes_self staysWithMessage_refl⟩
  | complete userId attachmentId => exact hquiet rfl hself
  | delete userId attachmentId => exact hquiet rfl hself
  | cleanupExpired limit => exact hquiet rfl hself
  | attachToMessage userId message attachmentIds => exact hquiet rfl hself
  | crash i =>
    refine hquiet rfl ?_
    unfold step
    dsimp only
    split
    · exact hself
    · exact hself
  | advance i =>
    cases hphase : w.requests[i]? with
    | none =>
      refine hquiet hphase ?_
      simp only [step, hphase]
      exact hself
    | some phase =>
      have hadvance := @advance_iff repository w.store w.now h phase
      have hstore : (step repository w (.advance i)).2.store =
          (AttachmentService.advance repository w.now w.store phase).2 := by
        simp only [step, hphase]
      have hcall : callOf w (.advance i) = some phase := hphase
      unfold Keeps Meets
      rw [hstore, hcall]
      simp only [Option.some.injEq, forall_eq']
      refine Iff.trans ?_ hadvance
      unfold Agrees
      rw [and_assoc, and_assoc]

theorem hasObjects_run {as : List Action}
    (h : Machine.Along (step repository) (Keeps repository) .start as) :
    HasObjects (Machine.run (step repository) .start as).store :=
  Machine.run_invariant (I := fun w : World ↦ HasObjects w.store)
    (fun _ _ _ hkeeps ↦ hkeeps.1) (fun _ hrow ↦ absurd hrow List.not_mem_nil) h

/-- Rows and objects agree along exactly the runs whose calls find what they rely on. -/
theorem rows_and_objects_agree_iff (repository : AttachmentRepository) (as : List Action) :
    Machine.Along (step repository) (Keeps repository) .start as ↔
      Machine.Along (step repository) (Meets repository) .start as := by
  have hiff : ∀ (as : List Action) (w : World), HasObjects w.store →
      (Machine.Along (step repository) (Keeps repository) w as ↔
        Machine.Along (step repository) (Meets repository) w as) := by
    intro as
    induction as with
    | nil => exact fun _ _ ↦ Iff.rfl
    | cons a as ih =>
      intro w h
      constructor
      · rintro ⟨hkeeps, hrest⟩
        exact ⟨(keeps_iff h a).mp hkeeps, (ih _ hkeeps.1).mp hrest⟩
      · rintro ⟨hmeets, hrest⟩
        have hkeeps := (keeps_iff h a).mpr hmeets
        exact ⟨hkeeps, (ih _ hkeeps.1).mpr hrest⟩
  exact hiff as .start fun _ hrow ↦ absurd hrow List.not_mem_nil

end step

section example_runs

def uploader : DevelopmentIdentity := ⟨1, 2, 3⟩

def note : Upload where
  conversationId := 5
  clientMessageId := 6
  originalName := "note.txt"
  safeObjectName := "content.txt"
  contentType := "text/plain"
  sizeBytes := 3
  sha256 := "ba7816bf8f01cfea414140de5dae2223b00361a396177a9cb410ff61f20015ad"
  expirySeconds := 900

def noteMessage : Message where
  id := 8
  tenantId := 1
  conversationId := 5
  senderType := .user
  senderId := 2
  content := "see the note"
  status := .completed
  clientMessageId := some 6
  createdAt := 0
  updatedAt := 0
  parts := []

def deletedWhileSent : List Action :=
  [.reserve uploader note 4, .upload 4, .complete 2 4, .advance 0, .advance 0, .advance 0,
    .advance 0, .delete 2 4, .advance 1, .attachToMessage 2 noteMessage [4], .advance 2, .advance 1,
    .advance 1]

/-- The message is sent, and its attachment has lost its object. -/
theorem sent_note_lost :
    ¬Machine.Along (step .memory) (Keeps .memory) .start deletedWhileSent ∧
      ¬Machine.Along (step .sqlAlchemy) (Keeps .sqlAlchemy) .start deletedWhileSent := by
  have hmemory : ¬HasObjects (Machine.run (step .memory) .start deletedWhileSent).store := by
    decide +kernel
  have hsql : ¬HasObjects (Machine.run (step .sqlAlchemy) .start deletedWhileSent).store := by
    decide +kernel
  exact ⟨fun h ↦ hmemory (hasObjects_run h), fun h ↦ hsql (hasObjects_run h)⟩

end example_runs

end CyberNetizen.Attachments
