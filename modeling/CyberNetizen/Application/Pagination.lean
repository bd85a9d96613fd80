import Mathlib.Data.Prod.Lex
import CyberNetizen.Domain.Channel
import CyberNetizen.Lib.Base64
import CyberNetizen.Lib.Checks
import CyberNetizen.Lib.Keyset

/-! # Opaque cursors and the pages that end with one -/

namespace CyberNetizen.Application.Pagination

open Domain

structure InvalidCursorError where
  message : String
  deriving DecidableEq

structure EntityCursor where
  occurredAt : Datetime
  entityId : UUID
  deriving DecidableEq

structure AuditCursor where
  occurredAt : Datetime
  recordId : ℕ
  deriving DecidableEq

section codec

/-- `text.split("|", maxsplit=1)`, which has to give two parts. -/
def splitBar (text : List Char) : Option (List Char × List Char) :=
  match text.dropWhile (· ≠ '|') with
  | [] => none
  | _ :: rest => some (text.takeWhile (· ≠ '|'), rest)

def encodeText (occurredAt : Datetime) (id : List Char) : String :=
  String.ofList (Base64.encodeUrlSafe (WireText.utf8 (WireText.isoText occurredAt ++ '|' :: id)))

def decodeText? (readId : List Char → Option ℕ) (value : String) : Option (Datetime × ℕ) := do
  let bytes ← Base64.decodeUrlSafe? value.toList
  let text ← WireText.utf8Text? bytes
  let (timestamp, id) ← splitBar text
  let occurredAt ← WireText.ofIsoText? timestamp
  let id ← readId id
  return (occurredAt, id)

def invalidCursor : InvalidCursorError := ⟨"分页游标无效"⟩

def encodeCursor (cursor : EntityCursor) : String :=
  encodeText cursor.occurredAt (WireText.uuidText cursor.entityId)

def decodeCursor : Option String → Except InvalidCursorError (Option EntityCursor)
  | none => .ok none
  | some value =>
    match decodeText? WireText.uuidOfText? value with
    | none => .error invalidCursor
    | some (occurredAt, entityId) => .ok (some ⟨occurredAt, entityId⟩)

/-- `int(record_id)`, which has to be at least one. -/
def recordIdOfText? (text : List Char) : Option ℕ :=
  ((IntText.ofText? 10 text).filter fun id ↦ 1 ≤ id).map Int.toNat

def encodeAuditCursor (cursor : AuditCursor) : String :=
  encodeText cursor.occurredAt (Nat.toDigits 10 cursor.recordId)

def decodeAuditCursor : Option String → Except InvalidCursorError (Option AuditCursor)
  | none => .ok none
  | some value =>
    match decodeText? recordIdOfText? value with
    | none => .error invalidCursor
    | some (occurredAt, recordId) => .ok (some ⟨occurredAt, recordId⟩)

end codec

/-- `_entity_page` and `_page`: the rows beyond the limit only tell that there are more. -/
def entityPage {ρ : Type} (cursorFor : ρ → String) (rows : List ρ) (limit : ℕ) :
    List ρ × Option String :=
  let visible := rows.take limit
  (visible, if limit < rows.length then visible.getLast?.map cursorFor else none)

section roundTrip

variable {t : Datetime} {id : ℕ} {text : List Char}

theorem splitBar_append {a b : List Char} (h : ∀ c ∈ a, c ≠ '|') :
    splitBar (a ++ '|' :: b) = some (a, b) := by
  have hkeep : ∀ c ∈ a, decide (c ≠ '|') = true := fun c hc ↦ decide_eq_true (h c hc)
  unfold splitBar
  rw [List.dropWhile_append_of_pos hkeep, List.takeWhile_append_of_pos hkeep]
  simp

/-- No time is written with a bar. -/
theorem isoText_ne_bar : ∀ c ∈ WireText.isoText t, c ≠ '|' := by
  have htext : ∀ {width n : ℕ}, ∀ c ∈ Digits.text 10 width n, c ≠ '|' := by
    have hdigit : ∀ d < 10, Nat.digitChar d ≠ '|' := by decide
    intro width n c hc
    obtain ⟨d, hd, rfl⟩ := List.mem_map.mp hc
    exact hdigit d (Digits.fixed_lt (by omega) width n d hd)
  have hzone : '|' ∉ "+00:00".toList := by decide
  unfold WireText.isoText
  dsimp only
  intro c hc
  simp only [List.mem_append, List.mem_cons] at hc
  rcases hc with hc | rfl | hc | rfl | hc | rfl | hc | rfl | hc | rfl | hc | hc | hc
  · exact htext c hc
  · decide
  · exact htext c hc
  · decide
  · exact htext c hc
  · decide
  · exact htext c hc
  · decide
  · exact htext c hc
  · decide
  · exact htext c hc
  · split at hc
    · exact absurd hc List.not_mem_nil
    · rcases List.mem_cons.mp hc with rfl | hc
      · decide
      · exact htext c hc
  · exact fun he ↦ hzone (he ▸ hc)

theorem decodeText?_encodeText {readId : List Char → Option ℕ}
    (ht : t < WireText.endOfDays * 86400000000) (hread : readId text = some id) :
    decodeText? readId (encodeText t text) = some (t, id) := by
  unfold decodeText? encodeText
  simp only [String.toList_ofList, Option.bind_eq_bind]
  rw [Base64.decodeUrlSafe?_encodeUrlSafe, Option.bind_some, WireText.utf8Text?_utf8,
    Option.bind_some, splitBar_append isoText_ne_bar, Option.bind_some,
    WireText.ofIsoText?_isoText ht, Option.bind_some, hread, Option.bind_some]
  rfl

theorem decodeCursor_encodeCursor {cursor : EntityCursor}
    (ht : cursor.occurredAt < WireText.endOfDays * 86400000000) (hid : cursor.entityId < 2 ^ 128) :
    decodeCursor (some (encodeCursor cursor)) = .ok (some cursor) := by
  unfold decodeCursor encodeCursor
  dsimp only
  rw [decodeText?_encodeText ht (WireText.uuidOfText?_uuidText hid)]

theorem recordIdOfText?_toDigits (h : 1 ≤ id) : recordIdOfText? (Nat.toDigits 10 id) = some id := by
  have hpos : decide ((1 : ℤ) ≤ id) = true := decide_eq_true (by exact_mod_cast h)
  unfold recordIdOfText?
  rw [IntText.ofText?_toDigits, Option.filter_some, if_pos hpos, Option.map_some, Int.toNat_natCast]

theorem decodeAuditCursor_encodeAuditCursor {cursor : AuditCursor}
    (ht : cursor.occurredAt < WireText.endOfDays * 86400000000) (hid : 1 ≤ cursor.recordId) :
    decodeAuditCursor (some (encodeAuditCursor cursor)) = .ok (some cursor) := by
  unfold decodeAuditCursor encodeAuditCursor
  dsimp only
  rw [decodeText?_encodeText ht (recordIdOfText?_toDigits hid)]

end roundTrip

end CyberNetizen.Application.Pagination
