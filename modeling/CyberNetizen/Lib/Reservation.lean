import Mathlib.Data.Nat.Notation

namespace Reservation

/-- What is stored for a message: nothing or a failure, a sender's reservation, or the sending. -/
inductive Status
  | vacant | reserved | settled
  deriving DecidableEq

def Status.released : Status → Status
  | .reserved => .vacant
  | status => status

namespace Status

theorem released_ne_reserved (status : Status) : status.released ≠ .reserved := by
  cases status <;> decide

theorem eq_settled_of_released {status : Status} (h : status.released = .settled) :
    status = .settled := by
  cases status with
  | vacant => exact h
  | reserved => cases h
  | settled => rfl

end Status

/-- A message that several senders may try to send: what is stored for it, the senders that hold
or have held the reservation and know of no acceptance, those that still have to record an
acceptance, and how often the receiver has accepted it. -/
structure Slot where
  status : Status
  holders : ℕ
  confirming : ℕ
  accepted : ℕ

inductive Move
  | stay
  | reserve
  /-- A holder stops without a record, its message accepted or not. -/
  | abandon (accepted : Bool)
  | confirm
  /-- The message is accepted and its sender goes on as if it were not. -/
  | misreport
  | release
  | settle
  | drop
  /-- A failure is recorded over the reservation by someone who does not hold it. -/
  | preempt
  deriving DecidableEq

def Move.isHonest : Move → Bool
  | .misreport | .preempt => false
  | _ => true

def Move.isAttended : Move → Bool
  | .abandon _ | .drop => false
  | _ => true

namespace Slot

inductive Moves : Move → Slot → Slot → Prop
  | stay {s} : Moves .stay s s
  | reserve {h c a} : Moves .reserve ⟨.vacant, h, c, a⟩ ⟨.reserved, h + 1, c, a⟩
  | abandon {st h c a} (accepted : Bool) :
      Moves (.abandon accepted) ⟨st, h + 1, c, a⟩ ⟨st, h, c, a + accepted.toNat⟩
  | confirm {st h c a} : Moves .confirm ⟨st, h + 1, c, a⟩ ⟨st, h, c + 1, a + 1⟩
  | misreport {st h c a} : Moves .misreport ⟨st, h + 1, c, a⟩ ⟨st, h + 1, c, a + 1⟩
  | release {st h c a} : Moves .release ⟨st, h + 1, c, a⟩ ⟨st.released, h, c, a⟩
  | settle {st h c a} : Moves .settle ⟨st, h, c + 1, a⟩ ⟨.settled, h, c, a⟩
  | drop {st h c a} : Moves .drop ⟨st, h, c + 1, a⟩ ⟨st, h, c, a⟩
  | preempt {h c a} : Moves .preempt ⟨.reserved, h, c, a⟩ ⟨.vacant, h, c, a⟩

/-- One unit is shared by the holders and the acceptances, and none is out while the message is
vacant. -/
structure AtMostOnce (s : Slot) : Prop where
  bound : s.holders + s.accepted ≤ 1
  vacant : s.status = .vacant → s.holders + s.accepted = 0

/-- A reservation has a sender, and what counts as sent has been accepted. -/
structure Attended (s : Slot) : Prop where
  reserved : s.status = .reserved → 0 < s.holders + s.confirming
  settled : s.status = .settled → 0 < s.accepted
  confirming : 0 < s.confirming → 0 < s.accepted

variable {m : Move} {s t : Slot}

theorem Moves.atMostOnce (hm : Moves m s t) (hm' : m.isHonest = true) (h : AtMostOnce s) :
    AtMostOnce t := by
  obtain ⟨hb, hv⟩ := h
  cases hm with
  | stay => exact ⟨hb, hv⟩
  | reserve =>
    have hz := hv rfl
    dsimp only at hz
    exact ⟨by dsimp only; omega, fun h ↦ nomatch h⟩
  | abandon accepted =>
    have ha : accepted.toNat ≤ 1 := Bool.toNat_le accepted
    dsimp only at hb
    refine ⟨by dsimp only; omega, fun h ↦ ?_⟩
    have hz := hv h
    dsimp only at hz
    omega
  | confirm =>
    dsimp only at hb
    refine ⟨by dsimp only; omega, fun h ↦ ?_⟩
    have hz := hv h
    dsimp only at hz
    omega
  | misreport => cases hm'
  | release =>
    -- the holder had the unit, so nothing is out any more
    dsimp only at hb
    exact ⟨by dsimp only; omega, fun _ ↦ by dsimp only; omega⟩
  | settle => exact ⟨hb, fun h ↦ nomatch h⟩
  | drop => exact ⟨hb, hv⟩
  | preempt => cases hm'

theorem Moves.attended (hm : Moves m s t) (hm' : m.isAttended = true) (h : Attended s) :
    Attended t := by
  obtain ⟨hr, hs, hc⟩ := h
  cases hm with
  | stay => exact ⟨hr, hs, hc⟩
  | reserve => exact ⟨fun _ ↦ by dsimp only; omega, fun h ↦ (nomatch h), hc⟩
  | abandon accepted => cases hm'
  | confirm =>
    exact ⟨fun _ ↦ by dsimp only; omega, fun _ ↦ Nat.succ_pos _, fun _ ↦ Nat.succ_pos _⟩
  | misreport => exact ⟨hr, fun _ ↦ Nat.succ_pos _, fun _ ↦ Nat.succ_pos _⟩
  | release =>
    exact ⟨fun h ↦ absurd h (Status.released_ne_reserved _),
      fun h ↦ hs (Status.eq_settled_of_released h), hc⟩
  | settle =>
    have ha := hc (Nat.succ_pos _)
    exact ⟨fun h ↦ (nomatch h), fun _ ↦ ha, fun _ ↦ ha⟩
  | drop => cases hm'
  | preempt => exact ⟨fun h ↦ (nomatch h), fun h ↦ (nomatch h), hc⟩

theorem Attended.vacant_of_idle (h : Attended s) (hh : s.holders = 0) (hc : s.confirming = 0)
    (ha : s.accepted = 0) : s.status = .vacant := by
  cases hs : s.status with
  | vacant => rfl
  | reserved =>
    have := h.reserved hs
    omega
  | settled =>
    have := h.settled hs
    omega

end Slot

end Reservation
