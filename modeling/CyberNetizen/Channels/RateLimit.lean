import CyberNetizen.Infrastructure.ChannelRepository
import CyberNetizen.Lib.Exclusive
import CyberNetizen.Lib.Quota

/-! # Rate limit reservations of one channel in one minute -/

namespace CyberNetizen.Channels

open Domain Infrastructure ChannelRepository KeyedTable Exclusive Quota

/-- A reservation in a minute. The limit is that of a stored channel instance. -/
structure RateLimitCall (window : ℕ) where
  limit : ℕ
  now : Datetime
  in_window : rateWindow now = window
  /-- `ck_channel_instances_rate_limit` -/
  limit_range : 1 ≤ limit ∧ limit ≤ 10000

variable {window : ℕ}

def usedCount (channelId : UUID) (window : ℕ) (s : ChannelStore) : ℕ :=
  ((s.rateWindows.find? (channelId, window)).map ChannelRateLimitWindow.usedCount).getD 0

/-- The statements of a reservation. In the database one upsert takes the lock of the row, or waits
for the transaction that inserts it, and holds it until the commit; in memory the counter is read and
then written under the lock of the repository. -/
def reservation (backend : Backend) (channelId : UUID) (call : RateLimitCall window) :
    Body ChannelStore Empty Bool :=
  match backend with
  | .sqlAlchemy => .statement
      (fun s ↦ (reserveRateLimit .sqlAlchemy channelId call.limit call.now s).2)
      fun s ↦ .done (reserveRateLimit .sqlAlchemy channelId call.limit call.now s).1
  | .inMemory => Body.select (usedCount channelId (rateWindow call.now)) fun used ↦
      if call.limit ≤ used then .done false
      else Body.execute
        (fun s ↦ { s with
          rateWindows := s.rateWindows.put ⟨channelId, rateWindow call.now, used + 1⟩ })
        (.done true)

abbrev Reserved (window : ℕ) := RateLimitCall window × Except Empty Bool

def isReserved (e : Reserved window) : Bool :=
  match e.2 with
  | .ok allowed => allowed
  | .error error => nomatch error

/-- The reservations that succeed keep the limit and use it up. -/
structure KeepsLimit (answers : List (Reserved window)) : Prop where
  at_most : ∀ limit, (∀ e ∈ answers, e.1.limit ≤ limit) → answers.countP isReserved ≤ limit
  exactly : ∀ limit, (∀ e ∈ answers, e.1.limit = limit) →
    answers.countP isReserved = min limit answers.length

section serial

variable {backend : Backend} {channelId : UUID} {s : ChannelStore}

theorem reserveRateLimit_takeUse (call : RateLimitCall window) :
    ((reserveRateLimit backend channelId call.limit call.now s).1,
        usedCount channelId window (reserveRateLimit backend channelId call.limit call.now s).2) =
      takeUse (usedCount channelId window s) call.limit := by
  obtain ⟨limit, now, rfl, hlimit, -⟩ := call
  unfold reserveRateLimit usedCount
  dsimp only
  cases hrow : s.rateWindows.find? (channelId, rateWindow now) with
  | none =>
    have hroom : takeUse 0 limit = (true, 1) := takeUse_room hlimit
    have hput := Table.find?_put s.rateWindows ⟨channelId, rateWindow now, 1⟩
      (channelId, rateWindow now)
    rw [windowKey, if_pos rfl] at hput
    dsimp only [Option.map, Option.getD]
    rw [if_neg fun h ↦ by omega, hput, hroom]
  | some row =>
    have hput := Table.find?_put s.rateWindows ⟨channelId, rateWindow now, row.usedCount + 1⟩
      (channelId, rateWindow now)
    rw [windowKey, if_pos rfl] at hput
    dsimp only [Option.map, Option.getD]
    by_cases hfull : limit ≤ row.usedCount
    · rw [if_pos hfull, takeUse_full hfull, hrow]
    · rw [if_neg hfull, takeUse_room (by omega), hput]

theorem exec_reservation (call : RateLimitCall window) :
    (reservation backend channelId call).exec s =
      .ok (reserveRateLimit backend channelId call.limit call.now s) := by
  cases backend with
  | sqlAlchemy => rfl
  | inMemory =>
    have hpositive := call.limit_range.1
    unfold reservation reserveRateLimit usedCount
    dsimp only
    rw [Body.exec_select]
    cases hrow : s.rateWindows.find? (channelId, rateWindow call.now) with
    | none =>
      dsimp only [Option.map, Option.getD]
      rw [if_neg (by omega), if_neg fun h ↦ by omega]
      rfl
    | some row =>
      dsimp only [Option.map, Option.getD]
      by_cases hfull : call.limit ≤ row.usedCount
      · rw [if_pos hfull, if_pos hfull]
        rfl
      · rw [if_neg hfull, if_neg hfull]
        rfl

theorem serial_reservation (call : RateLimitCall window) :
    serial (reservation backend channelId) s call =
      (.ok (reserveRateLimit backend channelId call.limit call.now s).1,
        (reserveRateLimit backend channelId call.limit call.now s).2) := by
  unfold serial
  rw [exec_reservation]

theorem outputs_serial (calls : List (RateLimitCall window)) :
    Machine.outputs (serial (reservation backend channelId)) s calls =
      (Machine.outputs takeUse (usedCount channelId window s)
        (calls.map RateLimitCall.limit)).map Except.ok := by
  induction calls generalizing s with
  | nil => rfl
  | cons call calls ih =>
    obtain ⟨hanswer, hused⟩ :=
      Prod.mk.inj (@reserveRateLimit_takeUse window backend channelId s call)
    rw [Machine.outputs, serial_reservation, ih, hanswer, hused]
    rfl

end serial

variable {ι : Type} [DecidableEq ι] {channelId : UUID}

/-- The answers of any interleaving are those of one counter, in the order in which the
reservations end. -/
theorem ended_reservation {backend : Backend} {s : ChannelStore}
    (hfresh : s.rateWindows.find? (channelId, window) = none)
    (as : List (Action ι (RateLimitCall window))) :
    (ended (reservation backend channelId) ⟨s, none⟩ as).map Prod.snd =
      (Machine.outputs takeUse 0 ((ended (reservation backend channelId) ⟨s, none⟩ as).map
        fun e ↦ e.1.limit)).map Except.ok := by
  have hunused : usedCount channelId window s = 0 := by
    unfold usedCount
    rw [hfresh]
    rfl
  rw [(run_serial (synced_start s) as).2, outputs_serial, hunused, List.map_map]
  rfl

theorem countP_isReserved {answers : List (Reserved window)} {bits : List Bool}
    (h : answers.map Prod.snd = bits.map Except.ok) :
    answers.countP isReserved = bits.count true := by
  have hbits : answers.map isReserved = bits := by
    have hread := congrArg
      (List.map fun a : Except Empty Bool ↦ match a with
        | .ok allowed => allowed
        | .error error => nomatch error) h
    rw [List.map_map, List.map_map] at hread
    exact hread.trans (List.map_id _)
  rw [← hbits, List.count, List.countP_map]
  apply List.countP_congr
  intro e _
  simp

/-- In every interleaving of the reservations of one channel in one minute, in both repositories, the
limit is kept and used up, and the two give the same answers to the same sequence. -/
theorem reservations_keepLimit {s : ChannelStore}
    (hfresh : s.rateWindows.find? (channelId, window) = none) :
    (∀ backend (as : List (Action ι (RateLimitCall window))),
      KeepsLimit (ended (reservation backend channelId) ⟨s, none⟩ as)) ∧
    ∀ as as' : List (Action ι (RateLimitCall window)),
      (ended (reservation .sqlAlchemy channelId) ⟨s, none⟩ as).map Prod.fst =
        (ended (reservation .inMemory channelId) ⟨s, none⟩ as').map Prod.fst →
      ended (reservation .sqlAlchemy channelId) ⟨s, none⟩ as =
        ended (reservation .inMemory channelId) ⟨s, none⟩ as' := by
  refine ⟨fun backend as ↦ ⟨fun limit hle ↦ ?_, fun limit heq ↦ ?_⟩, fun as as' hcalls ↦ ?_⟩
  · rw [countP_isReserved (ended_reservation hfresh as)]
    have hbound := @count_takeUse_le limit 0
      ((ended (reservation backend channelId) ⟨s, none⟩ as).map fun e ↦ e.1.limit)
      (List.forall_mem_map.mpr hle)
    omega
  · rw [countP_isReserved (ended_reservation hfresh as), @count_takeUse_eq limit 0
      ((ended (reservation backend channelId) ⟨s, none⟩ as).map fun e ↦ e.1.limit)
      (List.forall_mem_map.mpr heq), List.length_map, Nat.sub_zero]
  · have hlimits : (ended (reservation .sqlAlchemy channelId) ⟨s, none⟩ as).map
        (fun e ↦ e.1.limit) =
          (ended (reservation .inMemory channelId) ⟨s, none⟩ as').map fun e ↦ e.1.limit := by
      have hmapped := congrArg (List.map RateLimitCall.limit) hcalls
      rwa [List.map_map, List.map_map] at hmapped
    have hanswers : (ended (reservation .sqlAlchemy channelId) ⟨s, none⟩ as).map Prod.snd =
        (ended (reservation .inMemory channelId) ⟨s, none⟩ as').map Prod.snd := by
      rw [ended_reservation hfresh as, ended_reservation hfresh as', hlimits]
    rw [← List.zip_unzip (ended (reservation .sqlAlchemy channelId) ⟨s, none⟩ as), List.unzip_eq_map,
      hcalls, hanswers, ← List.unzip_eq_map, List.zip_unzip]

/-- Two reservations at once under a limit of one: the one that waits is refused. -/
theorem reservations_keepLimit_twice :
    KeepsLimit (ended (reservation .sqlAlchemy 7) ⟨ChannelStore.empty, none⟩
      [.begin 0 (⟨1, 5, rfl, by omega⟩ : RateLimitCall 0), .begin 1 ⟨1, 6, rfl, by omega⟩,
        .statement 0, .finish 0, .begin 1 ⟨1, 6, rfl, by omega⟩, .statement 1, .finish 1]) :=
  (reservations_keepLimit (Table.find?_empty _)).1 .sqlAlchemy _

end CyberNetizen.Channels
