import Mathlib.Data.List.Induction
import Mathlib.Data.List.Range

namespace EventLog

universe u

variable {ε : Type u} (seq : ε → ℕ)

def Numbered (l : List ε) : Prop := l.map seq = List.range' 1 l.length

/-- At most `limit` of the events after a number. -/
def page (l : List ε) (after limit : ℕ) : List ε := (l.filter (after < seq ·)).take limit

structure Reader (ε : Type u) where
  lastSeen : ℕ
  received : List ε

def Reader.poll (r : Reader ε) (events : List ε) : Reader ε where
  lastSeen := (events.getLast?.map seq).getD r.lastSeen
  received := r.received ++ events

variable {seq} {l es : List ε} {e : ε} {cut limit : ℕ} {r : Reader ε}

theorem Numbered.nil : Numbered seq [] := rfl

theorem numbered_snoc : Numbered seq (l ++ [e]) ↔ Numbered seq l ∧ seq e = l.length + 1 := by
  unfold Numbered
  rw [List.map_append, List.length_append, List.length_singleton, List.range'_1_concat,
    List.map_singleton]
  constructor
  · intro h
    obtain ⟨hl, he⟩ := List.append_inj' h rfl
    exact ⟨hl, (List.singleton_inj.mp he).trans (Nat.add_comm _ _)⟩
  · rintro ⟨hl, he⟩
    rw [hl, he, Nat.add_comm]

theorem Numbered.filter_eq_drop (h : Numbered seq l) (after : ℕ) :
    l.filter (after < seq ·) = l.drop after := by
  induction l using List.reverseRecOn with
  | nil => rw [List.filter_nil, List.drop_nil]
  | append_singleton l e ih =>
    obtain ⟨hl, he⟩ := numbered_snoc.mp h
    rw [List.filter_append, ih hl, List.drop_append]
    congr 1
    by_cases hlt : after < seq e
    · have hzero : after - l.length = 0 := by omega
      simp [hlt, hzero]
    · have hpos : after - l.length = (after - l.length - 1) + 1 := by omega
      rw [hpos]
      simp [hlt]

theorem Numbered.page_eq (h : Numbered seq l) (after limit : ℕ) :
    page seq l after limit = (l.drop after).take limit := by
  unfold page
  rw [h.filter_eq_drop]

theorem Numbered.pairwise_lt (h : Numbered seq l) : l.Pairwise fun a b ↦ seq a < seq b := by
  have hlt : (l.map seq).Pairwise (· < ·) := by
    rw [show l.map seq = List.range' 1 l.length from h]
    exact List.pairwise_lt_range'
  exact List.pairwise_map.mp hlt

theorem Numbered.getLast?_take (h : Numbered seq l) {n : ℕ} (hn : n ≤ l.length) (hpos : 0 < n) :
    ((l.take n).getLast?).map seq = some n := by
  rw [← List.getLast?_map, List.map_take, show l.map seq = List.range' 1 l.length from h,
    List.take_range'_of_length_ge hn]
  obtain ⟨m, rfl⟩ := Nat.exists_eq_succ_of_ne_zero (Nat.ne_of_gt hpos)
  rw [List.range'_1_concat, List.getLast?_concat, Nat.add_comm]

/-- The reader has received the events after `cut` up to the last number that it has seen. -/
structure Synced (cut : ℕ) (l : List ε) (r : Reader ε) : Prop where
  cut_le : cut ≤ r.lastSeen
  seen_le : r.lastSeen ≤ l.length
  received : r.received = (l.take r.lastSeen).drop cut

theorem Synced.start (h : cut ≤ l.length) : Synced cut l ⟨cut, []⟩ where
  cut_le := Nat.le_refl cut
  seen_le := h
  received := by simp

theorem Synced.grow (h : Synced cut l r) (es : List ε) : Synced cut (l ++ es) r where
  cut_le := h.cut_le
  seen_le := Nat.le_trans h.seen_le (by simp)
  received := by rw [h.received, List.take_append_of_le_length h.seen_le]

/-- A poll moves the reader on by the page that it gets. -/
theorem Synced.poll (h : Synced cut l r) (hl : Numbered seq l) (limit : ℕ) :
    Synced cut l (r.poll seq (page seq l r.lastSeen limit)) ∧
      (r.poll seq (page seq l r.lastSeen limit)).lastSeen =
        r.lastSeen + min limit (l.length - r.lastSeen) := by
  have hlen : ((l.drop r.lastSeen).take limit).length = min limit (l.length - r.lastSeen) := by
    rw [List.length_take, List.length_drop]
  have hseen : (r.poll seq (page seq l r.lastSeen limit)).lastSeen =
      r.lastSeen + min limit (l.length - r.lastSeen) := by
    unfold Reader.poll
    rw [hl.page_eq]
    dsimp only
    cases hk : min limit (l.length - r.lastSeen) with
    | zero =>
      rw [hk] at hlen
      rw [List.length_eq_zero_iff.mp hlen]
      rfl
    | succ k =>
      have hne : (l.drop r.lastSeen).take limit ≠ [] := by
        intro he
        rw [he, hk] at hlen
        cases hlen
      have htake : l.take (r.lastSeen + (k + 1)) =
          l.take r.lastSeen ++ (l.drop r.lastSeen).take limit := by
        rw [List.take_add, ← hk, List.take_eq_take_min (i := limit), List.length_drop]
      have hlast := hl.getLast?_take (n := r.lastSeen + (k + 1)) (by omega) (by omega)
      rw [htake, List.getLast?_append_of_ne_nil _ hne] at hlast
      rw [hlast]
      rfl
  refine ⟨⟨?_, ?_, ?_⟩, hseen⟩
  · rw [hseen]
    exact Nat.le_trans h.cut_le (Nat.le_add_right _ _)
  · rw [hseen]
    have := h.seen_le
    omega
  · rw [hseen]
    unfold Reader.poll
    dsimp only
    rw [hl.page_eq, h.received, List.take_add, List.drop_append_of_le_length (by
      rw [List.length_take]
      have := h.seen_le
      have := h.cut_le
      omega)]
    rw [List.take_eq_take_min (i := limit), List.length_drop]

/-- Enough polls with positive limits deliver all that is there. -/
theorem Synced.polls (h : Synced cut l r) (hl : Numbered seq l) {limits : List ℕ}
    (hpos : ∀ limit ∈ limits, 0 < limit) (hmany : l.length - r.lastSeen ≤ limits.length) :
    (limits.foldl (fun r limit ↦ r.poll seq (page seq l r.lastSeen limit)) r).received =
      l.drop cut := by
  induction limits generalizing r with
  | nil =>
    have hall : r.lastSeen = l.length := by
      have := h.seen_le
      simp only [List.length_nil] at hmany
      omega
    rw [List.foldl_nil, h.received, hall, List.take_length]
  | cons limit limits ih =>
    obtain ⟨hsynced, hseen⟩ := h.poll hl limit
    have hlimit := hpos limit List.mem_cons_self
    rw [List.foldl_cons]
    refine ih hsynced (fun k hk ↦ hpos k (List.mem_cons_of_mem _ hk)) ?_
    rw [hseen]
    rw [List.length_cons] at hmany
    omega

end EventLog
