import Mathlib.Data.List.Sort
import Mathlib.Data.List.Nodup

/-! # Pages of a listing, each asked for from the key where the one before it ended -/

namespace Keyset

variable {ρ κ τ ω ε : Type} [LinearOrder κ] (key : ρ → κ) (rows : List ρ)

def matching (keep : ρ → Bool) (after : Option κ) : List ρ :=
  (rows.filter fun r ↦ keep r && after.all fun k ↦ key r < k).insertionSort fun a b ↦ key b ≤ key a

def fetch (keep : ρ → Bool) (after : Option κ) (limit : ℕ) : List ρ :=
  (matching key rows keep after).take limit

def page (token : ρ → τ) (limit : ℕ) (keep : ρ → Bool) (after : Option κ) : List ρ × Option τ :=
  let fetched := fetch key rows keep after (limit + 1)
  let visible := fetched.take limit
  (visible, if limit < fetched.length then visible.getLast?.map token else none)

/-- Following the tokens from a page on, at most `fuel` pages. The pages are numbered, since what they
keep and show may depend on when they are asked for. -/
def walk (pages : ℕ → Option τ → Except ε (List ω × Option τ)) :
    ℕ → ℕ → Option τ → Option (List (List ω))
  | 0, _, _ => none
  | fuel + 1, n, token =>
    match pages n token with
    | .error _ => none
    | .ok (items, none) => some [items]
    | .ok (items, some next) => (walk pages fuel (n + 1) (some next)).map (items :: ·)

/-- A service that answers with such pages, shown as `view` shows them. -/
structure Serves (pages : ℕ → Option τ → Except ε (List ω × Option τ)) (token : ρ → τ) (limit : ℕ)
    (keep : ℕ → ρ → Bool) (view : ℕ → ρ → ω) : Prop where
  first : ∀ n, pages n none =
    let p := page key rows token limit (keep n) none
    .ok (p.1.map (view n), p.2)
  next : ∀ n, ∀ r ∈ rows, pages n (some (token r)) =
    let p := page key rows token limit (keep n) (some (key r))
    .ok (p.1.map (view n), p.2)

/-- The pages from the `n`th on, as they are shown. -/
def shown (view : ℕ → ρ → ω) : ℕ → List (List ρ) → List (List ω)
  | _, [] => []
  | n, p :: ps => p.map (view n) :: shown view (n + 1) ps

def Kept (keep : ℕ → ρ → Bool) : ℕ → List (List ρ) → Prop
  | _, [] => True
  | n, p :: ps => (∀ r ∈ p, keep n r = true) ∧ Kept keep (n + 1) ps

/-- What the pages of a walk hold. -/
structure Complete (limit : ℕ) (keep : ℕ → ρ → Bool) (n : ℕ) (after : Option κ)
    (ps : List (List ρ)) : Prop where
  sorted : ps.flatten.Pairwise fun a b ↦ key b < key a
  mem : ∀ r ∈ ps.flatten, r ∈ rows ∧ (after.all fun k ↦ key r < k) = true
  kept : Kept keep n ps
  complete : ∀ r ∈ rows, keep n r = true → (after.all fun k ↦ key r < k) = true → r ∈ ps.flatten
  bounded : ∀ p ∈ ps, p.length ≤ limit
  nonempty : ∀ p ∈ ps.tail, p ≠ []
  head : (∃ r ∈ rows, keep n r = true ∧ (after.all fun k ↦ key r < k) = true) →
    ∀ p ∈ ps.head?, p ≠ []

section sorted

variable {key rows} {keep : ρ → Bool} {after : Option κ} {r : ρ}

theorem mem_matching :
    r ∈ matching key rows keep after ↔
      r ∈ rows ∧ keep r = true ∧ (after.all fun k ↦ key r < k) = true := by
  unfold matching
  rw [List.mem_insertionSort, List.mem_filter, Bool.and_eq_true]

theorem matching_sorted (hkey : (rows.map key).Nodup) :
    (matching key rows keep after).Pairwise fun a b ↦ key b < key a := by
  have hperm := List.perm_insertionSort (fun a b : ρ ↦ key b ≤ key a)
    (rows.filter fun r ↦ keep r && after.all fun k ↦ key r < k)
  have hnodup : ((matching key rows keep after).map key).Nodup :=
    (hperm.map key).nodup_iff.mpr ((List.filter_sublist.map key).nodup hkey)
  have hle : (matching key rows keep after).Pairwise fun a b ↦ key b ≤ key a := by
    have : Std.Total fun a b : ρ ↦ key b ≤ key a := ⟨fun a b ↦ le_total (key b) (key a)⟩
    have : IsTrans ρ fun a b ↦ key b ≤ key a := ⟨fun a b c hab hbc ↦ hbc.trans hab⟩
    exact List.pairwise_insertionSort _ _
  have hne : (matching key rows keep after).Pairwise fun a b ↦ key a ≠ key b :=
    List.pairwise_map.mp hnodup
  exact (hle.and hne).imp fun h ↦ lt_of_le_of_ne h.1 h.2.symm

theorem mem_drop_of_lt {l : List ρ} (hl : l.Pairwise fun a b ↦ key b < key a) {n : ℕ} {last : ρ}
    (hlast : (l.take n).getLast? = some last) :
    (∀ a ∈ l.take n, key last ≤ key a) ∧ ∀ a ∈ l.drop n, key a < key last := by
  have hmem : last ∈ l.take n := List.mem_of_getLast? hlast
  obtain ⟨init, hinit⟩ : ∃ init, l.take n = init ++ [last] :=
    List.getLast?_eq_some_iff.mp hlast
  constructor
  · intro a ha
    have htake := hl.sublist (List.take_sublist n l)
    rw [hinit] at htake ha
    rcases List.mem_append.mp ha with ha | ha
    · exact (List.pairwise_append.mp htake).2.2 a ha last (List.mem_singleton_self last) |>.le
    · rw [List.mem_singleton.mp ha]
  · intro a ha
    rw [← List.take_append_drop n l] at hl
    exact (List.pairwise_append.mp hl).2.2 last hmem a ha

end sorted

section walk

variable {key rows} {pages : ℕ → Option τ → Except ε (List ω × Option τ)} {token : ρ → τ}
  {limit : ℕ} {keep : ℕ → ρ → Bool} {view : ℕ → ρ → ω} {n : ℕ} {after : Option κ}

/-- A page is the whole rest of the listing, or another one follows it. -/
theorem page_cases (token : ρ → τ) (hkey : (rows.map key).Nodup) (hlimit : 0 < limit) (keep : ρ → Bool)
    (after : Option κ) :
    page key rows token limit keep after = (matching key rows keep after, none) ∧
        (matching key rows keep after).length ≤ limit ∨
      ∃ last rest, rest ≠ [] ∧ last ∈ rows ∧ (after.all fun k ↦ key last < k) = true ∧
        (∃ visible, page key rows token limit keep after = (visible, some (token last)) ∧
          matching key rows keep after = visible ++ rest ∧ visible.length = limit ∧
          (∀ a ∈ visible, key last ≤ key a) ∧ ∀ a ∈ rest, key a < key last) := by
  have hsorted : (matching key rows keep after).Pairwise fun a b ↦ key b < key a :=
    matching_sorted hkey
  generalize hl : matching key rows keep after = l at hsorted
  have htake : (l.take (limit + 1)).take limit = l.take limit := by
    rw [List.take_take]
    congr 1
    omega
  unfold page fetch
  simp only [hl, htake]
  by_cases hlong : limit < l.length
  · refine .inr ?_
    have hpos : l.take limit ≠ [] := by
      intro hnil
      have hlen := congrArg List.length hnil
      rw [List.length_take, List.length_nil] at hlen
      omega
    obtain ⟨last, hlast⟩ : ∃ last, (l.take limit).getLast? = some last :=
      ⟨_, List.getLast?_eq_some_getLast hpos⟩
    obtain ⟨hvisible, hrest⟩ := mem_drop_of_lt hsorted hlast
    have hmem : last ∈ matching key rows keep after := by
      rw [hl]
      exact List.mem_of_mem_take (List.mem_of_getLast? hlast)
    obtain ⟨hrow, -, hafter⟩ := mem_matching.mp hmem
    refine ⟨last, l.drop limit, ?_, hrow, hafter, l.take limit, ?_,
      (List.take_append_drop limit l).symm, ?_, hvisible, hrest⟩
    · rw [ne_eq, List.drop_eq_nil_iff]
      omega
    · rw [List.length_take, if_pos (by omega), hlast]
      rfl
    · rw [List.length_take]
      omega
  · refine .inl ⟨?_, by omega⟩
    rw [List.length_take, if_neg (by omega), List.take_of_length_le (by omega)]

/-- Following the tokens ends, and gives every row that is kept when it is asked for exactly once and
in order. -/
theorem walk_complete (hserves : Serves key rows pages token limit keep view)
    (hkey : (rows.map key).Nodup) (hlimit : 0 < limit)
    (hkeep : ∀ n r, keep n r = true → keep (n + 1) r = true) (fuel : ℕ) :
    ∀ n (start : Option ρ), (∀ r ∈ start, r ∈ rows) →
      (rows.filter fun r ↦ (start.map key).all fun k ↦ key r < k).length < fuel →
      ∃ ps, walk pages fuel n (start.map token) = some (shown view n ps) ∧
        Complete key rows limit keep n (start.map key) ps := by
  induction fuel with
  | zero => exact fun n start _ h ↦ absurd h (Nat.not_lt_zero _)
  | succ fuel ih =>
    intro n start hstart hfuel
    have hpage : pages n (start.map token) =
        .ok ((page key rows token limit (keep n) (start.map key)).1.map (view n),
          (page key rows token limit (keep n) (start.map key)).2) := by
      cases start with
      | none => exact hserves.first n
      | some r => exact hserves.next n r (hstart r rfl)
    have hsorted : (matching key rows (keep n) (start.map key)).Pairwise fun a b ↦ key b < key a :=
      matching_sorted hkey
    rcases page_cases token hkey hlimit (keep n) (start.map key) with
      ⟨hlast, hshort⟩ | ⟨last, rest, hrest, hrow, hafter, visible, hvisible, hsplit, hlength, hge, hlt⟩
    · refine ⟨[matching key rows (keep n) (start.map key)], ?_, ?_⟩
      · simp only [walk, hpage, hlast, shown]
      · refine ⟨?_, fun r hr ↦ ?_, ⟨fun r hr ↦ (mem_matching.mp hr).2.1, trivial⟩,
          fun r hr hk ha ↦ ?_, fun p hp ↦ ?_, fun p hp ↦ absurd hp List.not_mem_nil, ?_⟩
        · rwa [List.flatten_singleton]
        · rw [List.flatten_singleton] at hr
          obtain ⟨hr, -, ha⟩ := mem_matching.mp hr
          exact ⟨hr, ha⟩
        · rw [List.flatten_singleton]
          exact mem_matching.mpr ⟨hr, hk, ha⟩
        · rw [List.mem_singleton.mp hp]
          exact hshort
        · rintro ⟨r, hr, hk, ha⟩ p hp
          obtain rfl := Option.some.inj hp
          exact List.ne_nil_of_mem (mem_matching.mpr ⟨hr, hk, ha⟩)
    · have hchain : ∀ r, key r < key last → ((start.map key).all fun k ↦ key r < k) = true := by
        intro r hr
        rw [Option.all_eq_true] at hafter ⊢
        exact fun k hk ↦ decide_eq_true (hr.trans (of_decide_eq_true (hafter k hk)))
      -- fewer rows come after the last one shown
      have hfewer : (rows.filter fun r ↦ ((some last).map key).all fun k ↦ key r < k).length <
          fuel := by
        refine lt_of_lt_of_le ?_ (Nat.le_of_lt_succ hfuel)
        have hsub : (rows.filter fun r ↦ ((some last).map key).all fun k ↦ key r < k) =
            (rows.filter fun r ↦ (start.map key).all fun k ↦ key r < k).filter fun r ↦
              ((some last).map key).all fun k ↦ key r < k := by
          rw [List.filter_filter]
          refine List.filter_congr fun r hr ↦ ?_
          by_cases hlast : key r < key last
          · simp [hlast, hchain r hlast]
          · simp [hlast]
        rw [hsub, List.length_filter_lt_length_iff_exists]
        exact ⟨last, List.mem_filter.mpr ⟨hrow, hafter⟩, by simp⟩
      obtain ⟨ps, hwalk, hps⟩ := ih (n + 1) (some last)
        (fun r hr ↦ Option.some.inj hr ▸ hrow) hfewer
      have hbeyond : ∀ r ∈ ps.flatten, key r < key last := fun r hr ↦ by
        have hr' := (hps.mem r hr).2
        simpa using hr'
      have hrest' : ∀ r ∈ rest, r ∈ rows ∧ keep n r = true ∧ key r < key last := fun r hr ↦ by
        have hmem : r ∈ matching key rows (keep n) (start.map key) := by
          rw [hsplit]
          exact List.mem_append_right _ hr
        obtain ⟨hr', hk, -⟩ := mem_matching.mp hmem
        exact ⟨hr', hk, hlt r hr⟩
      have hvis : ∀ r ∈ visible, r ∈ rows ∧ keep n r = true ∧
          ((start.map key).all fun k ↦ key r < k) = true := fun r hr ↦
        mem_matching.mp (by rw [hsplit]; exact List.mem_append_left _ hr)
      rw [hsplit] at hsorted
      refine ⟨visible :: ps, ?_, ?_⟩
      · rw [walk, hpage, hvisible]
        dsimp only
        rw [← Option.map_some, hwalk]
        rfl
      · refine ⟨?_, fun r hr ↦ ?_, ⟨fun r hr ↦ (hvis r hr).2.1, hps.kept⟩, fun r hr hk ha ↦ ?_,
          fun p hp ↦ ?_, fun p hp ↦ ?_, fun _ p hp ↦ ?_⟩
        · rw [List.flatten_cons, List.pairwise_append]
          refine ⟨(List.pairwise_append.mp hsorted).1, hps.sorted, fun a ha b hb ↦ ?_⟩
          exact (hbeyond b hb).trans_le (hge a ha)
        · rw [List.flatten_cons] at hr
          rcases List.mem_append.mp hr with hr | hr
          · exact ⟨(hvis r hr).1, (hvis r hr).2.2⟩
          · exact ⟨(hps.mem r hr).1, hchain r (hbeyond r hr)⟩
        · rw [List.flatten_cons]
          have hmem : r ∈ matching key rows (keep n) (start.map key) :=
            mem_matching.mpr ⟨hr, hk, ha⟩
          rw [hsplit] at hmem
          rcases List.mem_append.mp hmem with hmem | hmem
          · exact List.mem_append_left _ hmem
          · exact List.mem_append_right _
              (hps.complete r hr (hkeep n r hk) (by simpa using hlt r hmem))
        · rcases List.mem_cons.mp hp with rfl | hp
          · exact hlength.le
          · exact hps.bounded p hp
        · rw [List.tail_cons] at hp
          cases ps with
          | nil => exact absurd hp List.not_mem_nil
          | cons q ps =>
            rcases List.mem_cons.mp hp with rfl | hp
            · obtain ⟨r, hr⟩ := List.exists_mem_of_ne_nil rest hrest
              obtain ⟨hrow', hk, hlt'⟩ := hrest' r hr
              exact hps.head ⟨r, hrow', hkeep n r hk, by simpa using hlt'⟩ p rfl
            · exact hps.nonempty p hp
        · obtain rfl := Option.some.inj hp
          rw [ne_eq, ← List.length_eq_zero_iff, hlength]
          omega

theorem shown_id (n : ℕ) (ps : List (List ρ)) : shown (fun _ ↦ id) n ps = ps := by
  induction ps generalizing n with
  | nil => rfl
  | cons p ps ih => rw [shown, ih, List.map_id]

theorem getElem?_shown (n i : ℕ) (ps : List (List ρ)) :
    (shown view n ps)[i]? = ps[i]?.map (List.map (view (n + i))) := by
  induction ps generalizing n i with
  | nil => rfl
  | cons p ps ih =>
    cases i with
    | zero => rfl
    | succ i => rw [shown, List.getElem?_cons_succ, ih, List.getElem?_cons_succ, Nat.add_right_comm,
        Nat.add_assoc]

theorem map_flatten_shown {ν : Type} {g : ω → ν} {g' : ρ → ν} {ps : List (List ρ)}
    (h : ∀ n, ∀ r ∈ ps.flatten, g (view n r) = g' r) (n : ℕ) :
    (shown view n ps).flatten.map g = ps.flatten.map g' := by
  induction ps generalizing n with
  | nil => rfl
  | cons p ps ih =>
    rw [shown, List.flatten_cons, List.flatten_cons, List.map_append, List.map_append, List.map_map,
      ih fun n r hr ↦ h n r (List.mem_append_right _ hr)]
    exact congrArg (· ++ _) (List.map_congr_left fun r hr ↦ h n r (List.mem_append_left _ hr))

theorem Kept.getElem? {keep : ℕ → ρ → Bool} {ps : List (List ρ)} (h : Kept keep n ps) {i : ℕ}
    {p : List ρ} (hp : ps[i]? = some p) : ∀ r ∈ p, keep (n + i) r = true := by
  induction ps generalizing n i with
  | nil => cases hp
  | cons q ps ih =>
    cases i with
    | zero =>
      obtain rfl := Option.some.inj hp
      exact h.1
    | succ i =>
      rw [← Nat.add_assoc, Nat.add_right_comm]
      exact ih h.2 hp

/-- A service that shows its pages in another way is walked in the same way. -/
theorem walk_map {pages' : ℕ → Option τ → Except ε (List ω × Option τ)} {f : List ω → List ω}
    (h : ∀ n token, pages' n token = (pages n token).map fun p ↦ (f p.1, p.2)) (fuel : ℕ) :
    ∀ n token, walk pages' fuel n token = (walk pages fuel n token).map (List.map f) := by
  induction fuel with
  | zero => exact fun n token ↦ rfl
  | succ fuel ih =>
    intro n token
    rw [walk, walk, h]
    cases pages n token with
    | error e => rfl
    | ok p =>
      obtain ⟨items, next⟩ := p
      cases next with
      | none => rfl
      | some next =>
        simp only [Except.map, ih, Option.map_map]
        rfl

theorem Kept.of_mem {keep : ρ → Bool} {ps : List (List ρ)} (h : Kept (fun _ ↦ keep) n ps) :
    ∀ r ∈ ps.flatten, keep r = true := by
  induction ps generalizing n with
  | nil => exact fun r hr ↦ absurd hr List.not_mem_nil
  | cons p ps ih =>
    intro r hr
    rw [List.flatten_cons] at hr
    rcases List.mem_append.mp hr with hr | hr
    · exact h.1 r hr
    · exact ih h.2 r hr

theorem Complete.flatten_eq {keep : ρ → Bool} {ps : List (List ρ)} (hkey : (rows.map key).Nodup)
    (h : Complete key rows limit (fun _ ↦ keep) n none ps) :
    ps.flatten = matching key rows keep none := by
  have hsorted : (matching key rows keep none).Pairwise fun a b ↦ key b < key a :=
    matching_sorted hkey
  have hne : ∀ {a b : ρ}, key b < key a → a ≠ b := fun hlt heq ↦ absurd (heq ▸ hlt) (lt_irrefl _)
  have hperm : ps.flatten.Perm (matching key rows keep none) := by
    rw [List.perm_ext_iff_of_nodup (h.sorted.imp hne) (hsorted.imp hne)]
    refine fun r ↦ ⟨fun hr ↦ ?_, fun hr ↦ ?_⟩
    · exact mem_matching.mpr ⟨(h.mem r hr).1, h.kept.of_mem r hr, rfl⟩
    · obtain ⟨hr, hk, ha⟩ := mem_matching.mp hr
      exact h.complete r hr hk ha
  refine hperm.eq_of_pairwise (fun a b _ _ hab hba ↦ absurd (hab.trans hba) (lt_irrefl _)) h.sorted
    hsorted

end walk

section views

variable {rows : List ρ} {key : ρ → κ} {present keep : ρ → Bool} {f : ρ → ρ} {after : Option κ}

/-- Rows that are there already, as they are then, are fetched like rows of the later listing. -/
theorem fetch_map (hkey : ∀ r ∈ rows, present r = true → key (f r) = key r)
    (hkeep : ∀ r ∈ rows, present r = true → keep (f r) = keep r) (limit : ℕ) :
    fetch key ((rows.filter present).map f) keep after limit =
      (fetch key rows (fun r ↦ present r && keep r) after limit).map f := by
  have hfilter : ((rows.filter present).map f).filter
      (fun r ↦ keep r && after.all fun k ↦ key r < k) =
      (rows.filter fun r ↦ present r && keep r && after.all fun k ↦ key r < k).map f := by
    rw [List.filter_map, List.filter_filter]
    refine congrArg (List.map f) (List.filter_congr fun r hr ↦ ?_)
    cases hp : present r with
    | false => simp
    | true => simp [hkey r hr hp, hkeep r hr hp]
  have hmem : ∀ r ∈ rows.filter (fun r ↦ present r && keep r && after.all fun k ↦ key r < k),
      key (f r) = key r := by
    intro r hr
    obtain ⟨hrow, hr⟩ := List.mem_filter.mp hr
    simp only [Bool.and_eq_true] at hr
    exact hkey r hrow hr.1.1
  unfold fetch matching
  rw [hfilter, List.map_take]
  refine congrArg (List.take limit) (List.map_insertionSort _ _ f _ fun a ha b hb ↦ ?_).symm
  rw [hmem a ha, hmem b hb]

theorem page_map (hkey : ∀ r ∈ rows, present r = true → key (f r) = key r)
    (hkeep : ∀ r ∈ rows, present r = true → keep (f r) = keep r) {token : ρ → τ}
    (htoken : ∀ r ∈ rows, present r = true → token (f r) = token r) (limit : ℕ) :
    page key ((rows.filter present).map f) token limit keep after =
      let p := page key rows token limit (fun r ↦ present r && keep r) after
      (p.1.map f, p.2) := by
  have hlast : ∀ r, ((fetch key rows (fun r ↦ present r && keep r) after (limit + 1)).take
      limit).getLast? = some r → token (f r) = token r := by
    intro r hr
    have hmem := List.mem_of_mem_take (List.mem_of_mem_take (List.mem_of_getLast? hr))
    obtain ⟨hrow, hkept, -⟩ := mem_matching.mp hmem
    rw [Bool.and_eq_true] at hkept
    exact htoken r hrow hkept.1
  unfold page
  dsimp only
  rw [fetch_map hkey hkeep, List.length_map, ← List.map_take, List.getLast?_map, Option.map_map]
  split
  · refine Prod.ext rfl (Option.map_congr fun r hr ↦ hlast r hr)
  · rfl

end views

section newest

variable {key rows} {keep : ρ → Bool} {limit : ℕ} {r : ρ}

/-- A strictly sorted list around one of its rows. -/
theorem eq_newer_append {l : List ρ} (hl : l.Pairwise fun a b ↦ key b < key a) (hr : r ∈ l) :
    ∃ older, l = l.filter (fun a ↦ key r < key a) ++ r :: older ∧ ∀ a ∈ older, key a < key r := by
  induction l with
  | nil => exact absurd hr List.not_mem_nil
  | cons b l ih =>
    obtain ⟨hb, hl⟩ := List.pairwise_cons.mp hl
    rcases List.mem_cons.mp hr with rfl | hr
    · refine ⟨l, ?_, hb⟩
      have hnone : (r :: l).filter (fun a ↦ key r < key a) = [] := by
        rw [List.filter_eq_nil_iff]
        intro a ha
        rw [decide_eq_true_eq]
        rcases List.mem_cons.mp ha with rfl | ha
        · exact lt_irrefl _
        · exact (hb a ha).asymm
      rw [hnone, List.nil_append]
    · obtain ⟨older, hsplit, holder⟩ := ih hl hr
      refine ⟨older, ?_, holder⟩
      rw [List.filter_cons, if_pos (decide_eq_true (hb r hr)), List.cons_append, ← hsplit]

/-- How many of the kept rows come before `r`. -/
def newer (key : ρ → κ) (rows : List ρ) (keep : ρ → Bool) (r : ρ) : ℕ :=
  (rows.filter fun a ↦ keep a && key r < key a).length

theorem newer_eq_matching :
    newer key rows keep r =
      ((matching key rows keep none).filter fun a ↦ key r < key a).length := by
  have hperm := (List.perm_insertionSort (fun a b : ρ ↦ key b ≤ key a)
    (rows.filter fun a ↦ keep a && (none : Option κ).all fun k ↦ key a < k)).filter
      fun a ↦ key r < key a
  unfold newer matching
  rw [hperm.length_eq, List.filter_filter]
  congr 2
  funext a
  simp only [Option.all_none, Bool.and_true]
  exact Bool.and_comm _ _

section fetched

variable (hkey : (rows.map key).Nodup) (hr : r ∈ rows) (hkeep : keep r = true)
include hkey hr hkeep

theorem matching_split : ∃ newest older, matching key rows keep none = newest ++ r :: older ∧
    newest.length = newer key rows keep r ∧ (∀ a ∈ newest, key r < key a) ∧
      ∀ a ∈ older, key a < key r := by
  have hmem : r ∈ matching key rows keep none := mem_matching.mpr ⟨hr, hkeep, rfl⟩
  obtain ⟨older, hsplit, holder⟩ := eq_newer_append (matching_sorted hkey) hmem
  refine ⟨_, older, hsplit, newer_eq_matching.symm, ?_, holder⟩
  intro a ha
  exact of_decide_eq_true (List.mem_filter.mp ha).2

/-- Where fewer than `limit` rows come before a row, it is fetched, after them. -/
theorem fetch_split (h : newer key rows keep r < limit) :
    ∃ newest older, fetch key rows keep none limit = newest ++ r :: older ∧
      (∀ a ∈ newest, key r < key a) ∧ ∀ a ∈ older, key a < key r := by
  obtain ⟨newest, older, hsplit, hlength, hnewest, holder⟩ := matching_split hkey hr hkeep
  refine ⟨newest, older.take (limit - newest.length - 1), ?_, hnewest, ?_⟩
  · unfold fetch
    rw [hsplit, List.take_append, List.take_of_length_le (by omega)]
    obtain ⟨n, hn⟩ : ∃ n, limit - newest.length = n + 1 := ⟨limit - newest.length - 1, by omega⟩
    rw [hn, List.take_succ_cons, Nat.add_sub_cancel]
  · intro a ha
    exact holder a (List.mem_of_mem_take ha)

theorem not_mem_fetch (h : limit ≤ newer key rows keep r) : r ∉ fetch key rows keep none limit := by
  obtain ⟨newest, older, hsplit, hlength, hnewest, -⟩ := matching_split hkey hr hkeep
  unfold fetch
  rw [hsplit, List.take_append_of_le_length (by omega)]
  intro hmem
  exact lt_irrefl _ (hnewest r (List.mem_of_mem_take hmem))

end fetched

end newest

end Keyset
