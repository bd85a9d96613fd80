import Mathlib.Data.List.Basic
import Mathlib.Data.List.Forall2

namespace Chunks

universe u v

variable {α : Type u} {β : Type v}

/-- The slices of `n` elements that a loop over `range(0, len(l), n)` takes. -/
def chunks (n : ℕ) (l : List α) : List (List α) :=
  (List.range ((l.length + n - 1) / n)).map fun i ↦ (l.drop (i * n)).take n

variable {n : ℕ} {l : List α}

@[simp] theorem chunks_nil : chunks n ([] : List α) = [] := by
  have h : (0 + n - 1) / n = 0 := by
    cases n with
    | zero => rfl
    | succ n => exact Nat.div_eq_of_lt (by omega)
  unfold chunks
  rw [List.length_nil, h]
  rfl

theorem chunks_of_ne_nil (hn : 0 < n) (hl : l ≠ []) :
    chunks n l = l.take n :: chunks n (l.drop n) := by
  have hpos : 0 < l.length := List.length_pos_iff.mpr hl
  have hcount : (l.length + n - 1) / n = ((l.drop n).length + n - 1) / n + 1 := by
    rw [List.length_drop]
    by_cases hle : n ≤ l.length
    · rw [show l.length + n - 1 = (l.length - n + n - 1) + n by omega, Nat.add_div_right _ hn]
    · rw [show l.length - n = 0 by omega, Nat.zero_add, Nat.div_eq_of_lt (by omega : n - 1 < n)]
      exact Nat.div_eq_of_lt_le (by omega) (by omega)
  unfold chunks
  rw [hcount, List.range_succ_eq_map, List.map_cons, List.map_map]
  refine congr (congrArg _ (by simp)) (List.map_congr_left fun i _ ↦ ?_)
  rw [Function.comp_apply, List.drop_drop]
  congr 2
  rw [Nat.succ_mul]
  omega

theorem mem_chunks (hn : 0 < n) {c : List α} :
    c ∈ chunks n l ↔ ∃ i, i * n < l.length ∧ (l.drop (i * n)).take n = c := by
  have hcount : ∀ i, i < (l.length + n - 1) / n ↔ i * n < l.length := by
    intro i
    rw [← Nat.succ_le_iff, Nat.le_div_iff_mul_le hn, Nat.succ_mul]
    omega
  unfold chunks
  simp only [List.mem_map, List.mem_range, hcount]

theorem chunks_induction (hn : 0 < n) {P : List α → Prop} (nil : P [])
    (cons : ∀ l, l ≠ [] → P (l.drop n) → P l) (l : List α) : P l := by
  induction hlen : l.length using Nat.strongRecOn generalizing l with
  | _ k ih =>
    by_cases hl : l = []
    · exact hl ▸ nil
    · have hpos : 0 < l.length := List.length_pos_iff.mpr hl
      refine cons l hl (ih _ ?_ _ rfl)
      rw [List.length_drop]
      omega

theorem flatten_chunks (hn : 0 < n) (l : List α) : (chunks n l).flatten = l := by
  induction l using chunks_induction hn with
  | nil => rw [chunks_nil, List.flatten_nil]
  | cons l hl ih => rw [chunks_of_ne_nil hn hl, List.flatten_cons, ih, List.take_append_drop]

theorem chunks_ne_nil (hn : 0 < n) (hl : l ≠ []) : chunks n l ≠ [] := by
  rw [chunks_of_ne_nil hn hl]
  exact List.cons_ne_nil _ _

theorem chunks_of_length_le_size (hn : 0 < n) (hl : l ≠ []) (h : l.length ≤ n) :
    chunks n l = [l] := by
  rw [chunks_of_ne_nil hn hl, List.take_of_length_le h, List.drop_eq_nil_iff.mpr h, chunks_nil]

theorem chunks_of_length_le (hn : 0 < n) (hl : l ≠ []) (h : (chunks n l).length ≤ 1) :
    chunks n l = [l] := by
  obtain ⟨c, hc⟩ := List.length_eq_one_iff.mp
    (Nat.le_antisymm h (List.length_pos_iff.mpr (chunks_ne_nil hn hl)))
  have hflat := flatten_chunks hn l
  rw [hc, List.flatten_singleton] at hflat
  rw [hc, hflat]

theorem ne_nil_of_mem_chunks (hn : 0 < n) {c : List α} (h : c ∈ chunks n l) : c ≠ [] := by
  induction l using chunks_induction hn with
  | nil => rw [chunks_nil] at h; exact absurd h List.not_mem_nil
  | cons l hl ih =>
    rw [chunks_of_ne_nil hn hl] at h
    rcases List.mem_cons.mp h with rfl | h
    · intro hnil
      rcases List.take_eq_nil_iff.mp hnil with h0 | h0
      · omega
      · exact hl h0
    · exact ih h

theorem flatMap_chunks (hn : 0 < n) {f : α → List β} {g : List α → List β}
    (hg : ∀ c ∈ chunks n l, g c = c.flatMap f) : (chunks n l).flatMap g = l.flatMap f := by
  induction l using chunks_induction hn with
  | nil => rw [chunks_nil, List.flatMap_nil, List.flatMap_nil]
  | cons l hl ih =>
    rw [chunks_of_ne_nil hn hl] at hg ⊢
    rw [List.flatMap_cons, hg _ List.mem_cons_self, ih fun c hc ↦ hg c (List.mem_cons_of_mem _ hc),
      ← List.flatMap_append, List.take_append_drop]

/-! ### Slices that overlap -/

/-- The last `c` elements. -/
def lastOf (c : ℕ) (l : List α) : List α := l.drop (l.length - c)

/-- What a loop over slices looks at when it puts the last `c` elements of what it has looked at
before each slice. -/
def samples (c : ℕ) : List (List α) → (carry : List α) → List (List α)
  | [], _ => []
  | chunk :: chunks, carry => (carry ++ chunk) :: samples c chunks (lastOf c (carry ++ chunk))

theorem lastOf_append (c : ℕ) (l l' : List α) : lastOf c (lastOf c l ++ l') = lastOf c (l ++ l') := by
  unfold lastOf
  rw [← List.drop_append_of_le_length (Nat.sub_le _ _), List.drop_drop, List.length_drop,
    List.length_append]
  congr 1
  omega

/-- The samples of what comes after a list that has been read. -/
theorem mem_samples_append (hn : 0 < n) (c : ℕ) (read l s : List α) :
    s ∈ samples c (chunks n l) (lastOf c read) ↔
      ∃ k, k * n < l.length ∧ s = ((read ++ l).take (read.length + (k + 1) * n)).drop
        (read.length + k * n - c) := by
  induction l using chunks_induction hn generalizing read with
  | nil =>
    rw [chunks_nil]
    exact ⟨fun h ↦ absurd h List.not_mem_nil, fun ⟨k, hk, _⟩ ↦ absurd hk (Nat.not_lt_zero _)⟩
  | cons l hl ih =>
    have hpos : 0 < l.length := List.length_pos_iff.mpr hl
    have hfirst : lastOf c read ++ l.take n =
        ((read ++ l).take (read.length + (0 + 1) * n)).drop (read.length + 0 * n - c) := by
      rw [Nat.zero_add, Nat.one_mul, Nat.zero_mul, Nat.add_zero, List.take_length_add_append]
      exact (List.drop_append_of_le_length (Nat.sub_le _ _)).symm
    rw [chunks_of_ne_nil hn hl, samples, List.mem_cons, lastOf_append, ih, hfirst]
    -- a whole slice is read before the next one
    have hnext : ∀ k, k * n < (l.drop n).length →
        (((read ++ l.take n) ++ l.drop n).take ((read ++ l.take n).length + (k + 1) * n)).drop
            ((read ++ l.take n).length + k * n - c) =
          ((read ++ l).take (read.length + (k + 1 + 1) * n)).drop
            (read.length + (k + 1) * n - c) := by
      intro k hk
      rw [List.length_drop] at hk
      have hread : (read ++ l.take n).length = read.length + n := by
        rw [List.length_append, List.length_take, Nat.min_eq_left (by omega)]
      rw [List.append_assoc, List.take_append_drop, hread, Nat.succ_mul (k + 1), Nat.succ_mul k]
      congr 2 <;> omega
    constructor
    · rintro (rfl | ⟨k, hk, rfl⟩)
      · exact ⟨0, by omega, rfl⟩
      · refine ⟨k + 1, ?_, hnext k hk⟩
        rw [List.length_drop] at hk
        rw [Nat.succ_mul]
        omega
    · rintro ⟨k, hk, rfl⟩
      cases k with
      | zero => exact Or.inl rfl
      | succ k =>
        have hk' : k * n < (l.drop n).length := by
          rw [Nat.succ_mul] at hk
          rw [List.length_drop]
          omega
        exact Or.inr ⟨k, hk', (hnext k hk').symm⟩

/-- The samples are the slices, each with the `c` elements before it. -/
theorem mem_samples (hn : 0 < n) {c : ℕ} {s : List α} :
    s ∈ samples c (chunks n l) [] ↔
      ∃ k, k * n < l.length ∧ s = (l.take ((k + 1) * n)).drop (k * n - c) := by
  have h := mem_samples_append hn c [] l s
  simpa only [List.nil_append, List.length_nil, Nat.zero_add, lastOf, List.drop_nil] using h

end Chunks

/-! # Lists whose elements are replaced one by one -/

namespace Sections

open List

universe u v w

variable {α : Type u} {β : Type v} {γ : Type w} {R : α → β → Prop} {S : β → γ → Prop}
  {l : List α} {l' : List β} {l'' : List γ}

theorem comp (h : Forall₂ R l l') (h' : Forall₂ S l' l'') :
    Forall₂ (fun a c ↦ ∃ b, R a b ∧ S b c) l l'' := by
  induction h generalizing l'' with
  | nil =>
    cases h'
    exact .nil
  | cons hab _ ih =>
    cases h' with
    | cons hbc h' => exact .cons ⟨_, hab, hbc⟩ (ih h')

theorem mem (h : Forall₂ R l l') : Forall₂ (fun a b ↦ a ∈ l ∧ b ∈ l' ∧ R a b) l l' := by
  induction h with
  | nil => exact .nil
  | cons hab _ ih =>
    refine .cons ⟨mem_cons_self, mem_cons_self, hab⟩ (ih.imp fun a b ⟨ha, hb, hR⟩ ↦ ?_)
    exact ⟨mem_cons_of_mem _ ha, mem_cons_of_mem _ hb, hR⟩

theorem exists_of_mem_left {a : α} (h : Forall₂ R l l') (ha : a ∈ l) : ∃ b ∈ l', R a b := by
  induction h with
  | nil => exact absurd ha not_mem_nil
  | cons hab _ ih =>
    rcases mem_cons.mp ha with rfl | ha
    · exact ⟨_, mem_cons_self, hab⟩
    · obtain ⟨b, hb, hR⟩ := ih ha
      exact ⟨b, mem_cons_of_mem _ hb, hR⟩

theorem exists_of_mem_right {b : β} (h : Forall₂ R l l') (hb : b ∈ l') : ∃ a ∈ l, R a b :=
  exists_of_mem_left h.flip hb

theorem forall_flatMap_iff {f : β → List γ} {P : γ → Prop} {Q : α → Prop} (h : Forall₂ R l l')
    (hR : ∀ a b, R a b → ((∀ c ∈ f b, P c) ↔ Q a)) :
    (∀ c ∈ l'.flatMap f, P c) ↔ ∀ a ∈ l, Q a := by
  induction h with
  | nil => exact iff_of_true (fun c hc ↦ absurd hc not_mem_nil) fun a ha ↦ absurd ha not_mem_nil
  | cons hab _ ih =>
    rw [flatMap_cons, forall_mem_append, forall_mem_cons, hR _ _ hab, ih]

theorem flatMap_eq {f : α → List γ} {g : β → List γ} (h : Forall₂ R l l')
    (hR : ∀ a b, R a b → f a = g b) : l.flatMap f = l'.flatMap g := by
  induction h with
  | nil => rfl
  | cons hab _ ih => rw [flatMap_cons, flatMap_cons, hR _ _ hab, ih]

/-- As many sections as elements, none of them empty, leave one element for each. -/
theorem eq_map_singleton {sections : List (List α)} (hlen : sections.length = l.length)
    (hne : ∀ s ∈ sections, s ≠ []) (hflat : sections.flatten = l) :
    sections = l.map fun a ↦ [a] := by
  have hcount : ∀ sections : List (List α), (∀ s ∈ sections, s ≠ []) →
      sections.length ≤ sections.flatten.length := by
    intro sections hne
    induction sections with
    | nil => exact Nat.zero_le _
    | cons s sections ih =>
      have hs := length_pos_iff.mpr (hne s mem_cons_self)
      have hrest := ih fun t ht ↦ hne t (mem_cons_of_mem s ht)
      rw [flatten_cons, length_append, length_cons]
      omega
  induction sections generalizing l with
  | nil =>
    cases hflat
    rfl
  | cons s sections ih =>
    cases s with
    | nil => exact absurd rfl (hne [] mem_cons_self)
    | cons a s =>
      have hrest := hcount sections fun t ht ↦ hne t (mem_cons_of_mem _ ht)
      rw [flatten_cons, cons_append] at hflat
      subst hflat
      rw [length_cons, length_cons, length_append] at hlen
      have hs : s = [] := length_eq_zero_iff.mp (by omega)
      subst hs
      rw [map_cons, nil_append,
        ← ih (by rw [length_nil] at hlen; omega) (fun t ht ↦ hne t (mem_cons_of_mem _ ht)) rfl]

end Sections
