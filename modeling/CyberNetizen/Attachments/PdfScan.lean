import CyberNetizen.Infrastructure.ContentInspection

namespace CyberNetizen.Attachments

open Application Infrastructure Chunks

variable {raw content : Bytes} {b : UInt8} {u k : ℕ}

/-! ## Names and their escapes -/

def token : Bytes → Option (UInt8 × ℕ)
  | [] => none
  | b :: high :: low :: _ =>
    match if b = 35 then escaped high low else none with
    | some value => some (value, 3)
    | none => some (b, 1)
  | b :: _ => some (b, 1)

def tokenLength (raw : Bytes) : ℕ := (token raw).elim 0 Prod.snd

@[simp] theorem token_nil : token [] = none := rfl

theorem token_eq_none : token raw = none ↔ raw = [] := by
  refine ⟨fun h ↦ ?_, fun h ↦ h ▸ rfl⟩
  match raw with
  | [] => rfl
  | [b] => cases h
  | [b, c] => cases h
  | b :: high :: low :: rest =>
    rw [token] at h
    cases hvalue : if b = 35 then escaped high low else none with
    | none => rw [hvalue] at h; cases h
    | some value => rw [hvalue] at h; cases h

/-- A byte is written as itself or with an escape. -/
theorem token_cases (h : token raw = some (b, u)) :
    (u = 1 ∧ (∃ rest, raw = b :: rest) ∧ decodeNames raw = b :: decodeNames (raw.drop 1)) ∨
      (u = 3 ∧ (∃ high low rest, raw = 35 :: high :: low :: rest ∧ escaped high low = some b) ∧
        decodeNames raw = b :: decodeNames (raw.drop 3)) := by
  match raw with
  | [] => cases h
  | [c] =>
    obtain ⟨rfl, rfl⟩ := Prod.mk.inj (Option.some.inj h)
    exact Or.inl ⟨rfl, ⟨[], rfl⟩, rfl⟩
  | [c, d] =>
    obtain ⟨rfl, rfl⟩ := Prod.mk.inj (Option.some.inj h)
    exact Or.inl ⟨rfl, ⟨[d], rfl⟩, rfl⟩
  | c :: high :: low :: rest =>
    rw [token] at h
    cases hvalue : if c = 35 then escaped high low else none with
    | none =>
      rw [hvalue] at h
      obtain ⟨rfl, rfl⟩ := Prod.mk.inj (Option.some.inj h)
      refine Or.inl ⟨rfl, ⟨_, rfl⟩, ?_⟩
      rw [decodeNames, hvalue]
      rfl
    | some value =>
      rw [hvalue] at h
      obtain ⟨rfl, rfl⟩ := Prod.mk.inj (Option.some.inj h)
      by_cases hc : c = 35
      · subst hc
        rw [if_pos rfl] at hvalue
        refine Or.inr ⟨rfl, ⟨high, low, rest, rfl, hvalue⟩, ?_⟩
        rw [decodeNames, if_pos rfl, hvalue]
        rfl
      · rw [if_neg hc] at hvalue
        cases hvalue

theorem decodeNames_of_token (h : token raw = some (b, u)) :
    decodeNames raw = b :: decodeNames (raw.drop u) := by
  rcases token_cases h with ⟨rfl, -, hdecode⟩ | ⟨rfl, -, hdecode⟩
  · exact hdecode
  · exact hdecode

theorem token_length (h : token raw = some (b, u)) : 1 ≤ u ∧ u ≤ 3 ∧ u ≤ raw.length := by
  rcases token_cases h with ⟨rfl, ⟨rest, rfl⟩, -⟩ | ⟨rfl, ⟨high, low, rest, rfl, -⟩, -⟩
  · simp
  · simp

theorem tokenLength_le (raw : Bytes) : tokenLength raw ≤ 3 := by
  unfold tokenLength
  cases h : token raw with
  | none => exact Nat.zero_le 3
  | some t => exact (token_length h).2.1

theorem tokenLength_of_token (h : token raw = some (b, u)) : tokenLength raw = u := by
  unfold tokenLength
  rw [h]
  rfl

theorem token_induction {P : Bytes → Prop} (nil : P [])
    (read : ∀ raw b u, token raw = some (b, u) → P (raw.drop u) → P raw) (raw : Bytes) : P raw := by
  induction hlen : raw.length using Nat.strongRecOn generalizing raw with
  | _ n ih =>
    cases h : token raw with
    | none => exact token_eq_none.mp h ▸ nil
    | some t =>
      obtain ⟨b, u⟩ := t
      have hu := token_length h
      refine read raw b u h (ih _ ?_ _ rfl)
      rw [List.length_drop]
      omega

theorem token_take (h : token raw = some (b, u)) (hk : u ≤ k) :
    token (raw.take k) = some (b, u) := by
  rcases token_cases h with ⟨rfl, ⟨rest, rfl⟩, -⟩ | ⟨rfl, ⟨high, low, rest, rfl, hvalue⟩, -⟩
  · match rest, k, hk with
    | [], k + 1, _ => rwa [List.take_succ_cons, List.take_nil]
    | c :: rest, 1, _ => rfl
    | [c], k + 2, _ => rwa [List.take_succ_cons, List.take_succ_cons, List.take_nil]
    | c :: d :: rest, 2, _ => rfl
    | c :: d :: rest, k + 3, _ => exact h
  · match k, hk with
    | k + 3, _ => exact h

theorem token_take_of_lt (h : token raw = some (b, u)) (hk : 0 < k) (hku : k < u) :
    token (raw.take k) = some (35, 1) := by
  rcases token_cases h with ⟨rfl, -, -⟩ | ⟨rfl, ⟨high, low, rest, rfl, -⟩, -⟩
  · omega
  · match k, hk, hku with
    | 1, _, _ => rfl
    | 2, _, _ => rfl

/-! ## Positions -/

theorem suffix_decodeNames {t : Bytes} (h : t <:+ decodeNames raw) :
    ∃ p, t = decodeNames (raw.drop p) := by
  induction raw using token_induction with
  | nil => exact ⟨0, List.suffix_nil.mp h⟩
  | read raw b u htoken ih =>
    rw [decodeNames_of_token htoken] at h
    rcases List.suffix_cons_iff.mp h with rfl | h
    · exact ⟨0, (decodeNames_of_token htoken).symm⟩
    · obtain ⟨p, rfl⟩ := ih h
      exact ⟨u + p, by rw [List.drop_drop]⟩

theorem hexDigit_of_escaped {high low value : UInt8} (h : escaped high low = some value) :
    hexDigit high ≠ none ∧ hexDigit low ≠ none := by
  unfold escaped at h
  constructor
  · intro hnone
    rw [hnone] at h
    cases h
  · intro hnone
    rw [hnone] at h
    cases hhigh : hexDigit high <;> rw [hhigh] at h <;> cases h

/-- A position is one that the decoding reads from, or it is inside of an escape. -/
theorem drop_suffix (raw : Bytes) (p : ℕ) : decodeNames (raw.drop p) <:+ decodeNames raw ∨
    ∃ b rest, raw.drop p = b :: rest ∧ hexDigit b ≠ none := by
  induction raw using token_induction generalizing p with
  | nil => exact Or.inl (by rw [List.drop_nil])
  | read raw b u htoken ih =>
    by_cases hp : p = 0
    · exact Or.inl (hp ▸ List.suffix_refl _)
    by_cases hu : u ≤ p
    · have hdrop : raw.drop p = (raw.drop u).drop (p - u) := by
        rw [List.drop_drop, Nat.add_sub_cancel' hu]
      rw [hdrop]
      refine (ih (p - u)).imp_left fun hsuffix ↦ hsuffix.trans ?_
      rw [decodeNames_of_token htoken]
      exact List.suffix_cons _ _
    · rcases token_cases htoken with ⟨rfl, -, -⟩ | ⟨rfl, ⟨high, low, rest, rfl, hvalue⟩, -⟩
      · omega
      · obtain ⟨hhigh, hlow⟩ := hexDigit_of_escaped hvalue
        obtain rfl | rfl : p = 1 ∨ p = 2 := by omega
        · exact Or.inr ⟨high, low :: rest, rfl, hhigh⟩
        · exact Or.inr ⟨low, rest, rfl, hlow⟩

/-! ## Written names -/

def written : (name raw : Bytes) → Option ℕ
  | [], _ => some 0
  | c :: name, raw =>
    match token raw with
    | some (b, u) => if lower b = c then (written name (raw.drop u)).map (u + ·) else none
    | none => none

theorem written_cons {c : UInt8} {name : Bytes} {n : ℕ} : written (c :: name) raw = some n ↔
    ∃ b u m, token raw = some (b, u) ∧ lower b = c ∧ written name (raw.drop u) = some m ∧
      u + m = n := by
  rw [written]
  cases htoken : token raw with
  | none => exact ⟨nofun, nofun⟩
  | some t =>
    obtain ⟨b, u⟩ := t
    dsimp only
    by_cases hlower : lower b = c
    · rw [if_pos hlower, Option.map_eq_some_iff]
      constructor
      · rintro ⟨m, hm, hn⟩
        exact ⟨b, u, m, rfl, hlower, hm, hn⟩
      · rintro ⟨_, _, m, ht, -, hm, hn⟩
        obtain ⟨rfl, rfl⟩ := Prod.mk.inj (Option.some.inj ht)
        exact ⟨m, hm, hn⟩
    · rw [if_neg hlower]
      refine ⟨nofun, ?_⟩
      rintro ⟨_, _, m, ht, hlower', -, -⟩
      obtain ⟨rfl, rfl⟩ := Prod.mk.inj (Option.some.inj ht)
      exact absurd hlower' hlower

theorem written_length {name : Bytes} {n : ℕ} (h : written name raw = some n) :
    name.length ≤ n ∧ n ≤ 3 * name.length ∧ n ≤ raw.length := by
  induction name generalizing raw n with
  | nil =>
    obtain rfl := Option.some.inj h
    simp
  | cons c name ih =>
    obtain ⟨b, u, m, htoken, -, hm, rfl⟩ := written_cons.mp h
    have hu := token_length htoken
    have hlen := ih hm
    rw [List.length_drop] at hlen
    rw [List.length_cons]
    omega

theorem hasNameAt_decodeNames {name : Bytes} : hasNameAt name (decodeNames raw) = true ↔
    ∃ n, written name raw = some n ∧ atBoundary (decodeNames (raw.drop n)) = true := by
  induction name generalizing raw with
  | nil =>
    simp [hasNameAt, written]
  | cons c name ih =>
    cases htoken : token raw with
    | none =>
      obtain rfl := token_eq_none.mp htoken
      simp [hasNameAt, written, decodeNames]
    | some t =>
      obtain ⟨b, u⟩ := t
      have hcons : hasNameAt (c :: name) (decodeNames raw) = true ↔
          lower b = c ∧ hasNameAt name (decodeNames (raw.drop u)) = true := by
        rw [decodeNames_of_token htoken]
        simp [hasNameAt, and_assoc]
      rw [hcons, ih]
      constructor
      · rintro ⟨hlower, m, hm, hboundary⟩
        refine ⟨u + m, written_cons.mpr ⟨b, u, m, htoken, hlower, hm, rfl⟩, ?_⟩
        rw [← List.drop_drop]
        exact hboundary
      · rintro ⟨n, hn, hboundary⟩
        obtain ⟨b', u', m, htoken', hlower, hm, rfl⟩ := written_cons.mp hn
        obtain ⟨rfl, rfl⟩ := Prod.mk.inj (Option.some.inj (htoken.symm.trans htoken'))
        rw [← List.drop_drop] at hboundary
        exact ⟨hlower, m, hm, hboundary⟩

/-- A name that is cut off is not found, as no name has a `#`. -/
theorem written_take {name : Bytes} (hname : 35 ∉ name) {n : ℕ} :
    written name (raw.take k) = some n ↔ written name raw = some n ∧ n ≤ k := by
  induction name generalizing raw n k with
  | nil =>
    refine ⟨fun h ↦ ⟨h, ?_⟩, fun h ↦ h.1⟩
    obtain rfl := Option.some.inj h
    exact Nat.zero_le k
  | cons c name ih =>
    obtain ⟨hc, hname⟩ : 35 ≠ c ∧ 35 ∉ name := by simpa only [List.mem_cons, not_or] using hname
    simp only [written_cons]
    constructor
    · rintro ⟨b, u, m, htoken, hlower, hm, rfl⟩
      cases hraw : token raw with
      | none =>
        obtain rfl := token_eq_none.mp hraw
        rw [List.take_nil] at htoken
        cases htoken
      | some t =>
        obtain ⟨b', u'⟩ := t
        have hlen := token_length htoken
        rw [List.length_take] at hlen
        by_cases hk : u' ≤ k
        · have heq := htoken.symm.trans (token_take hraw hk)
          obtain ⟨rfl, rfl⟩ := Prod.mk.inj (Option.some.inj heq)
          rw [List.drop_take, ih hname] at hm
          exact ⟨⟨b, u, m, rfl, hlower, hm.1, rfl⟩, by omega⟩
        · have heq := htoken.symm.trans (token_take_of_lt hraw (by omega) (by omega))
          obtain ⟨rfl, rfl⟩ := Prod.mk.inj (Option.some.inj heq)
          exact absurd hlower fun heq ↦ hc ((by decide : 35 = lower 35).trans heq)
    · rintro ⟨⟨b, u, m, htoken, hlower, hm, rfl⟩, hk⟩
      refine ⟨b, u, m, token_take htoken (by omega), hlower, ?_, rfl⟩
      rw [List.drop_take, ih hname]
      exact ⟨hm, by omega⟩

/-- A text that is cut off ends a word, also where the cut is in an escape. -/
theorem atBoundary_take : atBoundary (decodeNames (raw.take k)) = true ↔
    atBoundary (decodeNames raw) = true ∨ k < tokenLength raw := by
  cases htoken : token raw with
  | none =>
    obtain rfl := token_eq_none.mp htoken
    rw [List.take_nil]
    exact ⟨Or.inl, fun _ ↦ rfl⟩
  | some t =>
    obtain ⟨b, u⟩ := t
    rw [tokenLength_of_token htoken]
    have hu := token_length htoken
    by_cases hk : u ≤ k
    · rw [decodeNames_of_token htoken, decodeNames_of_token (token_take htoken hk)]
      refine ⟨Or.inl, ?_⟩
      rintro (hboundary | hlt)
      · exact hboundary
      · omega
    · refine ⟨fun _ ↦ Or.inr (by omega), fun _ ↦ ?_⟩
      by_cases hzero : k = 0
      · subst hzero
        rfl
      · rw [decodeNames_of_token (token_take_of_lt htoken (by omega) (by omega))]
        rfl

/-! ## The names of active contents -/

/-- A name of active contents is written from `p` up to `q`. -/
def NameAt (content : Bytes) (p q : ℕ) : Prop :=
  ∃ name ∈ activeNames, ∃ n, written name (content.drop p) = some n ∧ p + n = q

/-- The name that ends at `q` is a whole word. -/
def EndsWord (content : Bytes) (q : ℕ) : Prop :=
  atBoundary (decodeNames (content.drop q)) = true

def Skipped (p q : ℕ) : Prop := ∃ k, p + carrySize < k * chunkSize ∧ k * chunkSize < q

def CutAfter (content : Bytes) (q : ℕ) : Prop :=
  ∃ k, q ≤ k * chunkSize ∧ k * chunkSize < q + tokenLength (content.drop q)

theorem activeNames_spec : ∀ name ∈ activeNames,
    name.head? = some 47 ∧ 35 ∉ name ∧ 3 ≤ name.length ∧ name.length ≤ 13 := by
  decide +kernel

theorem eq_slash_of_lower (h : lower b = 47) : b = 47 := by
  unfold lower at h
  by_cases hb : 65 ≤ b ∧ b ≤ 90
  · rw [if_pos hb] at h
    obtain rfl : b = 15 := (UInt8.add_sub_cancel b 32).symm.trans (congrArg (· - 32) h)
    exact absurd hb (by decide)
  · rw [if_neg hb] at h
    exact h

theorem nameAt_bounds {p q : ℕ} (h : NameAt content p q) :
    p + 3 ≤ q ∧ q ≤ p + 39 ∧ q ≤ content.length := by
  obtain ⟨name, hname, n, hwritten, rfl⟩ := h
  have hlen := written_length hwritten
  rw [List.length_drop] at hlen
  have hspec := activeNames_spec name hname
  omega

theorem not_written_of_hexDigit {name rest : Bytes} {n : ℕ} (hname : name ∈ activeNames)
    (hb : hexDigit b ≠ none) : written name (b :: rest) ≠ some n := by
  intro h
  obtain ⟨hhead, -⟩ := activeNames_spec name hname
  obtain ⟨tail, rfl⟩ := List.head?_eq_some_iff.mp hhead
  obtain ⟨c, u, m, htoken, hlower, -⟩ := written_cons.mp h
  obtain rfl := eq_slash_of_lower hlower
  rcases token_cases htoken with ⟨-, ⟨_, heq⟩, -⟩ | ⟨-, ⟨_, _, _, heq, -⟩, -⟩
  · obtain rfl := (List.cons.inj heq).1
    exact hb (by decide)
  · obtain rfl := (List.cons.inj heq).1
    exact hb (by decide)

/-- The names in the decoded text are those that are written somewhere. -/
theorem hasActiveName_decodeNames : hasActiveName (decodeNames raw) = true ↔
    ∃ p q, NameAt raw p q ∧ EndsWord raw q := by
  unfold hasActiveName
  simp only [List.any_eq_true, List.mem_tails]
  constructor
  · rintro ⟨rest, hsuffix, name, hname, hat⟩
    obtain ⟨p, rfl⟩ := suffix_decodeNames hsuffix
    obtain ⟨n, hn, hboundary⟩ := hasNameAt_decodeNames.mp hat
    rw [List.drop_drop] at hboundary
    exact ⟨p, p + n, ⟨name, hname, n, hn, rfl⟩, hboundary⟩
  · rintro ⟨p, _, ⟨name, hname, n, hn, rfl⟩, hboundary⟩
    rcases drop_suffix raw p with hsuffix | ⟨b, rest, hdrop, hb⟩
    · refine ⟨decodeNames (raw.drop p), hsuffix, name, hname, hasNameAt_decodeNames.mpr ?_⟩
      refine ⟨n, hn, ?_⟩
      rw [List.drop_drop]
      exact hboundary
    · rw [hdrop] at hn
      exact absurd hn (not_written_of_hexDigit hname hb)

/-! ## The samples -/

theorem scanChunks_error {list : List Bytes} {carry : Bytes} :
    (∃ error, scanChunks list carry = .error error) ↔
      ∃ sample ∈ samples carrySize list carry, hasActiveName (decodeNames sample) = true := by
  induction list generalizing carry with
  | nil => exact ⟨fun ⟨_, h⟩ ↦ (nomatch h), fun ⟨_, h, _⟩ ↦ absurd h List.not_mem_nil⟩
  | cons chunk list ih =>
    rw [scanChunks, samples]
    simp only [List.mem_cons, exists_eq_or_imp]
    by_cases hactive : hasActiveName (decodeNames (carry ++ chunk)) = true
    · rw [if_pos hactive]
      exact ⟨fun _ ↦ Or.inl hactive, fun _ ↦ ⟨_, rfl⟩⟩
    · rw [if_neg hactive]
      refine ih.trans ⟨Or.inr, ?_⟩
      rintro (hfirst | hlater)
      · exact absurd hfirst hactive
      · exact hlater

theorem nameAt_slice {a e p q : ℕ} : NameAt ((content.take e).drop a) p q ↔
    NameAt content (a + p) (a + q) ∧ a + q ≤ e := by
  unfold NameAt
  constructor
  · rintro ⟨name, hname, n, hn, rfl⟩
    obtain ⟨-, hescape, hlen, -⟩ := activeNames_spec name hname
    rw [List.drop_drop, List.drop_take, written_take hescape] at hn
    have hpos := written_length hn.1
    exact ⟨⟨name, hname, n, hn.1, by omega⟩, by omega⟩
  · rintro ⟨⟨name, hname, n, hn, hq⟩, he⟩
    obtain ⟨-, hescape, -⟩ := activeNames_spec name hname
    refine ⟨name, hname, n, ?_, by omega⟩
    rw [List.drop_drop, List.drop_take, written_take hescape]
    exact ⟨hn, by omega⟩

theorem endsWord_slice {a e q : ℕ} : EndsWord ((content.take e).drop a) q ↔
    EndsWord content (a + q) ∨ e - (a + q) < tokenLength (content.drop (a + q)) := by
  unfold EndsWord
  rw [List.drop_drop, List.drop_take, atBoundary_take]

/-- What the scan sees: a name in one sample that is a whole word, or that the sample cuts off
right after it. -/
theorem rejectActivePdf_error : (∃ error, rejectActivePdf content = .error error) ↔
    ∃ k p q, k * chunkSize < content.length ∧ NameAt content p q ∧
      k * chunkSize ≤ p + carrySize ∧ q ≤ (k + 1) * chunkSize ∧
      (EndsWord content q ∨ (k + 1) * chunkSize < q + tokenLength (content.drop q)) := by
  unfold rejectActivePdf
  rw [scanChunks_error]
  simp only [mem_samples (by decide : 0 < chunkSize), hasActiveName_decodeNames]
  constructor
  · rintro ⟨_, ⟨k, hk, rfl⟩, p, q, hname, hword⟩
    obtain ⟨hname, he⟩ := nameAt_slice.mp hname
    refine ⟨k, _, _, hk, hname, by omega, he, ?_⟩
    exact (endsWord_slice.mp hword).imp_right fun hcut ↦ by omega
  · rintro ⟨k, p, q, hk, hname, hp, hq, hword⟩
    have hbounds := nameAt_bounds hname
    obtain ⟨p', rfl⟩ := Nat.exists_eq_add_of_le (by omega : k * chunkSize - carrySize ≤ p)
    obtain ⟨q', rfl⟩ := Nat.exists_eq_add_of_le (by omega : k * chunkSize - carrySize ≤ q)
    refine ⟨_, ⟨k, hk, rfl⟩, p', q', nameAt_slice.mpr ⟨hname, hq⟩, endsWord_slice.mpr ?_⟩
    exact hword.imp_right fun hcut ↦ by omega

/-- A name is seen as a whole word unless a border skips it; a name that a border cuts off is taken
for a whole word. -/
theorem rejectActivePdf_error_iff : (∃ error, rejectActivePdf content = .error error) ↔
    (∃ p q, NameAt content p q ∧ EndsWord content q ∧ ¬Skipped p q) ∨
      ∃ p q, NameAt content p q ∧ CutAfter content q := by
  rw [rejectActivePdf_error]
  constructor
  · rintro ⟨k, p, q, -, hname, hp, hq, hword | hcut⟩
    · refine Or.inl ⟨p, q, hname, hword, ?_⟩
      rintro ⟨j, hj, hjq⟩
      have hlt : k < j := Nat.lt_of_mul_lt_mul_right (lt_of_le_of_lt hp hj)
      have hle : (k + 1) * chunkSize ≤ j * chunkSize := Nat.mul_le_mul_right _ hlt
      omega
    · exact Or.inr ⟨p, q, hname, k + 1, hq, hcut⟩
  · rintro (⟨p, q, hname, hword, hseen⟩ | ⟨p, q, hname, k, hq, hcut⟩)
    · have hbounds := nameAt_bounds hname
      have hsize : 39 < chunkSize := by decide
      have hcarry : carrySize < chunkSize := by decide
      -- the last border that leaves the start of the name in the sample after it
      have hle : (p + carrySize) / chunkSize * chunkSize ≤ p + carrySize := Nat.div_mul_le_self _ _
      have hlt : p + carrySize < ((p + carrySize) / chunkSize + 1) * chunkSize :=
        (Nat.div_lt_iff_lt_mul (by decide)).mp (Nat.lt_succ_self _)
      generalize (p + carrySize) / chunkSize = k at hle hlt
      by_cases hk : k * chunkSize < content.length
      · refine ⟨k, p, q, hk, hname, hle, ?_, Or.inl hword⟩
        by_contra hlong
        exact hseen ⟨k + 1, hlt, by omega⟩
      · cases k with
        | zero => omega
        | succ k =>
          have hsucc : (k + 1) * chunkSize = k * chunkSize + chunkSize := Nat.succ_mul _ _
          exact ⟨k, p, q, by omega, hname, by omega, by omega, Or.inl hword⟩
    · have hbounds := nameAt_bounds hname
      have hlen := tokenLength_le (content.drop q)
      have hsize : 42 < chunkSize := by decide
      cases k with
      | zero => omega
      | succ k =>
        have hsucc : (k + 1) * chunkSize = k * chunkSize + chunkSize := Nat.succ_mul _ _
        exact ⟨k, p, q, by omega, hname, by omega, hq, Or.inr hcut⟩

/-- The scan of the chunks agrees with the scan of the whole file exactly when some name is found
that the borders do not touch, or no border makes a difference to any name. -/
theorem rejectActivePdf_eq_whole_iff (content : Bytes) :
    ((∃ error, rejectActivePdf content = .error error) ↔
      hasActiveName (decodeNames content) = true) ↔
    ((∃ p q, NameAt content p q ∧ EndsWord content q) →
      (∃ p q, NameAt content p q ∧ EndsWord content q ∧ ¬Skipped p q) ∨
        ∃ p q, NameAt content p q ∧ CutAfter content q) ∧
    ((∃ p q, NameAt content p q ∧ CutAfter content q) →
      ∃ p q, NameAt content p q ∧ EndsWord content q) := by
  rw [rejectActivePdf_error_iff, hasActiveName_decodeNames]
  constructor
  · intro hagree
    exact ⟨hagree.mpr, fun hcut ↦ hagree.mp (Or.inr hcut)⟩
  · rintro ⟨hfound, hcut⟩
    refine ⟨?_, hfound⟩
    rintro (⟨p, q, hname, hword, -⟩ | hcutAfter)
    · exact ⟨p, q, hname, hword⟩
    · exact hcut hcutAfter

/-! ## A name across a border -/

theorem length_le_of_nameAt {before after : Bytes} (hbefore : ∀ b ∈ before, b ≠ 47 ∧ b ≠ 35)
    {p q : ℕ} (h : NameAt (before ++ after) p q) : before.length ≤ p := by
  by_contra hlt
  obtain ⟨name, hname, n, hwritten, -⟩ := h
  obtain ⟨hhead, -⟩ := activeNames_spec name hname
  obtain ⟨tail, rfl⟩ := List.head?_eq_some_iff.mp hhead
  obtain ⟨b, u, m, htoken, hlower, -⟩ := written_cons.mp hwritten
  obtain rfl := eq_slash_of_lower hlower
  have hdrop : (before ++ after).drop p = before[p] :: (before ++ after).drop (p + 1) := by
    rw [List.drop_eq_getElem_cons (by rw [List.length_append]; omega), List.getElem_append_left]
  have hplain := hbefore before[p] (List.getElem_mem _)
  rcases token_cases htoken with ⟨-, ⟨_, heq⟩, -⟩ | ⟨-, ⟨_, _, _, heq, -⟩, -⟩
  · exact hplain.1 (List.cons.inj (hdrop.symm.trans heq)).1
  · exact hplain.2 (List.cons.inj (hdrop.symm.trans heq)).1

/-- `/EmbeddedFile` with an escape for each character. -/
def escapedName : Bytes :=
  "#2F#45#6d#62#65#64#64#65#64#46#69#6c#65".toList.map fun c ↦ UInt8.ofNat c.toNat

def plainStart : Bytes := pdfSignature ++ List.replicate (chunkSize - 38) 32

theorem plainStart_length : plainStart.length = chunkSize - 33 := by
  unfold plainStart
  rw [List.length_append, List.length_replicate]
  rfl

theorem plainStart_plain : ∀ b ∈ plainStart, b ≠ 47 ∧ b ≠ 35 := by
  intro b hb
  rcases List.mem_append.mp hb with hb | hb
  · simp only [pdfSignature, List.mem_cons, List.not_mem_nil, or_false] at hb
    rcases hb with rfl | rfl | rfl | rfl | rfl <;> decide
  · obtain rfl := List.eq_of_mem_replicate hb
    decide

theorem nameAt_escapedName : ∀ i < 39, ∀ name ∈ activeNames,
    written name (escapedName.drop i) = none ∨
      (i = 0 ∧ written name (escapedName.drop i) = some 39) := by
  decide +kernel

theorem rejectActivePdf_escapedName :
    ¬∃ error, rejectActivePdf (plainStart ++ escapedName) = .error error := by
  have hlen : escapedName.length = 39 := by decide
  have hall : ∀ p q, NameAt (plainStart ++ escapedName) p q →
      p = chunkSize - 33 ∧ q = p + 39 := by
    intro p q hname
    have hle := length_le_of_nameAt plainStart_plain hname
    have hbounds := nameAt_bounds hname
    rw [List.length_append, hlen] at hbounds
    obtain ⟨i, hi⟩ := Nat.exists_eq_add_of_le hle
    obtain ⟨name, hname, n, hwritten, rfl⟩ := hname
    rw [hi, List.drop_length_add_append] at hwritten
    rw [hi, plainStart_length]
    rcases nameAt_escapedName i (by omega) name hname with hnone | ⟨rfl, hsome⟩
    · rw [hwritten] at hnone
      cases hnone
    · rw [hwritten] at hsome
      obtain rfl := Option.some.inj hsome
      exact ⟨rfl, rfl⟩
  have hsize : chunkSize = 65536 := rfl
  rw [rejectActivePdf_error_iff]
  rintro (⟨p, q, hname, -, hseen⟩ | ⟨p, q, hname, k, hq, hcut⟩)
  · obtain ⟨rfl, rfl⟩ := hall p q hname
    refine hseen ⟨1, ?_, ?_⟩
    · unfold carrySize
      omega
    · omega
  · obtain ⟨rfl, rfl⟩ := hall p q hname
    have hend : (plainStart ++ escapedName).drop (chunkSize - 33 + 39) = [] := by
      rw [List.drop_eq_nil_iff, List.length_append, plainStart_length, hlen]
    rw [hend] at hcut
    have hzero : tokenLength [] = 0 := rfl
    omega

/-- An embedded file whose name is written with escapes is not seen across a border. -/
theorem not_rejectActivePdf_eq_whole :
    ¬∀ content : Bytes, (∃ error, rejectActivePdf content = .error error) ↔
      hasActiveName (decodeNames content) = true := by
  intro h
  refine rejectActivePdf_escapedName ((h _).mpr (hasActiveName_decodeNames.mpr ?_))
  refine ⟨plainStart.length, plainStart.length + 39,
    ⟨"/embeddedfile".toList.map fun c ↦ UInt8.ofNat c.toNat, by decide +kernel, 39, ?_, rfl⟩, ?_⟩
  · rw [List.drop_left]
    decide +kernel
  · unfold EndsWord
    rw [List.drop_length_add_append]
    decide +kernel

end CyberNetizen.Attachments
