import Mathlib.Data.List.DropRight

namespace Base64

def alphabet : List Char :=
  "ABCDEFGHIJKLMNOPQRSTUVWXYZabcdefghijklmnopqrstuvwxyz0123456789+/".toList

def charOf (n : ℕ) : Char := alphabet.getD n '='

def valueOf? (c : Char) : Option ℕ :=
  if c ∈ alphabet then some (alphabet.idxOf c) else none

def encode : List UInt8 → List Char
  | [] => []
  | [a] =>
    [charOf (a.toNat / 4), charOf (a.toNat % 4 * 16), '=', '=']
  | [a, b] =>
    [charOf (a.toNat / 4), charOf (a.toNat % 4 * 16 + b.toNat / 16), charOf (b.toNat % 16 * 4), '=']
  | a :: b :: c :: l =>
    charOf (a.toNat / 4) :: charOf (a.toNat % 4 * 16 + b.toNat / 16) ::
      charOf (b.toNat % 16 * 4 + c.toNat / 64) :: charOf (c.toNat % 64) :: encode l

/-- The bytes of a text in the alphabet, padded at its end. The bits of its last character that
belong to no byte are not looked at. -/
def decode? : List Char → Option (List UInt8)
  | [] => some []
  | [a, b, '=', '='] => do
    let a ← valueOf? a
    let b ← valueOf? b
    return [UInt8.ofNat (a * 4 + b / 16)]
  | [a, b, c, '='] => do
    let a ← valueOf? a
    let b ← valueOf? b
    let c ← valueOf? c
    return [UInt8.ofNat (a * 4 + b / 16), UInt8.ofNat (b % 16 * 16 + c / 4)]
  | a :: b :: c :: d :: l => do
    let a ← valueOf? a
    let b ← valueOf? b
    let c ← valueOf? c
    let d ← valueOf? d
    let bytes ← decode? l
    return UInt8.ofNat (a * 4 + b / 16) :: UInt8.ofNat (b % 16 * 16 + c / 4) ::
      UInt8.ofNat (c % 4 * 64 + d) :: bytes
  | _ => none

theorem valueOf?_charOf : ∀ n < 64, valueOf? (charOf n) = some n := by decide +kernel

theorem charOf_ne_pad : ∀ n < 64, charOf n ≠ '=' := by decide +kernel

theorem ofNat_eq {a : UInt8} {n : ℕ} (h : n = a.toNat) : UInt8.ofNat n = a := by
  rw [h, UInt8.ofNat_toNat]

/-- Bytes are read back from their text. -/
theorem decode?_encode (l : List UInt8) : decode? (encode l) = some l := by
  induction l using encode.induct with
  | case1 => rfl
  | case2 a =>
    have ha := a.toNat_lt
    rw [encode, decode?, valueOf?_charOf _ (by omega), valueOf?_charOf _ (by omega)]
    have hbyte : UInt8.ofNat (a.toNat / 4 * 4 + a.toNat % 4 * 16 / 16) = a := ofNat_eq (by omega)
    exact congrArg (fun x ↦ some [x]) hbyte
  | case3 a b =>
    have ha := a.toNat_lt
    have hb := b.toNat_lt
    have h1 : UInt8.ofNat (a.toNat / 4 * 4 + (a.toNat % 4 * 16 + b.toNat / 16) / 16) = a :=
      ofNat_eq (by omega)
    have h2 : UInt8.ofNat ((a.toNat % 4 * 16 + b.toNat / 16) % 16 * 16 + b.toNat % 16 * 4 / 4) = b :=
      ofNat_eq (by omega)
    rw [encode, decode?, valueOf?_charOf _ (by omega), valueOf?_charOf _ (by omega),
      valueOf?_charOf _ (by omega)]
    · change some [_, _] = some [a, b]
      rw [h1, h2]
    · exact charOf_ne_pad _ (by omega)
  | case4 a b c l ih =>
    have ha := a.toNat_lt
    have hb := b.toNat_lt
    have hc := c.toNat_lt
    have h1 : UInt8.ofNat (a.toNat / 4 * 4 + (a.toNat % 4 * 16 + b.toNat / 16) / 16) = a :=
      ofNat_eq (by omega)
    have h2 : UInt8.ofNat ((a.toNat % 4 * 16 + b.toNat / 16) % 16 * 16 +
        (b.toNat % 16 * 4 + c.toNat / 64) / 4) = b := ofNat_eq (by omega)
    have h3 : UInt8.ofNat ((b.toNat % 16 * 4 + c.toNat / 64) % 4 * 64 + c.toNat % 64) = c :=
      ofNat_eq (by omega)
    rw [encode, decode?, valueOf?_charOf _ (by omega), valueOf?_charOf _ (by omega),
      valueOf?_charOf _ (by omega), valueOf?_charOf _ (by omega), ih]
    · change some (_ :: _ :: _ :: l) = some (a :: b :: c :: l)
      rw [h1, h2, h3]
    · intro _ h
      exact absurd h (charOf_ne_pad _ (by omega))
    · intro h
      exact absurd h (charOf_ne_pad _ (by omega))

section urlSafe

def urlSafe (c : Char) : Char := if c = '+' then '-' else if c = '/' then '_' else c

def ofUrlSafe (c : Char) : Char := if c = '-' then '+' else if c = '_' then '/' else c

def encodeUrlSafe (l : List UInt8) : List Char :=
  ((encode l).map urlSafe).rdropWhile (· = '=')

def pads (length : ℕ) : ℕ := (4 - length % 4) % 4

/-- A lenient reader. It knows how far it is in a group of four, the bits that are left of the last
character and the pads since then. It skips what is not in the alphabet, and it stops where pads
fill up a group. -/
def scan : ℕ → ℕ → ℕ → List Char → Option (List UInt8)
  | position, _, _, [] => if position = 0 then some [] else none
  | position, left, padded, c :: l =>
    if c = '=' then
      if 2 ≤ position then
        if 4 ≤ position + (padded + 1) then some [] else scan position left (padded + 1) l
      else scan position left padded l
    else match valueOf? c with
      | none => scan position left padded l
      | some v =>
        if position = 0 then scan 1 v 0 l
        else if position = 1 then (scan 2 (v % 16) 0 l).map (UInt8.ofNat (left * 4 + v / 16) :: ·)
        else if position = 2 then (scan 3 (v % 4) 0 l).map (UInt8.ofNat (left * 16 + v / 4) :: ·)
        else (scan 0 0 0 l).map (UInt8.ofNat (left * 64 + v) :: ·)

def decodeUrlSafe? (l : List Char) : Option (List UInt8) :=
  scan 0 0 0 ((l ++ List.replicate (pads l.length) '=').map ofUrlSafe)

variable {position left padded n : ℕ} {rest : List Char}

theorem scan_charOf (hn : n < 64) : scan position left padded (charOf n :: rest) =
    if position = 0 then scan 1 n 0 rest
    else if position = 1 then (scan 2 (n % 16) 0 rest).map (UInt8.ofNat (left * 4 + n / 16) :: ·)
    else if position = 2 then (scan 3 (n % 4) 0 rest).map (UInt8.ofNat (left * 16 + n / 4) :: ·)
    else (scan 0 0 0 rest).map (UInt8.ofNat (left * 64 + n) :: ·) := by
  rw [scan, if_neg (charOf_ne_pad n hn), valueOf?_charOf n hn]

section groups

variable {i j k m : ℕ} (hi : i < 64) (hj : j < 64) (hk : k < 64) (hm : m < 64)
include hi hj

theorem scan_two : scan 0 left padded [charOf i, charOf j, '=', '='] =
    some [UInt8.ofNat (i * 4 + j / 16)] := by
  rw [scan_charOf hi, if_pos rfl, scan_charOf hj, if_neg (by omega), if_pos rfl]
  rfl

include hk

theorem scan_three : scan 0 left padded [charOf i, charOf j, charOf k, '='] =
    some [UInt8.ofNat (i * 4 + j / 16), UInt8.ofNat (j % 16 * 16 + k / 4)] := by
  rw [scan_charOf hi, if_pos rfl, scan_charOf hj, if_neg (by omega), if_pos rfl, scan_charOf hk,
    if_neg (by omega), if_neg (by omega), if_pos rfl]
  rfl

include hm

theorem scan_four : scan 0 left padded (charOf i :: charOf j :: charOf k :: charOf m :: rest) =
    (scan 0 0 0 rest).map fun bytes ↦ UInt8.ofNat (i * 4 + j / 16) ::
      UInt8.ofNat (j % 16 * 16 + k / 4) :: UInt8.ofNat (k % 4 * 64 + m) :: bytes := by
  rw [scan_charOf hi, if_pos rfl, scan_charOf hj, if_neg (by omega), if_pos rfl, scan_charOf hk,
    if_neg (by omega), if_neg (by omega), if_pos rfl, scan_charOf hm, if_neg (by omega),
    if_neg (by omega), if_neg (by omega), Option.map_map, Option.map_map]
  rfl

end groups

theorem scan_encode (l : List UInt8) : scan 0 0 0 (encode l) = some l := by
  induction l using encode.induct with
  | case1 => rfl
  | case2 a =>
    have ha := a.toNat_lt
    have hbyte : UInt8.ofNat (a.toNat / 4 * 4 + a.toNat % 4 * 16 / 16) = a := ofNat_eq (by omega)
    rw [encode, scan_two (by omega) (by omega), hbyte]
  | case3 a b =>
    have ha := a.toNat_lt
    have hb := b.toNat_lt
    have h1 : UInt8.ofNat (a.toNat / 4 * 4 + (a.toNat % 4 * 16 + b.toNat / 16) / 16) = a :=
      ofNat_eq (by omega)
    have h2 : UInt8.ofNat ((a.toNat % 4 * 16 + b.toNat / 16) % 16 * 16 + b.toNat % 16 * 4 / 4) = b :=
      ofNat_eq (by omega)
    rw [encode, scan_three (by omega) (by omega) (by omega), h1, h2]
  | case4 a b c l ih =>
    have ha := a.toNat_lt
    have hb := b.toNat_lt
    have hc := c.toNat_lt
    have h1 : UInt8.ofNat (a.toNat / 4 * 4 + (a.toNat % 4 * 16 + b.toNat / 16) / 16) = a :=
      ofNat_eq (by omega)
    have h2 : UInt8.ofNat ((a.toNat % 4 * 16 + b.toNat / 16) % 16 * 16 +
        (b.toNat % 16 * 4 + c.toNat / 64) / 4) = b := ofNat_eq (by omega)
    have h3 : UInt8.ofNat ((b.toNat % 16 * 4 + c.toNat / 64) % 4 * 64 + c.toNat % 64) = c :=
      ofNat_eq (by omega)
    rw [encode, scan_four (by omega) (by omega) (by omega) (by omega), ih, h1, h2, h3]
    rfl

theorem charOf_mem (n : ℕ) (h : n < 64) : charOf n ∈ alphabet := by
  have hvalue := valueOf?_charOf n h
  unfold valueOf? at hvalue
  split at hvalue
  · assumption
  · cases hvalue

/-- A text is made of characters of the alphabet and of the pads that its length lacks. -/
theorem encode_eq_append (l : List UInt8) :
    ∃ body, encode l = body ++ List.replicate (pads body.length) '=' ∧ ∀ c ∈ body, c ∈ alphabet := by
  induction l using encode.induct with
  | case1 => exact ⟨[], rfl, fun c hc ↦ absurd hc List.not_mem_nil⟩
  | case2 a =>
    have ha := a.toNat_lt
    refine ⟨[_, _], rfl, fun c hc ↦ ?_⟩
    simp only [List.mem_cons, List.not_mem_nil, or_false] at hc
    rcases hc with rfl | rfl <;> exact charOf_mem _ (by omega)
  | case3 a b =>
    have ha := a.toNat_lt
    have hb := b.toNat_lt
    refine ⟨[_, _, _], rfl, fun c hc ↦ ?_⟩
    simp only [List.mem_cons, List.not_mem_nil, or_false] at hc
    rcases hc with rfl | rfl | rfl <;> exact charOf_mem _ (by omega)
  | case4 a b c l ih =>
    have ha := a.toNat_lt
    have hb := b.toNat_lt
    have hc := c.toNat_lt
    obtain ⟨body, hbody, hmem⟩ := ih
    have hpads : pads (body.length + 4) = pads body.length := by simp [pads]
    refine ⟨charOf (a.toNat / 4) :: charOf (a.toNat % 4 * 16 + b.toNat / 16) ::
      charOf (b.toNat % 16 * 4 + c.toNat / 64) :: charOf (c.toNat % 64) :: body, ?_, ?_⟩
    · rw [encode, hbody]
      simp only [List.length_cons, List.cons_append]
      rw [hpads]
    · intro x hx
      simp only [List.mem_cons] at hx
      rcases hx with rfl | rfl | rfl | rfl | hx
      · exact charOf_mem _ (by omega)
      · exact charOf_mem _ (by omega)
      · exact charOf_mem _ (by omega)
      · exact charOf_mem _ (by omega)
      · exact hmem x hx

theorem ofUrlSafe_urlSafe {c : Char} (h : c ∈ alphabet) : ofUrlSafe (urlSafe c) = c :=
  of_decide_eq_true (List.all_eq_true.mp (by decide +kernel :
    (alphabet.all fun c ↦ ofUrlSafe (urlSafe c) = c) = true) c h)

theorem urlSafe_ne_pad {c : Char} (h : c ∈ alphabet) : urlSafe c ≠ '=' :=
  of_decide_eq_true (List.all_eq_true.mp (by decide +kernel :
    (alphabet.all fun c ↦ urlSafe c ≠ '=') = true) c h)

theorem rdropWhile_append_replicate {body : List Char} (h : ∀ c ∈ body, c ≠ '=') (k : ℕ) :
    (body ++ List.replicate k '=').rdropWhile (· = '=') = body := by
  induction k with
  | zero =>
    rw [List.replicate_zero, List.append_nil, List.rdropWhile_eq_self_iff]
    intro hne
    have hlast := h _ (List.getLast_mem hne)
    simp [hlast]
  | succ k ih =>
    rw [List.replicate_succ', ← List.append_assoc, List.rdropWhile_concat_pos _ _ _ (by simp), ih]

theorem decodeUrlSafe?_encodeUrlSafe (l : List UInt8) :
    decodeUrlSafe? (encodeUrlSafe l) = some l := by
  obtain ⟨body, hbody, hmem⟩ := encode_eq_append l
  have hplain : encodeUrlSafe l = body.map urlSafe := by
    unfold encodeUrlSafe
    rw [hbody, List.map_append, List.map_replicate, show urlSafe '=' = '=' from rfl]
    apply rdropWhile_append_replicate
    intro c hc
    obtain ⟨x, hx, rfl⟩ := List.mem_map.mp hc
    exact urlSafe_ne_pad (hmem x hx)
  have hback : (body.map urlSafe).map ofUrlSafe = body := by
    rw [List.map_map]
    exact (List.map_congr_left fun c hc ↦ ofUrlSafe_urlSafe (hmem c hc)).trans (List.map_id _)
  unfold decodeUrlSafe?
  rw [hplain, List.length_map, List.map_append, hback, List.map_replicate,
    show ofUrlSafe '=' = '=' from rfl, ← hbody, scan_encode]

end urlSafe

end Base64
