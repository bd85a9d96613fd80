import Mathlib.Algebra.Order.Ring.Nat

namespace Digits

/-- The `width` lowest digits, the most significant first. -/
def fixed (base : ℕ) : ℕ → ℕ → List ℕ
  | 0, _ => []
  | width + 1, n => fixed base width (n / base) ++ [n % base]

def value (base : ℕ) (digits : List ℕ) : ℕ := digits.foldl (fun n d ↦ base * n + d) 0

@[simp] theorem length_fixed (base width n : ℕ) : (fixed base width n).length = width := by
  induction width generalizing n with
  | zero => rfl
  | succ width ih => rw [fixed, List.length_append, ih, List.length_singleton]

theorem fixed_lt {base : ℕ} (hb : 0 < base) (width n : ℕ) : ∀ d ∈ fixed base width n, d < base := by
  induction width generalizing n with
  | zero => exact fun d h ↦ absurd h List.not_mem_nil
  | succ width ih =>
    intro d hd
    rcases List.mem_append.mp hd with hd | hd
    · exact ih (n / base) d hd
    · rw [List.mem_singleton.mp hd]
      exact Nat.mod_lt n hb

theorem value_fixed {base : ℕ} (width : ℕ) {n : ℕ} (h : n < base ^ width) :
    value base (fixed base width n) = n := by
  induction width generalizing n with
  | zero =>
    rw [pow_zero, Nat.lt_one_iff] at h
    rw [h]
    rfl
  | succ width ih =>
    have hdiv : n / base < base ^ width := by
      rw [pow_succ] at h
      exact Nat.div_lt_of_lt_mul (by rwa [mul_comm])
    have hvalue := ih hdiv
    unfold value at hvalue ⊢
    rw [fixed, List.foldl_append, hvalue]
    exact Nat.div_add_mod n base

def digitValue? (c : Char) : Option ℕ :=
  if '0' ≤ c ∧ c ≤ '9' then some (c.toNat - '0'.toNat)
  else if 'a' ≤ c ∧ c ≤ 'f' then some (c.toNat - 'a'.toNat + 10)
  else if 'A' ≤ c ∧ c ≤ 'F' then some (c.toNat - 'A'.toNat + 10)
  else none

theorem digitValue?_digitChar : ∀ d < 16, digitValue? (Nat.digitChar d) = some d := by decide

/-- A number in exactly `width` characters. -/
def text (base width n : ℕ) : List Char := (fixed base width n).map Nat.digitChar

def ofText? (base : ℕ) (l : List Char) : Option ℕ :=
  (l.mapM digitValue?).bind fun digits ↦
    if digits.all (· < base) then some (value base digits) else none

@[simp] theorem length_text (base width n : ℕ) : (text base width n).length = width := by
  rw [text, List.length_map, length_fixed]

theorem mapM_digitValue? {l : List ℕ} (h : ∀ d ∈ l, d < 16) :
    (l.map Nat.digitChar).mapM digitValue? = some l := by
  induction l with
  | nil => rfl
  | cons d l ih =>
    have hd := digitValue?_digitChar d (h d List.mem_cons_self)
    have hl := ih fun x hx ↦ h x (List.mem_cons_of_mem d hx)
    rw [List.map_cons, List.mapM_cons, hd, hl]
    rfl

theorem ofText?_text {base width n : ℕ} (hb : 0 < base) (hb' : base ≤ 16) (h : n < base ^ width) :
    ofText? base (text base width n) = some n := by
  have hlt := fixed_lt hb width n
  have hdigits := mapM_digitValue? fun d hd ↦ Nat.lt_of_lt_of_le (hlt d hd) hb'
  have hall : (fixed base width n).all (· < base) = true := by
    rw [List.all_eq_true]
    exact fun d hd ↦ decide_eq_true (hlt d hd)
  rw [ofText?, text, hdigits, Option.bind_some, if_pos hall, value_fixed width h]

end Digits

namespace IntText

def decimalZeros : List ℕ :=
  [0x30, 0x660, 0x6F0, 0x7C0, 0x966, 0x9E6, 0xA66, 0xAE6, 0xB66, 0xBE6, 0xC66, 0xCE6, 0xD66, 0xDE6,
    0xE50, 0xED0, 0xF20, 0x1040, 0x1090, 0x17E0, 0x1810, 0x1946, 0x19D0, 0x1A80, 0x1A90, 0x1B50,
    0x1BB0, 0x1C40, 0x1C50, 0xA620, 0xA8D0, 0xA900, 0xA9D0, 0xA9F0, 0xAA50, 0xABF0, 0xFF10, 0x104A0,
    0x10D30, 0x11066, 0x110F0, 0x11136, 0x111D0, 0x112F0, 0x11450, 0x114D0, 0x11650, 0x116C0,
    0x11730, 0x118E0, 0x11950, 0x11C50, 0x11D50, 0x11DA0, 0x11F50, 0x16A60, 0x16AC0, 0x16B50,
    0x1D7CE, 0x1D7D8, 0x1D7E2, 0x1D7EC, 0x1D7F6, 0x1E140, 0x1E2F0, 0x1E4F0, 0x1E950, 0x1FBF0]

def toAscii (c : Char) : Char :=
  ((decimalZeros.find? fun first ↦ first ≤ c.toNat && c.toNat < first + 10).map fun first ↦
    Nat.digitChar (c.toNat - first)).getD c

/-- The characters that `int` drops at the ends; `str.strip` drops four more. -/
def isSpace (c : Char) : Bool :=
  let n := c.toNat
  (9 ≤ n && n ≤ 13) || n = 32 || n = 0x85 || n = 0xA0 || n = 0x1680 || (0x2000 ≤ n && n ≤ 0x200A)
    || n = 0x2028 || n = 0x2029 || n = 0x202F || n = 0x205F || n = 0x3000

def trim (drops : Char → Bool) (text : List Char) : List Char :=
  ((text.dropWhile drops).reverse.dropWhile drops).reverse

def unsigned? (base : ℕ) (text : List Char) : Option ℕ :=
  let groups := text.splitOn '_'
  if groups.any List.isEmpty then none else Digits.ofText? base groups.flatten

def afterMark (base : ℕ) (text : List Char) : List Char :=
  if base = 16 ∧ (text.take 2 = ['0', 'x'] ∨ text.take 2 = ['0', 'X']) then
    if text[2]? = some '_' then text.drop 3 else text.drop 2
  else text

/-- `int(text, base)` of base 10 or 16. -/
def ofText? (base : ℕ) (text : List Char) : Option ℤ :=
  let signed := trim isSpace (text.map toAscii)
  let negative := signed.head? = some '-'
  let rest := if negative ∨ signed.head? = some '+' then signed.tail else signed
  (unsigned? base (afterMark base rest)).map fun (n : ℕ) ↦ if negative then -(n : ℤ) else n

theorem trim_eq_self {drops : Char → Bool} {text : List Char} (h : ∀ c ∈ text, drops c = false) :
    trim drops text = text := by
  have hdrop : ∀ l : List Char, (∀ c ∈ l, drops c = false) → l.dropWhile drops = l := by
    intro l hl
    cases l with
    | nil => rfl
    | cons c l => exact List.dropWhile_cons_of_neg (by simp [hl c List.mem_cons_self])
  rw [trim, hdrop _ h, hdrop _ fun c hc ↦ h c (List.mem_reverse.mp hc), List.reverse_reverse]

theorem digitChar_plain : ∀ d < 16, toAscii (Nat.digitChar d) = Nat.digitChar d ∧
    isSpace (Nat.digitChar d) = false ∧ Nat.digitChar d ∉ ['_', '-', '+', 'x', 'X'] := by
  decide +kernel

/-- A number is read from its digits. -/
theorem ofText?_digits {base : ℕ} {digits : List ℕ} (hb : base ≤ 16) (hne : digits ≠ [])
    (h : ∀ d ∈ digits, d < base) :
    ofText? base (digits.map Nat.digitChar) = some (Digits.value base digits : ℤ) := by
  have hplain : ∀ c ∈ digits.map Nat.digitChar, toAscii c = c ∧ isSpace c = false ∧
      c ∉ ['_', '-', '+', 'x', 'X'] := by
    intro c hc
    obtain ⟨d, hd, rfl⟩ := List.mem_map.mp hc
    exact digitChar_plain d (Nat.lt_of_lt_of_le (h d hd) hb)
  have hascii : (digits.map Nat.digitChar).map toAscii = digits.map Nat.digitChar :=
    (List.map_congr_left fun c hc ↦ (hplain c hc).1).trans (List.map_id _)
  have htrim : trim isSpace (digits.map Nat.digitChar) = digits.map Nat.digitChar :=
    trim_eq_self fun c hc ↦ (hplain c hc).2.1
  have hunmarked : afterMark base (digits.map Nat.digitChar) = digits.map Nat.digitChar := by
    have hx : ∀ x ∈ ['x', 'X'], ¬(digits.map Nat.digitChar).take 2 = ['0', x] := by
      intro x hx hmark
      have hmem : x ∈ (digits.map Nat.digitChar).take 2 := by rw [hmark]; simp
      have hother := (hplain x (List.mem_of_mem_take hmem)).2.2
      simp only [List.mem_cons, List.not_mem_nil, or_false] at hx
      rcases hx with rfl | rfl
      · exact hother (by decide)
      · exact hother (by decide)
    rw [afterMark, if_neg]
    rintro ⟨-, hmark | hmark⟩
    · exact hx 'x' (by decide) hmark
    · exact hx 'X' (by decide) hmark
  have hread : unsigned? base (digits.map Nat.digitChar) = some (Digits.value base digits) := by
    have hsplit : (digits.map Nat.digitChar).splitOn '_' = [digits.map Nat.digitChar] :=
      List.splitOn_eq_singleton fun hmem ↦ (hplain '_' hmem).2.2 (by decide)
    have hall : digits.all (· < base) = true :=
      List.all_eq_true.mpr fun d hd ↦ decide_eq_true (h d hd)
    rw [unsigned?, hsplit]
    simp only [List.any_cons, List.any_nil, Bool.or_false, List.flatten_singleton]
    rw [if_neg (by simpa using hne), Digits.ofText?,
      Digits.mapM_digitValue? fun d hd ↦ Nat.lt_of_lt_of_le (h d hd) hb, Option.bind_some,
      if_pos hall]
  have hsign : ∀ s ∈ ['-', '+'], ¬(digits.map Nat.digitChar).head? = some s := by
    intro s hs hhead
    have hother := (hplain s (List.mem_of_head? hhead)).2.2
    simp only [List.mem_cons, List.not_mem_nil, or_false] at hs
    rcases hs with rfl | rfl
    · exact hother (by decide)
    · exact hother (by decide)
  unfold ofText?
  dsimp only
  rw [hascii, htrim, if_neg (not_or.mpr ⟨hsign '-' (by decide), hsign '+' (by decide)⟩), hunmarked,
    hread, Option.map_some, if_neg (hsign '-' (by decide))]

/-- A number is read from the text that it is written as. -/
theorem ofText?_toDigits (n : ℕ) : ofText? 10 (Nat.toDigits 10 n) = some (n : ℤ) := by
  have hchar : ∀ c : Char, c.isDigit = true →
      c.toNat - 48 < 10 ∧ Nat.digitChar (c.toNat - 48) = c := by
    intro c hc
    simp only [Char.isDigit, Bool.and_eq_true, decide_eq_true_eq] at hc
    have hge : 48 ≤ c.toNat := hc.1
    have hle : c.toNat ≤ 57 := hc.2
    have hof : ∀ d < 10, Nat.digitChar d = Char.ofNat (d + 48) := by decide
    refine ⟨by omega, ?_⟩
    rw [hof _ (by omega), Nat.sub_add_cancel hge, Char.ofNat_toNat]
  have hdigit : ∀ c ∈ Nat.toDigits 10 n, c.isDigit = true :=
    fun c hc ↦ Nat.isDigit_of_mem_toDigits (by omega) (by omega) hc
  have htext : ((Nat.toDigits 10 n).map fun c ↦ c.toNat - 48).map Nat.digitChar =
      Nat.toDigits 10 n := by
    rw [List.map_map]
    exact (List.map_congr_left fun c hc ↦ (hchar c (hdigit c hc)).2).trans (List.map_id _)
  have hvalue : Digits.value 10 ((Nat.toDigits 10 n).map fun c ↦ c.toNat - 48) = n := by
    rw [Digits.value, List.foldl_map]
    exact Nat.ofDigitChars_ten_toDigits
  have hread := @ofText?_digits 10 _ (by decide)
    (mt List.map_eq_nil_iff.mp (Nat.toDigits_ne_nil (b := 10) (n := n))) (fun d hd ↦ by
      obtain ⟨c, hc, rfl⟩ := List.mem_map.mp hd
      exact (hchar c (hdigit c hc)).1)
  rwa [htext, hvalue] at hread

end IntText

namespace WireText

open Digits

section encoding

/-- `text.encode()` -/
def utf8 (text : List Char) : List UInt8 := (String.ofList text).toUTF8.data.toList

/-- `bytes.decode()` -/
def utf8Text? (bytes : List UInt8) : Option (List Char) :=
  (String.fromUTF8? ⟨bytes.toArray⟩).map String.toList

theorem utf8Text?_utf8 (text : List Char) : utf8Text? (utf8 text) = some text := by
  unfold utf8Text? utf8 String.fromUTF8?
  have hvalid : ByteArray.IsValidUTF8 ⟨(String.ofList text).toUTF8.data⟩ :=
    (String.ofList text).isValidUTF8
  rw [Array.toArray_toList, dif_pos hvalid, Option.map_some]
  exact congrArg some (String.toList_ofList ..)

end encoding

section uuid

def uuidText (n : ℕ) : List Char :=
  let d := text 16 32 n
  d.take 8 ++ '-' :: ((d.drop 8).take 4 ++ '-' :: ((d.drop 12).take 4 ++ '-' ::
    ((d.drop 16).take 4 ++ '-' :: d.drop 20)))

/-- `text.replace(word, "")` of a nonempty word; the count is of the characters left to pass. -/
def remove (word : List Char) : ℕ → List Char → List Char
  | _, [] => []
  | pending + 1, _ :: text => remove word pending text
  | 0, c :: text =>
    if word.isPrefixOf (c :: text) then remove word (word.length - 1) text
    else c :: remove word 0 text

theorem remove_eq_self {c : Char} {word text : List Char} (h : c ∉ text) :
    remove (c :: word) 0 text = text := by
  induction text with
  | nil => rfl
  | cons d text ih =>
    have hne : ¬c = d := fun hcd ↦ h (hcd ▸ List.mem_cons_self)
    rw [remove, ih fun hmem ↦ h (List.mem_cons_of_mem d hmem)]
    simp [List.isPrefixOf, hne]

/-- `UUID(text)`. -/
def uuidOfText? (text : List Char) : Option ℕ :=
  let bare := remove "uuid:".toList 0 (remove "urn:".toList 0 text)
  let hex := (IntText.trim (fun c ↦ c = '{' || c = '}') bare).filter (· ≠ '-')
  if hex.length = 32 then
    (IntText.ofText? 16 hex).bind fun n ↦ if 0 ≤ n ∧ n < 2 ^ 128 then some n.toNat else none
  else none

theorem digitChar_ne_hyphen : ∀ d < 16, Nat.digitChar d ≠ '-' := by decide

theorem text_ne_hyphen {width n : ℕ} : ∀ c ∈ text 16 width n, c ≠ '-' := by
  intro c hc
  obtain ⟨d, hd, rfl⟩ := List.mem_map.mp hc
  exact digitChar_ne_hyphen d (fixed_lt (by decide) width n d hd)

theorem filter_uuidText (n : ℕ) : (uuidText n).filter (· ≠ '-') = text 16 32 n := by
  have hkeep : ∀ l : List Char, l ⊆ text 16 32 n → l.filter (· ≠ '-') = l := by
    intro l hl
    rw [List.filter_eq_self]
    exact fun c hc ↦ decide_eq_true (text_ne_hyphen c (hl hc))
  have htake : ∀ i j, (((text 16 32 n).drop i).take j).filter (· ≠ '-') =
      ((text 16 32 n).drop i).take j := fun i j ↦
    hkeep _ fun c hc ↦ List.mem_of_mem_drop (List.mem_of_mem_take hc)
  have hfirst : ((text 16 32 n).take 8).filter (· ≠ '-') = (text 16 32 n).take 8 :=
    hkeep _ fun c hc ↦ List.mem_of_mem_take hc
  have hlast : ((text 16 32 n).drop 20).filter (· ≠ '-') = (text 16 32 n).drop 20 :=
    hkeep _ fun c hc ↦ List.mem_of_mem_drop hc
  have hhyphen : ∀ l : List Char, ('-' :: l).filter (· ≠ '-') = l.filter (· ≠ '-') := fun l ↦ rfl
  have hjoin : ∀ i j, ((text 16 32 n).drop i).take j ++ (text 16 32 n).drop (i + j) =
      (text 16 32 n).drop i := by
    intro i j
    rw [← List.drop_drop, List.take_append_drop]
  unfold uuidText
  dsimp only
  rw [List.filter_append, hfirst, hhyphen, List.filter_append, htake, hhyphen, List.filter_append,
    htake, hhyphen, List.filter_append, htake, hhyphen, hlast, hjoin 16 4, hjoin 12 4, hjoin 8 4,
    List.take_append_drop]

theorem mem_uuidText {n : ℕ} {c : Char} (h : c ∈ uuidText n) : c = '-' ∨ c ∈ text 16 32 n := by
  unfold uuidText at h
  simp only [List.mem_append, List.mem_cons] at h
  rcases h with h | h | h | h | h | h | h | h | h
  · exact .inr (List.mem_of_mem_take h)
  · exact .inl h
  · exact .inr (List.mem_of_mem_drop (List.mem_of_mem_take h))
  · exact .inl h
  · exact .inr (List.mem_of_mem_drop (List.mem_of_mem_take h))
  · exact .inl h
  · exact .inr (List.mem_of_mem_drop (List.mem_of_mem_take h))
  · exact .inl h
  · exact .inr (List.mem_of_mem_drop h)

theorem uuidOfText?_uuidText {n : ℕ} (h : n < 2 ^ 128) : uuidOfText? (uuidText n) = some n := by
  have hother : ∀ c ∈ uuidText n, c ≠ 'u' ∧ c ≠ '{' ∧ c ≠ '}' := by
    have hdigit : ∀ d < 16, Nat.digitChar d ≠ 'u' ∧ Nat.digitChar d ≠ '{' ∧
      Nat.digitChar d ≠ '}' := by decide
    intro c hc
    rcases mem_uuidText hc with rfl | hc
    · decide
    · obtain ⟨d, hd, rfl⟩ := List.mem_map.mp hc
      exact hdigit d (fixed_lt (by decide) 32 n d hd)
  have hu : 'u' ∉ uuidText n := fun hmem ↦ (hother 'u' hmem).1 rfl
  have hurn : remove "urn:".toList 0 (uuidText n) = uuidText n :=
    remove_eq_self hu
  have huuid : remove "uuid:".toList 0 (uuidText n) = uuidText n :=
    remove_eq_self hu
  have hbraces : IntText.trim (fun c ↦ c = '{' || c = '}') (uuidText n) = uuidText n := by
    refine IntText.trim_eq_self fun c hc ↦ ?_
    obtain ⟨-, hopen, hclose⟩ := hother c hc
    simp [hopen, hclose]
  have hdigits : IntText.ofText? 16 (text 16 32 n) = some (n : ℤ) := by
    have hne : fixed 16 32 n ≠ [] := List.ne_nil_of_length_pos (by rw [length_fixed]; decide)
    rw [text, IntText.ofText?_digits (by decide) hne (fixed_lt (by decide) 32 n),
      value_fixed 32 h]
  unfold uuidOfText?
  dsimp only
  rw [hurn, huuid, hbraces, filter_uuidText, if_pos (length_text 16 32 n), hdigits,
    Option.bind_some, if_pos ⟨Int.natCast_nonneg n, by exact_mod_cast h⟩, Int.toNat_natCast]

theorem length_uuidText (n : ℕ) : (uuidText n).length = 36 := by
  simp [uuidText]

theorem uuidText_inj {m n : ℕ} (hm : m < 2 ^ 128) (hn : n < 2 ^ 128)
    (h : uuidText m = uuidText n) : m = n := by
  have hread := uuidOfText?_uuidText hm
  rw [h, uuidOfText?_uuidText hn] at hread
  exact (Option.some.inj hread).symm

end uuid

section calendar

def isLeap (year : ℕ) : Bool := year % 4 = 0 && (year % 100 ≠ 0 || year % 400 = 0)

def daysInMonth (year month : ℕ) : ℕ :=
  if month = 2 then (if isLeap year then 29 else 28)
  else if month = 4 ∨ month = 6 ∨ month = 9 ∨ month = 11 then 30
  else 31

def daysInYear (year : ℕ) : ℕ := if isLeap year then 366 else 365

/-- The length of `j` consecutive spans from the `k`th on. -/
def total (f : ℕ → ℕ) : ℕ → ℕ → ℕ
  | _, 0 => 0
  | k, j + 1 => f k + total f (k + 1) j

/-- The span, counted from the `k`th on, in which the `n`th day lies, and the day within it. -/
def split (f : ℕ → ℕ) : ℕ → ℕ → ℕ → ℕ × ℕ
  | 0, k, n => (k, n)
  | fuel + 1, k, n => if n < f k then (k, n) else split f fuel (k + 1) (n - f k)

variable {f : ℕ → ℕ}

theorem split_spec (hf : ∀ k, 0 < f k) {fuel k n : ℕ} (h : n ≤ fuel) :
    ∃ j, (split f fuel k n).1 = k + j ∧ n = total f k j + (split f fuel k n).2 ∧
      (split f fuel k n).2 < f (k + j) := by
  induction fuel generalizing k n with
  | zero =>
    obtain rfl := Nat.le_zero.mp h
    exact ⟨0, rfl, rfl, hf k⟩
  | succ fuel ih =>
    unfold split
    by_cases hn : n < f k
    · rw [if_pos hn]
      exact ⟨0, rfl, (Nat.zero_add n).symm, hn⟩
    · rw [if_neg hn]
      have hk := hf k
      obtain ⟨j, hspan, hsum, hlt⟩ := ih (k := k + 1) (n := n - f k) (by omega)
      refine ⟨j + 1, by omega, ?_, ?_⟩
      · rw [total]
        omega
      · rw [show k + (j + 1) = k + 1 + j by omega]
        exact hlt

theorem total_le (k : ℕ) {i j : ℕ} (h : i ≤ j) : total f k i ≤ total f k j := by
  induction j generalizing k i with
  | zero =>
    rw [Nat.le_zero.mp h]
  | succ j ih =>
    cases i with
    | zero => exact Nat.zero_le _
    | succ i => exact Nat.add_le_add_left (ih (k + 1) (Nat.le_of_succ_le_succ h)) (f k)

theorem daysInMonth_pos (year month : ℕ) : 0 < daysInMonth year month := by
  unfold daysInMonth
  split
  · split <;> decide
  · split <;> decide

theorem daysInYear_pos (year : ℕ) : 0 < daysInYear year := by
  unfold daysInYear
  split <;> decide

theorem total_daysInMonth (year : ℕ) : total (daysInMonth year) 1 12 = daysInYear year := by
  cases h : isLeap year <;> simp [total, daysInMonth, daysInYear, h]

theorem daysInMonth_le (year month : ℕ) : daysInMonth year month ≤ 31 := by
  unfold daysInMonth
  split
  · split <;> decide
  · split <;> decide

def dateOfDay (day : ℕ) : ℕ × ℕ × ℕ :=
  let (year, dayOfYear) := split daysInYear day 1970 day
  let (month, dayOfMonth) := split (daysInMonth year) dayOfYear 1 dayOfYear
  (year, month, dayOfMonth + 1)

def dayOfDate? (year month dayOfMonth : ℕ) : Option ℕ :=
  if 1970 ≤ year ∧ 1 ≤ month ∧ month ≤ 12 ∧ 1 ≤ dayOfMonth ∧ dayOfMonth ≤ daysInMonth year month then
    some (total daysInYear 1970 (year - 1970) + total (daysInMonth year) 1 (month - 1) +
      (dayOfMonth - 1))
  else none

def endOfDays : ℕ := 2932897

theorem total_endOfDays : total daysInYear 1970 8030 = endOfDays := by decide +kernel

theorem dayOfDate?_dateOfDay {day : ℕ} (h : day < endOfDays) :
    let (year, month, dayOfMonth) := dateOfDay day
    dayOfDate? year month dayOfMonth = some day ∧ year < 10 ^ 4 ∧ month < 10 ^ 2 ∧
      dayOfMonth < 10 ^ 2 := by
  unfold dateOfDay
  obtain ⟨j, hyear, hday, hlt⟩ := split_spec daysInYear_pos (k := 1970) (Nat.le_refl day)
  cases hs : split daysInYear day 1970 day with
  | mk year dayOfYear =>
  rw [hs] at hyear hday hlt
  dsimp only at hyear hday hlt ⊢
  subst hyear
  obtain ⟨i, hmonth, hrest, hlt'⟩ := split_spec (daysInMonth_pos (1970 + j)) (k := 1)
    (Nat.le_refl dayOfYear)
  cases hs' : split (daysInMonth (1970 + j)) dayOfYear 1 dayOfYear with
  | mk month dayOfMonth =>
  rw [hs'] at hmonth hrest hlt'
  dsimp only at hmonth hrest hlt' ⊢
  subst hmonth
  have hj : j < 8030 := by
    by_contra hj
    have hle := total_le (f := daysInYear) 1970 (Nat.le_of_not_lt hj)
    rw [total_endOfDays] at hle
    omega
  have hi : i < 12 := by
    by_contra hi
    have hle := total_le (f := daysInMonth (1970 + j)) 1 (Nat.le_of_not_lt hi)
    rw [total_daysInMonth] at hle
    omega
  have hdays := daysInMonth_le (1970 + j) (1 + i)
  refine ⟨?_, by omega, by omega, by omega⟩
  unfold dayOfDate?
  rw [if_pos ⟨by omega, by omega, by omega, by omega, by omega⟩, Nat.add_sub_cancel_left,
    Nat.add_sub_cancel_left, Nat.add_sub_cancel]
  exact congrArg some (by omega)

end calendar

section instant

def readField (width : ℕ) (l : List Char) : Option (ℕ × List Char) :=
  if l.length < width then none else (ofText? 10 (l.take width)).map fun n ↦ (n, l.drop width)

def readChar (c : Char) : List Char → Option (List Char)
  | d :: l => if d = c then some l else none
  | [] => none

theorem readField_text {width n : ℕ} (h : n < 10 ^ width) (l : List Char) :
    readField width (text 10 width n ++ l) = some (n, l) := by
  have hlength : ¬(text 10 width n ++ l).length < width := by
    rw [List.length_append, length_text]
    omega
  rw [readField, if_neg hlength, List.take_left' (length_text 10 width n),
    List.drop_left' (length_text 10 width n), ofText?_text (by decide) (by decide) h]
  rfl

@[simp] theorem readChar_cons (c : Char) (l : List Char) : readChar c (c :: l) = some l := if_pos rfl

/-- The extended form of an instant in UTC, given in microseconds since 1970; a fraction of zero is
left out. -/
def isoText (t : ℕ) : List Char :=
  let (year, month, day) := dateOfDay (t / 86400000000)
  let second := t / 1000000 % 86400
  let fraction := t % 1000000
  text 10 4 year ++ '-' :: (text 10 2 month ++ '-' :: (text 10 2 day ++ 'T' ::
    (text 10 2 (second / 3600) ++ ':' :: (text 10 2 (second / 60 % 60) ++ ':' ::
      (text 10 2 (second % 60) ++
        ((if fraction = 0 then [] else '.' :: text 10 6 fraction) ++ "+00:00".toList))))))

def readFraction : List Char → Option (ℕ × List Char)
  | '.' :: l => readField 6 l
  | l => some (0, l)

/-- The instant that such a text stands for. -/
def ofIsoText? (l : List Char) : Option ℕ := do
  let (year, l) ← readField 4 l
  let l ← readChar '-' l
  let (month, l) ← readField 2 l
  let l ← readChar '-' l
  let (day, l) ← readField 2 l
  let l ← readChar 'T' l
  let (hour, l) ← readField 2 l
  let l ← readChar ':' l
  let (minute, l) ← readField 2 l
  let l ← readChar ':' l
  let (second, l) ← readField 2 l
  let (fraction, l) ← readFraction l
  let days ← dayOfDate? year month day
  if hour < 24 ∧ minute < 60 ∧ second < 60 ∧ l = "+00:00".toList then
    some ((((days * 24 + hour) * 60 + minute) * 60 + second) * 1000000 + fraction)
  else none

theorem bind_of_some {α β : Type} {o : Option α} {f : α → Option β} {a : α} (h : o = some a) :
    (o >>= f) = f a := by
  rw [h]
  rfl

theorem readFraction_text {n : ℕ} (h : n < 10 ^ 6) :
    readFraction ((if n = 0 then [] else '.' :: text 10 6 n) ++ "+00:00".toList) =
      some (n, "+00:00".toList) := by
  by_cases hn : n = 0
  · rw [if_pos hn, hn]
    rfl
  · rw [if_neg hn]
    exact readField_text h _

theorem ofIsoText?_isoText {t : ℕ} (h : t < endOfDays * 86400000000) :
    ofIsoText? (isoText t) = some t := by
  have hday : t / 86400000000 < endOfDays := Nat.div_lt_of_lt_mul (by rwa [Nat.mul_comm])
  have hdate := dayOfDate?_dateOfDay hday
  unfold isoText
  cases hd : dateOfDay (t / 86400000000) with
  | mk year rest =>
  obtain ⟨month, day⟩ := rest
  rw [hd] at hdate
  dsimp only at hdate ⊢
  obtain ⟨hdays, hyear, hmonth, hdayOfMonth⟩ := hdate
  have hsecond : t / 1000000 % 86400 < 86400 := Nat.mod_lt _ (by decide)
  generalize hs : t / 1000000 % 86400 = second at hsecond ⊢
  have hhour : second / 3600 < 10 ^ 2 := by omega
  have hminute : second / 60 % 60 < 10 ^ 2 := by omega
  have hrest : second % 60 < 10 ^ 2 := by omega
  have hfraction : t % 1000000 < 10 ^ 6 := Nat.mod_lt _ (by decide)
  have hinstant : second / 3600 < 24 ∧ second / 60 % 60 < 60 ∧ second % 60 < 60 ∧
      "+00:00".toList = "+00:00".toList := ⟨by omega, by omega, by omega, rfl⟩
  unfold ofIsoText?
  rw [bind_of_some (readField_text hyear _)]
  dsimp only
  rw [bind_of_some (readChar_cons _ _), bind_of_some (readField_text hmonth _)]
  dsimp only
  rw [bind_of_some (readChar_cons _ _), bind_of_some (readField_text hdayOfMonth _)]
  dsimp only
  rw [bind_of_some (readChar_cons _ _), bind_of_some (readField_text hhour _)]
  dsimp only
  rw [bind_of_some (readChar_cons _ _), bind_of_some (readField_text hminute _)]
  dsimp only
  rw [bind_of_some (readChar_cons _ _), bind_of_some (readField_text hrest _)]
  dsimp only
  rw [bind_of_some (readFraction_text hfraction)]
  dsimp only
  rw [bind_of_some hdays, if_pos hinstant]
  exact congrArg some (by omega)

end instant

end WireText
