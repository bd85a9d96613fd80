import CyberNetizen.Lib.WireText
import Mathlib.Data.Bool.AllAny
import Mathlib.Data.List.TakeWhile

namespace IpAddress

open Digits

/-! ## Networks -/

/-- The addresses that agree with `base` in their first `bits` bits. -/
structure Network where
  base : ℕ
  bits : ℕ

/-- Whether an address of `width` bits lies in the network. -/
def Network.contains (width : ℕ) (network : Network) (address : ℕ) : Bool :=
  address / 2 ^ (width - network.bits) = network.base / 2 ^ (width - network.bits)

def inAny (width : ℕ) (networks : List Network) (address : ℕ) : Bool :=
  networks.any fun network ↦ network.contains width address

/-- `a.b.c.d/bits` -/
def net4 (a b c d bits : ℕ) : Network := ⟨value 256 [a, b, c, d], bits⟩

def net6 (groups : List ℕ) (bits : ℕ) : Network :=
  ⟨value 65536 (groups ++ List.replicate (8 - groups.length) 0), bits⟩

inductive Address
  | v4 (value : Fin (2 ^ 32))
  | v6 (value : Fin (2 ^ 128))
  deriving DecidableEq

def ipv4Mapped (n : ℕ) : Option ℕ := if n / 2 ^ 32 = 0xFFFF then some (n % 2 ^ 32) else none

def Address.property (p4 p6 : ℕ → Bool) : Address → Bool
  | .v4 n => p4 n
  | .v6 n => match ipv4Mapped n with
    | some m => p4 m
    | none => p6 n

theorem Address.property_mono {p4 p6 q4 q6 : ℕ → Bool} (h4 : ∀ n, p4 n = true → q4 n = true)
    (h6 : ∀ n, p6 n = true → q6 n = true) (a : Address) (h : a.property p4 p6 = true) :
    a.property q4 q6 = true := by
  cases a with
  | v4 n => exact h4 n h
  | v6 n =>
    unfold property at h ⊢
    dsimp only at h ⊢
    cases hm : ipv4Mapped n with
    | some m =>
      rw [hm] at h
      exact h4 m h
    | none =>
      rw [hm] at h
      exact h6 n h

def privateNetworks4 : List Network :=
  [net4 0 0 0 0 8, net4 10 0 0 0 8, net4 127 0 0 0 8, net4 169 254 0 0 16, net4 172 16 0 0 12,
    net4 192 0 0 0 24, net4 192 0 0 170 31, net4 192 0 2 0 24, net4 192 168 0 0 16,
    net4 198 18 0 0 15, net4 198 51 100 0 24, net4 203 0 113 0 24, net4 240 0 0 0 4,
    net4 255 255 255 255 32]

def privateExceptions4 : List Network := [net4 192 0 0 9 32, net4 192 0 0 10 32]

def privateNetworks6 : List Network :=
  [net6 [0, 0, 0, 0, 0, 0, 0, 1] 128, net6 [] 128, net6 [0, 0, 0, 0, 0, 0xFFFF] 96,
    net6 [0x64, 0xFF9B, 1] 48, net6 [0x100] 64, net6 [0x2001] 23, net6 [0x2001, 0xDB8] 32,
    net6 [0x2002] 16, net6 [0x3FFF] 20, net6 [0xFC00] 7, net6 [0xFE80] 10]

def privateExceptions6 : List Network :=
  [net6 [0x2001, 1, 0, 0, 0, 0, 0, 1] 128, net6 [0x2001, 1, 0, 0, 0, 0, 0, 2] 128,
    net6 [0x2001, 3] 32, net6 [0x2001, 4, 0x112] 48, net6 [0x2001, 0x20] 28, net6 [0x2001, 0x30] 28]

def reservedNetworks6 : List Network :=
  [net6 [] 8, net6 [0x100] 8, net6 [0x200] 7, net6 [0x400] 6, net6 [0x800] 5, net6 [0x1000] 4,
    net6 [0x4000] 3, net6 [0x6000] 3, net6 [0x8000] 3, net6 [0xA000] 3, net6 [0xC000] 3,
    net6 [0xE000] 4, net6 [0xF000] 5, net6 [0xF800] 6, net6 [0xFE00] 9]

namespace Address

def isPrivate : Address → Bool :=
  property (fun n ↦ inAny 32 privateNetworks4 n && !inAny 32 privateExceptions4 n)
    (fun n ↦ inAny 128 privateNetworks6 n && !inAny 128 privateExceptions6 n)

def isLoopback : Address → Bool :=
  property ((net4 127 0 0 0 8).contains 32) (fun n ↦ n = 1)

def isLinkLocal : Address → Bool :=
  property ((net4 169 254 0 0 16).contains 32) ((net6 [0xFE80] 10).contains 128)

def isReserved : Address → Bool :=
  property ((net4 240 0 0 0 4).contains 32) (inAny 128 reservedNetworks6)

def isUnspecified : Address → Bool := property (fun n ↦ n = 0) (fun n ↦ n = 0)

def isMulticast : Address → Bool :=
  property ((net4 224 0 0 0 4).contains 32) ((net6 [0xFF00] 8).contains 128)

theorem isPrivate_of_isUnspecified {a : Address} (h : a.isUnspecified = true) :
    a.isPrivate = true := by
  refine property_mono ?_ ?_ a h
  · intro n hn
    rw [of_decide_eq_true hn]
    decide +kernel
  · intro n hn
    rw [of_decide_eq_true hn]
    decide +kernel

end Address

/-! ## Texts -/

def octet? (chars : List Char) : Option ℕ :=
  if chars ≠ [] ∧ chars.length ≤ 3 ∧ (chars = ['0'] ∨ chars.head? ≠ some '0') then
    (ofText? 10 chars).filter (· ≤ 255)
  else none

def parse4 (chars : List Char) : Option ℕ :=
  ((chars.splitOn '.').mapM octet?).bind fun octets ↦
    if octets.length = 4 then some (value 256 octets) else none

def hextet? (chars : List Char) : Option ℕ :=
  if chars ≠ [] ∧ chars.length ≤ 4 then ofText? 16 chars else none

def groupTexts (parts : List (List Char)) : Option (List (List Char)) :=
  if '.' ∈ parts.getLast?.getD [] then
    (parse4 (parts.getLast?.getD [])).map fun n ↦
      parts.dropLast ++ [Nat.toDigits 16 (n / 65536), Nat.toDigits 16 (n % 65536)]
  else some parts

/-- The places of `::`, the ends apart. -/
def skips (parts : List (List Char)) : List ℕ :=
  (List.range parts.length).filter fun i ↦ 0 < i ∧ i + 1 < parts.length ∧ parts[i]? = some []

/-- What stands before and after a `::` at the place `i`; it may stand at an end of the text. -/
def aroundSkip (parts : List (List Char)) (i : ℕ) :
    Option (List (List Char) × List (List Char)) :=
  let high := if parts.head? = some [] then [] else parts.take i
  let low := if parts.getLast? = some [] then [] else parts.drop (i + 1)
  if (parts.head? = some [] → i = 1) ∧ (parts.getLast? = some [] → i + 2 = parts.length) ∧
      high.length + low.length < 8 then some (high, low)
  else none

/-- `_ip_int_from_string` -/
def parseGroups (chars : List Char) : Option ℕ := do
  if (chars.splitOn ':').length < 3 then none
  else
    let parts ← groupTexts (chars.splitOn ':')
    if 9 < parts.length then none
    else match skips parts with
      | [] =>
        if parts.length = 8 then (parts.mapM hextet?).map (value 65536) else none
      | [i] => do
        let (high, low) ← aroundSkip parts i
        let h ← high.mapM hextet?
        let l ← low.mapM hextet?
        return value 65536 (h ++ List.replicate (8 - (h.length + l.length)) 0 ++ l)
      | _ => none

/-- What stands before the first `c`, whether there is one, and what stands after it. -/
def partition (c : Char) (chars : List Char) : List Char × Bool × List Char :=
  (chars.takeWhile (· ≠ c), chars.contains c, (chars.dropWhile (· ≠ c)).drop 1)

def parse6 (chars : List Char) : Option ℕ :=
  let (address, hasScope, scope) := partition '%' chars
  if '/' ∈ chars ∨ (hasScope ∧ (scope = [] ∨ '%' ∈ scope)) then none else parseGroups address

/-- `ip_address`. The numbers that are parsed are within the bounds. -/
def ofText (chars : List Char) : Option Address :=
  match parse4 chars with
  | some n => some (.v4 (Fin.ofNat (2 ^ 32) n))
  | none => (parse6 chars).map fun n ↦ .v6 (Fin.ofNat (2 ^ 128) n)

namespace Address

def text : Address → List Char
  | .v4 n => List.intercalate ['.'] ((fixed 256 4 n).map (Nat.toDigits 10))
  | .v6 n => List.intercalate [':'] ((fixed 65536 8 n).map (Digits.text 16 4))

end Address

/-! ## Addresses are read back from their texts -/

theorem mapM_map_eq {α β : Type} {f : β → Option α} {g : α → β} {l : List α}
    (h : ∀ a ∈ l, f (g a) = some a) : (l.map g).mapM f = some l := by
  induction l with
  | nil => rfl
  | cons a l ih =>
    have hl := ih fun x hx ↦ h x (List.mem_cons_of_mem a hx)
    rw [List.map_cons, List.mapM_cons, h a List.mem_cons_self, hl]
    rfl

theorem octet?_toDigits (n : ℕ) (hn : n < 256) : octet? (Nat.toDigits 10 n) = some n :=
  have hall : (List.range 256).all (fun n ↦ octet? (Nat.toDigits 10 n) = some n) := by
    decide +kernel
  List.all_iff_forall_prop.mp hall n (List.mem_range.mpr hn)

theorem toDigits_octet (n : ℕ) (hn : n < 256) : ∀ c ∈ Nat.toDigits 10 n, c.isDigit = true :=
  have hall : (List.range 256).all (fun n ↦ (Nat.toDigits 10 n).all Char.isDigit) := by
    decide +kernel
  List.all_eq_true.mp (List.all_eq_true.mp hall n (List.mem_range.mpr hn))

theorem digitChar_hex : ∀ d < 16, (Nat.digitChar d).isDigit = true ∨
    Nat.digitChar d ∈ ['a', 'b', 'c', 'd', 'e', 'f'] := by
  decide

def IsTextChar (c : Char) : Prop :=
  c.isDigit = true ∨ c ∈ ['a', 'b', 'c', 'd', 'e', 'f'] ∨ c = '.' ∨ c = ':'

instance (c : Char) : Decidable (IsTextChar c) := inferInstanceAs (Decidable (_ ∨ _))

theorem mem_group {n : ℕ} {c : Char} (h : c ∈ Digits.text 16 4 n) :
    c.isDigit = true ∨ c ∈ ['a', 'b', 'c', 'd', 'e', 'f'] := by
  obtain ⟨d, hd, rfl⟩ := List.mem_map.mp h
  exact digitChar_hex d (fixed_lt (by decide) 4 n d hd)

theorem hextet?_group {n : ℕ} (h : n < 65536) : hextet? (Digits.text 16 4 n) = some n := by
  unfold hextet?
  have hlen := length_text 16 4 n
  rw [if_pos ⟨List.ne_nil_of_length_pos (by omega), hlen.le⟩]
  exact ofText?_text (by decide) (by decide) h

theorem parse4_dotted {n : ℕ} (h : n < 2 ^ 32) :
    parse4 (List.intercalate ['.'] ((fixed 256 4 n).map (Nat.toDigits 10))) = some n := by
  have hlt := fixed_lt (by decide : 0 < 256) 4 n
  unfold parse4
  rw [List.splitOn_intercalate '.' ?_ ?_, mapM_map_eq fun d hd ↦ octet?_toDigits d (hlt d hd),
    Option.bind_some, if_pos (length_fixed 256 4 n), value_fixed 4 (by omega)]
  · intro l hl hdot
    obtain ⟨d, hd, rfl⟩ := List.mem_map.mp hl
    exact absurd (toDigits_octet d (hlt d hd) '.' hdot) (by decide)
  · exact List.ne_nil_of_length_pos (by rw [List.length_map, length_fixed]; decide)

theorem skips_eq_nil {parts : List (List Char)} (h : [] ∉ parts) : skips parts = [] := by
  unfold skips
  rw [List.filter_eq_nil_iff]
  intro i _ hi
  simp only [decide_eq_true_eq] at hi
  exact h (List.mem_of_getElem? hi.2.2)

/-- Eight groups without `::` and without a part of four numbers. -/
theorem parseGroups_intercalate {groups : List (List Char)} {numbers : List ℕ}
    (hlen : groups.length = 8) (hplain : ∀ g ∈ groups, ':' ∉ g ∧ '.' ∉ g)
    (hnumbers : groups.mapM hextet? = some numbers) (hne : [] ∉ groups) :
    parseGroups (List.intercalate [':'] groups) = some (value 65536 numbers) := by
  have hsplit : (List.intercalate [':'] groups).splitOn ':' = groups :=
    List.splitOn_intercalate ':' (fun g hg ↦ (hplain g hg).1)
      (List.ne_nil_of_length_pos (by omega))
  have hgroups : groupTexts groups = some groups := by
    unfold groupTexts
    cases hlast : groups.getLast? with
    | none => exact if_neg List.not_mem_nil
    | some g => exact if_neg (hplain g (List.mem_of_getLast? hlast)).2
  unfold parseGroups
  rw [hsplit, if_neg (by omega), hgroups]
  dsimp only [Option.bind_eq_bind, Option.bind_some]
  rw [if_neg (by omega), skips_eq_nil hne]
  dsimp only
  rw [if_pos hlen, hnumbers]
  rfl

theorem mem_intercalate {sep c : Char} {parts : List (List Char)}
    (h : c ∈ List.intercalate [sep] parts) : c = sep ∨ ∃ part ∈ parts, c ∈ part := by
  induction parts with
  | nil => exact absurd h List.not_mem_nil
  | cons part parts ih =>
    cases parts with
    | nil => exact Or.inr ⟨part, List.mem_cons_self, by simpa using h⟩
    | cons next parts =>
      rw [List.intercalate_cons_cons, List.append_assoc, List.mem_append, List.mem_append,
        List.mem_singleton] at h
      rcases h with h | h | h
      · exact Or.inr ⟨part, List.mem_cons_self, h⟩
      · exact Or.inl h
      · refine (ih h).imp_right ?_
        rintro ⟨p, hp, hcp⟩
        exact ⟨p, List.mem_cons_of_mem _ hp, hcp⟩

theorem text_isTextChar (a : Address) : ∀ c ∈ a.text, IsTextChar c := by
  intro c hc
  cases a with
  | v4 n =>
    rcases mem_intercalate hc with rfl | ⟨part, hpart, hc⟩
    · exact Or.inr (Or.inr (Or.inl rfl))
    · obtain ⟨d, hd, rfl⟩ := List.mem_map.mp hpart
      exact Or.inl (toDigits_octet d (fixed_lt (by decide) 4 _ d hd) c hc)
  | v6 n =>
    rcases mem_intercalate hc with rfl | ⟨part, hpart, hc⟩
    · exact Or.inr (Or.inr (Or.inr rfl))
    · obtain ⟨d, -, rfl⟩ := List.mem_map.mp hpart
      exact (mem_group hc).imp_right Or.inl

theorem partition_of_not_mem {c : Char} {chars : List Char} (h : c ∉ chars) :
    partition c chars = (chars, false, []) := by
  have hkeep : ∀ x ∈ chars, decide (x ≠ c) = true := fun x hx ↦
    decide_eq_true fun heq ↦ h (heq ▸ hx)
  unfold partition
  rw [List.takeWhile_eq_self_iff.mpr hkeep, List.dropWhile_eq_nil_iff.mpr hkeep, List.drop_nil,
    List.contains_eq_mem, decide_eq_false h]

/-- What stands around the first `c`. -/
theorem partition_append {c : Char} {before : List Char} (h : c ∉ before) (after : List Char) :
    partition c (before ++ c :: after) = (before, true, after) := by
  have hkeep : ∀ x ∈ before, decide (x ≠ c) = true := fun x hx ↦
    decide_eq_true fun heq ↦ h (heq ▸ hx)
  unfold partition
  rw [List.takeWhile_append_of_pos hkeep, List.dropWhile_append_of_pos hkeep]
  simp

theorem parse6_colons {n : ℕ} (h : n < 2 ^ 128) :
    parse6 (List.intercalate [':'] ((fixed 65536 8 n).map (Digits.text 16 4))) = some n := by
  have hchars : ∀ c ∈ List.intercalate [':'] ((fixed 65536 8 n).map (Digits.text 16 4)),
      IsTextChar c := text_isTextChar (.v6 ⟨n, h⟩)
  have hlt := fixed_lt (by decide : 0 < 65536) 8 n
  have hscope : '%' ∉ List.intercalate [':'] ((fixed 65536 8 n).map (Digits.text 16 4)) :=
    fun hc ↦ absurd (hchars _ hc) (by decide)
  have hslash : '/' ∉ List.intercalate [':'] ((fixed 65536 8 n).map (Digits.text 16 4)) :=
    fun hc ↦ absurd (hchars _ hc) (by decide)
  unfold parse6
  rw [partition_of_not_mem hscope]
  dsimp only
  rw [if_neg (by simp [hslash]), parseGroups_intercalate (by rw [List.length_map, length_fixed]) ?_
    (mapM_map_eq fun d hd ↦ hextet?_group (hlt d hd)) ?_, value_fixed 8 (by omega)]
  · intro g hg
    obtain ⟨d, -, rfl⟩ := List.mem_map.mp hg
    exact ⟨fun hc ↦ absurd (mem_group hc) (by decide), fun hc ↦ absurd (mem_group hc) (by decide)⟩
  · intro hg
    obtain ⟨d, -, hd⟩ := List.mem_map.mp hg
    have hlen := length_text 16 4 d
    rw [hd] at hlen
    cases hlen

theorem getLast?_intercalate {sep : Char} {first : List (List Char)} {last : List Char}
    (h : last ≠ []) : (List.intercalate [sep] (first ++ [last])).getLast? = last.getLast? := by
  induction first with
  | nil => simp
  | cons part first ih =>
    obtain ⟨next, rest, heq⟩ : ∃ next rest, first ++ [last] = next :: rest :=
      List.exists_cons_of_ne_nil (by simp)
    rw [heq] at ih
    rw [List.cons_append, heq, List.intercalate_cons_cons, List.append_assoc, List.getLast?_append,
      List.getLast?_append, ih]
    rw [List.getLast?_eq_some_getLast h]
    rfl

theorem getLast?_text (a : Address) : ∃ c, a.text.getLast? = some c ∧ c ≠ '.' := by
  cases a with
  | v4 n =>
    have hne : Nat.toDigits 10 (n.val % 256) ≠ [] := Nat.toDigits_ne_nil
    have hc := List.getLast?_eq_some_getLast hne
    have hdigit := toDigits_octet _ (Nat.mod_lt n.val (by decide)) _ (List.getLast_mem hne)
    refine ⟨(Nat.toDigits 10 (n.val % 256)).getLast hne, ?_, fun heq ↦ ?_⟩
    · unfold Address.text
      dsimp only
      rw [fixed, List.map_append, List.map_singleton, getLast?_intercalate hne, hc]
    · rw [heq] at hdigit
      exact absurd hdigit (by decide)
  | v6 n =>
    have hne : Digits.text 16 4 (n.val % 65536) ≠ [] :=
      List.ne_nil_of_length_pos (by rw [length_text]; decide)
    have hc := List.getLast?_eq_some_getLast hne
    have hdigit := mem_group (List.getLast_mem hne)
    refine ⟨(Digits.text 16 4 (n.val % 65536)).getLast hne, ?_, fun heq ↦ ?_⟩
    · unfold Address.text
      dsimp only
      rw [fixed, List.map_append, List.map_singleton, getLast?_intercalate hne, hc]
    · rw [heq] at hdigit
      exact absurd hdigit (by decide)

theorem parse4_colons (n : ℕ) :
    parse4 (List.intercalate [':'] ((fixed 65536 8 n).map (Digits.text 16 4))) = none := by
  have hdot : '.' ∉ List.intercalate [':'] ((fixed 65536 8 n).map (Digits.text 16 4)) := by
    intro hc
    rcases mem_intercalate hc with heq | ⟨part, hpart, hc⟩
    · exact absurd heq (by decide)
    · obtain ⟨d, -, rfl⟩ := List.mem_map.mp hpart
      exact absurd (mem_group hc) (by decide)
  unfold parse4
  rw [List.splitOn_eq_singleton hdot, List.mapM_cons, List.mapM_nil]
  cases octet? (List.intercalate [':'] ((fixed 65536 8 n).map (Digits.text 16 4))) with
  | none => rfl
  | some o => rfl

theorem ofText_text (a : Address) : ofText a.text = some a := by
  cases a with
  | v4 n =>
    unfold ofText Address.text
    rw [parse4_dotted n.isLt]
    exact congrArg (fun m ↦ some (Address.v4 m)) (Fin.ofNat_val_eq_self n)
  | v6 n =>
    unfold ofText Address.text
    dsimp only
    rw [parse4_colons, parse6_colons n.isLt]
    exact congrArg (fun m ↦ some (Address.v6 m)) (Fin.ofNat_val_eq_self n)

end IpAddress

/-! # Splitting URLs -/

namespace UrlText

open IpAddress

/-- What the treatment of names reads of the tables of Unicode. -/
structure TextTables where
  lower : List Char → List Char
  casefold : List Char → List Char
  /-- Whether the compatibility form of a text has one of `/?#@:` that the text has not. -/
  hidesDelimiter : List Char → Bool
  lower_ascii : ∀ s, (∀ c ∈ s, c.toNat < 128) → lower s = s.map Char.toLower
  casefold_ascii : ∀ s, (∀ c ∈ s, c.toNat < 128) → casefold s = s.map Char.toLower

structure SplitUrl where
  scheme : List Char
  netloc : List Char

def isSchemeChar (c : Char) : Bool := c.isAlphanum || c ∈ ['+', '-', '.']

def splitScheme (url : List Char) : List Char × List Char :=
  let (before, found, after) := partition ':' url
  if found ∧ before.head?.any Char.isAlpha ∧ before.all isSchemeChar then
    (before.map Char.toLower, after)
  else ([], url)

/-- What comes after the last `c`, which is all if there is none. -/
def afterLast (c : Char) (chars : List Char) : List Char :=
  (chars.reverse.takeWhile (· ≠ c)).reverse

def hostinfo (netloc : List Char) : List Char × List Char :=
  let info := afterLast '@' netloc
  let (_, bracket, bracketed) := partition '[' info
  if bracket then
    let (hostname, _, rest) := partition ']' bracketed
    (hostname, (partition ':' rest).2.2)
  else
    let (hostname, _, port) := partition ':' info
    (hostname, port)

/-- `v`, the version in hexadecimal digits, `.` and an address. -/
def isFutureHost (hostname : List Char) : Bool :=
  let version := (hostname.drop 1).takeWhile fun c ↦ (Digits.digitValue? c).isSome
  let rest := (hostname.drop 1).dropWhile fun c ↦ (Digits.digitValue? c).isSome
  version ≠ [] ∧ rest.head? = some '.' ∧ rest.drop 1 ≠ []

/-- `_check_bracketed_host` -/
def isBracketedHost (hostname : List Char) : Bool :=
  if hostname.head? = some 'v' then isFutureHost hostname
  else match ofText hostname with
    | some (.v6 _) => true
    | _ => false

/-- `_check_bracketed_netloc` -/
def isBracketedNetloc (netloc : List Char) : Bool :=
  let info := afterLast '@' netloc
  let (before, bracket, bracketed) := partition '[' info
  if bracket then
    let (hostname, _, rest) := partition ']' bracketed
    before = [] ∧ (rest = [] ∨ rest.head? = some ':') ∧ isBracketedHost hostname
  else isBracketedHost (partition ':' info).1

/-- `urlsplit`, without what comes after the host and the port; a `ValueError` is `none`. -/
def urlsplit (tables : TextTables) (url : List Char) : Option SplitUrl :=
  let cleaned := (url.dropWhile fun c ↦ c.toNat ≤ 32).filter (· ∉ ['\t', '\r', '\n'])
  let (scheme, rest) := splitScheme cleaned
  let netloc :=
    if rest.take 2 = ['/', '/'] then (rest.drop 2).takeWhile (· ∉ ['/', '?', '#']) else []
  if decide ('[' ∈ netloc) ≠ decide (']' ∈ netloc) then none
  else if '[' ∈ netloc ∧ !isBracketedNetloc netloc then none
  else if netloc.any (fun c ↦ decide (128 ≤ c.toNat)) ∧ tables.hidesDelimiter netloc then none
  else some ⟨scheme, netloc⟩

namespace SplitUrl

def hasUserinfo (split : SplitUrl) : Bool := split.netloc.contains '@'

/-- `hostname`; the zone of an address keeps its letters. -/
def hostname (tables : TextTables) (split : SplitUrl) : Option (List Char) :=
  let written := (hostinfo split.netloc).1
  if written = [] then none
  else
    let (name, percent, zone) := partition '%' written
    some (tables.lower name ++ if percent then '%' :: zone else [])

/-- `port`; a `ValueError` is `none`. -/
def port (split : SplitUrl) : Option (Option ℕ) :=
  let written := (hostinfo split.netloc).2
  if written = [] then some none
  else ((Digits.ofText? 10 written).filter (· ≤ 65535)).map some

end SplitUrl

/-! ## Addresses as hosts -/

def hostText : Address → List Char
  | .v4 n => (Address.v4 n).text
  | .v6 n => '[' :: (Address.v6 n).text ++ [']']

def literalUrl (a : Address) : List Char := "https://".toList ++ hostText a

theorem toNat_of_isTextChar {c : Char} (h : IsTextChar c) : 45 < c.toNat ∧ c.toNat < 103 := by
  rcases h with h | h | rfl | rfl
  · simp only [Char.isDigit, Bool.and_eq_true, decide_eq_true_eq] at h
    have h0 : 48 ≤ c.toNat := h.1
    have h9 : c.toNat ≤ 57 := h.2
    omega
  · exact (List.all_iff_forall_prop.mp (by decide) :
      ∀ c ∈ ['a', 'b', 'c', 'd', 'e', 'f'], 45 < c.toNat ∧ c.toNat < 103) c h
  · decide
  · decide

theorem toLower_of_isTextChar {c : Char} (h : IsTextChar c) : c.toLower = c := by
  rcases h with h | h | rfl | rfl
  · simp only [Char.isDigit, Bool.and_eq_true, decide_eq_true_eq] at h
    have h9 : c.toNat ≤ 57 := h.2
    unfold Char.toLower
    exact dif_neg fun hupper ↦ absurd (show 65 ≤ c.toNat from hupper.1) (by omega)
  · exact (List.all_iff_forall_prop.mp (by decide) :
      ∀ c ∈ ['a', 'b', 'c', 'd', 'e', 'f'], c.toLower = c) c h
  · rfl
  · rfl

theorem lower_text (tables : TextTables) (a : Address) : tables.lower a.text = a.text := by
  rw [tables.lower_ascii _ fun c hc ↦ by have := toNat_of_isTextChar (text_isTextChar a c hc); omega,
    List.map_congr_left fun c hc ↦ toLower_of_isTextChar (text_isTextChar a c hc), List.map_id']

theorem casefold_text (tables : TextTables) (a : Address) : tables.casefold a.text = a.text := by
  rw [tables.casefold_ascii _ fun c hc ↦ by
      have := toNat_of_isTextChar (text_isTextChar a c hc); omega,
    List.map_congr_left fun c hc ↦ toLower_of_isTextChar (text_isTextChar a c hc), List.map_id']

theorem hostText_chars (a : Address) : ∀ c ∈ hostText a, IsTextChar c ∨ c = '[' ∨ c = ']' := by
  intro c hc
  cases a with
  | v4 n => exact Or.inl (text_isTextChar (.v4 n) c hc)
  | v6 n =>
    rcases List.mem_cons.mp hc with rfl | hc
    · exact Or.inr (Or.inl rfl)
    · rcases List.mem_append.mp hc with hc | hc
      · exact Or.inl (text_isTextChar (.v6 n) c hc)
      · exact Or.inr (Or.inr (List.mem_singleton.mp hc))

theorem not_mem_hostText (a : Address) {c : Char} (h : ¬(IsTextChar c ∨ c = '[' ∨ c = ']')) :
    c ∉ hostText a := fun hc ↦ h (hostText_chars a c hc)

theorem not_mem_text (a : Address) {c : Char} (h : ¬IsTextChar c) : c ∉ a.text :=
  fun hc ↦ h (text_isTextChar a c hc)

theorem afterLast_of_not_mem {c : Char} {chars : List Char} (h : c ∉ chars) :
    afterLast c chars = chars := by
  have hkeep : ∀ x ∈ chars.reverse, decide (x ≠ c) = true := fun x hx ↦
    decide_eq_true fun heq ↦ h (heq ▸ List.mem_reverse.mp hx)
  unfold afterLast
  rw [List.takeWhile_eq_self_iff.mpr hkeep, List.reverse_reverse]

theorem hostinfo_hostText (a : Address) : hostinfo (hostText a) = (a.text, []) := by
  unfold hostinfo
  rw [afterLast_of_not_mem (not_mem_hostText a (by decide))]
  cases a with
  | v4 n =>
    have hbracket : '[' ∉ (Address.v4 n).text := not_mem_text _ (by decide)
    have hcolon : ':' ∉ (Address.v4 n).text := by
      intro hc
      rcases mem_intercalate hc with heq | ⟨part, hpart, hc⟩
      · exact absurd heq (by decide)
      · obtain ⟨d, hd, rfl⟩ := List.mem_map.mp hpart
        exact absurd (toDigits_octet d (Digits.fixed_lt (by decide) 4 _ d hd) _ hc) (by decide)
    dsimp only [hostText]
    rw [partition_of_not_mem hbracket, partition_of_not_mem hcolon]
    rfl
  | v6 n =>
    have hopen := @partition_append '[' [] List.not_mem_nil
      ((Address.v6 n).text ++ [']'])
    rw [List.nil_append] at hopen
    dsimp only [hostText]
    rw [List.cons_append, hopen]
    dsimp only
    rw [if_pos rfl, partition_append (not_mem_text _ (by decide))]
    rfl

theorem isBracketedNetloc_hostText (n : Fin (2 ^ 128)) :
    isBracketedNetloc (hostText (.v6 n)) = true := by
  have hopen := @partition_append '[' [] List.not_mem_nil
    ((Address.v6 n).text ++ [']'])
  rw [List.nil_append] at hopen
  have hversion : (Address.v6 n).text.head? ≠ some 'v' := fun h ↦
    not_mem_text (.v6 n) (by decide) (List.mem_of_mem_head? h)
  have hhost : isBracketedHost (Address.v6 n).text = true := by
    unfold isBracketedHost
    rw [if_neg hversion, ofText_text]
  unfold isBracketedNetloc
  rw [afterLast_of_not_mem (not_mem_hostText _ (by decide))]
  dsimp only [hostText]
  rw [List.cons_append, hopen]
  dsimp only
  rw [if_pos rfl, partition_append (not_mem_text _ (by decide)), hhost]
  rfl

/-- An address as the host is all that a URL has. -/
theorem urlsplit_literalUrl (tables : TextTables) (a : Address) :
    urlsplit tables (literalUrl a) = some ⟨"https".toList, hostText a⟩ := by
  have hdrop : (literalUrl a).dropWhile (fun c ↦ c.toNat ≤ 32) = literalUrl a :=
    List.dropWhile_cons_of_neg (by decide)
  have hfilter : (literalUrl a).filter (· ∉ ['\t', '\r', '\n']) = literalUrl a := by
    rw [List.filter_eq_self]
    intro c hc
    rcases List.mem_append.mp hc with hc | hc
    · exact (List.all_iff_forall_prop.mp (by decide) :
        ∀ c ∈ "https://".toList, decide (c ∉ ['\t', '\r', '\n']) = true) c hc
    · refine decide_eq_true fun hcontrol ↦ ?_
      have hall := hostText_chars a c hc
      revert hall
      exact (List.all_iff_forall_prop.mp (by decide) :
        ∀ c ∈ ['\t', '\r', '\n'], ¬(IsTextChar c ∨ c = '[' ∨ c = ']')) c hcontrol
  have hscheme : splitScheme (literalUrl a) = ("https".toList, ['/', '/'] ++ hostText a) := by
    have hcolon := @partition_append ':' "https".toList (by decide)
      (['/', '/'] ++ hostText a)
    unfold splitScheme
    rw [show literalUrl a = "https".toList ++ ':' :: (['/', '/'] ++ hostText a) from rfl, hcolon]
    rfl
  have hnetloc : (hostText a).takeWhile (· ∉ ['/', '?', '#']) = hostText a := by
    rw [List.takeWhile_eq_self_iff]
    intro c hc
    refine decide_eq_true fun hdelimiter ↦ ?_
    have hall := hostText_chars a c hc
    revert hall
    exact (List.all_iff_forall_prop.mp (by decide) :
      ∀ c ∈ ['/', '?', '#'], ¬(IsTextChar c ∨ c = '[' ∨ c = ']')) c hdelimiter
  have hascii : (hostText a).any (fun c ↦ decide (128 ≤ c.toNat)) = false := by
    rw [List.any_eq_false]
    intro c hc
    rw [decide_eq_true_eq]
    rcases hostText_chars a c hc with hc | rfl | rfl
    · have := toNat_of_isTextChar hc
      omega
    · decide
    · decide
  have hbrackets : ¬(decide ('[' ∈ hostText a) ≠ decide (']' ∈ hostText a)) ∧
      ¬('[' ∈ hostText a ∧ !isBracketedNetloc (hostText a)) := by
    cases a with
    | v4 n =>
      have hopen : '[' ∉ hostText (.v4 n) := not_mem_text (.v4 n) (by decide)
      have hclose : ']' ∉ hostText (.v4 n) := not_mem_text (.v4 n) (by decide)
      exact ⟨fun h ↦ h (by rw [decide_eq_false hopen, decide_eq_false hclose]), fun h ↦ hopen h.1⟩
    | v6 n =>
      have hopen : '[' ∈ hostText (.v6 n) := List.mem_cons_self
      have hclose : ']' ∈ hostText (.v6 n) := List.mem_append_right _ List.mem_cons_self
      refine ⟨fun h ↦ h (by rw [decide_eq_true hopen, decide_eq_true hclose]), fun h ↦ ?_⟩
      rw [isBracketedNetloc_hostText] at h
      exact absurd h.2 (by decide)
  have hwhole : (if (['/', '/'] ++ hostText a).take 2 = ['/', '/'] then
      ((['/', '/'] ++ hostText a).drop 2).takeWhile (· ∉ ['/', '?', '#']) else []) = hostText a := by
    exact (if_pos (by rfl)).trans hnetloc
  unfold urlsplit
  rw [hdrop, hfilter]
  dsimp only
  rw [hscheme]
  dsimp only
  rw [hwhole, if_neg hbrackets.1, if_neg hbrackets.2, hascii, if_neg (by simp)]

theorem hasUserinfo_literal (scheme : List Char) (a : Address) :
    SplitUrl.hasUserinfo ⟨scheme, hostText a⟩ = false := by
  unfold SplitUrl.hasUserinfo
  rw [List.contains_eq_mem, decide_eq_false (not_mem_hostText a (by decide))]

theorem text_ne_nil (a : Address) : a.text ≠ [] := by
  intro h
  have hread := ofText_text a
  rw [h] at hread
  cases hread

theorem hostname_literal (tables : TextTables) (scheme : List Char) (a : Address) :
    SplitUrl.hostname tables ⟨scheme, hostText a⟩ = some a.text := by
  unfold SplitUrl.hostname
  dsimp only
  rw [hostinfo_hostText, if_neg (text_ne_nil a), partition_of_not_mem (not_mem_text a (by decide))]
  dsimp only
  rw [if_neg (by decide), List.append_nil, lower_text]

theorem port_literal (scheme : List Char) (a : Address) :
    SplitUrl.port ⟨scheme, hostText a⟩ = some none := by
  unfold SplitUrl.port
  rw [hostinfo_hostText, if_pos rfl]

end UrlText
