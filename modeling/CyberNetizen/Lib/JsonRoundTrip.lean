import CyberNetizen.Lib.JsonText

namespace JsonText

section strings

theorem readString_escape {c : Char} {l : List Char} :
    readString (escape c ++ l) = (readString l).map fun r ↦ (c :: r.1, r.2) := by
  have hcontrol : ∀ n < 32, codeUnit? '0' '0' (Nat.digitChar (n / 16)) (Nat.digitChar (n % 16)) =
      some n := by decide
  unfold escape
  split_ifs with hquote hback hn hr ht hf hb hlt
  · subst hquote; simp [readString]
  · subst hback; simp [readString]
  · subst hn; simp [readString]
  · subst hr; simp [readString]
  · subst ht; simp [readString]
  · subst hf; simp [readString]
  · subst hb; simp [readString]
  · have hsmall : c.toNat < 0xD800 := by omega
    simp only [List.cons_append, List.nil_append]
    rw [readString, hcontrol c.toNat hlt]
    simp [hsmall]
  · simp only [List.cons_append, List.nil_append]
    rw [readString]
    · simp [hlt]
    all_goals simp [hquote, hback]

theorem readString_text (s rest : List Char) :
    readString (s.flatMap escape ++ '"' :: rest) = some (s, rest) := by
  induction s with
  | nil => simp [readString]
  | cons c s ih => rw [List.flatMap_cons, List.append_assoc, readString_escape, ih, Option.map_some]

end strings

section numbers

def Stops (rest : List Char) : Prop :=
  ∀ c ∈ rest.head?, isDigit c = false ∧ c ≠ '.' ∧ c ≠ 'e' ∧ c ≠ 'E'

theorem Stops.nil : Stops [] := by simp [Stops]

theorem isDigit_digitChar : ∀ d < 10, isDigit (Nat.digitChar d) = true ∧
    (digitOf? (Nat.digitChar d)).getD 0 = d := by decide

theorem digitChar_eq_zero : ∀ d < 10, Nat.digitChar d = '0' → d = 0 := by decide

theorem isDigit_natText (n : ℕ) : ∀ c ∈ natText n, isDigit c = true := by
  intro c hc
  unfold natText at hc
  split at hc
  · rw [List.mem_singleton.mp hc]
    decide
  · obtain ⟨d, hd, rfl⟩ := List.mem_map.mp hc
    exact (isDigit_digitChar d (Nat.digits_lt_base (by decide) (List.mem_reverse.mp hd))).1

theorem natOf_natText (n : ℕ) : natOf (natText n) = n := by
  unfold natText
  split
  · rename_i hn
    rw [hn]
    decide
  · have hdigits : ∀ (l : List ℕ) (m : ℕ), (∀ d ∈ l, d < 10) →
        (l.map Nat.digitChar).foldl (fun n c ↦ 10 * n + (digitOf? c).getD 0) m =
          l.foldl (fun n d ↦ 10 * n + d) m := by
      intro l
      induction l with
      | nil => exact fun _ _ ↦ rfl
      | cons d l ih =>
        intro m h
        rw [List.map_cons, List.foldl_cons, List.foldl_cons,
          (isDigit_digitChar d (h d List.mem_cons_self)).2]
        exact ih _ fun x hx ↦ h x (List.mem_cons_of_mem d hx)
    unfold natOf
    rw [hdigits _ _ fun d hd ↦ Nat.digits_lt_base (by decide) (List.mem_reverse.mp hd),
      List.foldl_reverse]
    have hvalue := Nat.ofDigits_digits 10 n
    rw [Nat.ofDigits_eq_foldr] at hvalue
    simpa [add_comm] using hvalue

theorem natText_ne_nil (n : ℕ) : natText n ≠ [] := by
  unfold natText
  split
  · simp
  · rename_i hn
    simpa [Nat.digits_eq_nil_iff_eq_zero] using hn

/-- Only zero begins with a zero. -/
theorem head_natText {n : ℕ} {l : List Char} (h : natText n = '0' :: l) : l = [] := by
  unfold natText at h
  split at h
  · exact (List.cons.inj h).2.symm
  · rename_i hn
    have hlast := Nat.getLast_digit_ne_zero 10 hn
    have hne : Nat.digits 10 n ≠ [] := Nat.digits_ne_nil_iff_ne_zero.mpr hn
    exfalso
    apply hlast
    obtain ⟨d, ds, hds⟩ := List.exists_cons_of_ne_nil (List.reverse_ne_nil_iff.mpr hne)
    rw [hds, List.map_cons] at h
    have hd : d = 0 := by
      refine digitChar_eq_zero d ?_ (List.cons.inj h).1
      refine Nat.digits_lt_base (b := 10) (m := n) (by decide) (List.mem_reverse.mp ?_)
      rw [hds]
      exact List.mem_cons_self
    exact (List.getLast_eq_head_reverse hne).trans (by simp [hds, hd])

theorem takeWhile_digits {l rest : List Char} (h : ∀ c ∈ l, isDigit c = true) (hrest : Stops rest) :
    (l ++ rest).takeWhile isDigit = l ∧ (l ++ rest).dropWhile isDigit = rest := by
  rw [List.takeWhile_append_of_pos h, List.dropWhile_append_of_pos h]
  cases rest with
  | nil => simp
  | cons c rest =>
    have hc := (hrest c rfl).1
    simp [hc]

theorem readNat_natText (n : ℕ) {rest : List Char} (hrest : Stops rest) :
    readNat (natText n ++ rest) = some (natText n, rest) := by
  obtain ⟨htake, hdrop⟩ := takeWhile_digits (isDigit_natText n) hrest
  obtain ⟨c, l, hl⟩ := List.exists_cons_of_ne_nil (natText_ne_nil n)
  by_cases hc : c = '0'
  · subst hc
    obtain rfl := head_natText hl
    rw [hl]
    rfl
  · rw [hl] at htake hdrop ⊢
    rw [List.cons_append] at htake hdrop ⊢
    rw [readNat]
    · rw [htake, hdrop]
      rfl
    · intro l' h
      exact hc (List.cons.inj h).1

theorem readFraction_stops {rest : List Char} (h : Stops rest) : readFraction rest = ([], rest) := by
  unfold readFraction
  split
  · exact absurd rfl (h '.' rfl).2.1
  · rfl

theorem readExponent_stops {rest : List Char} (h : Stops rest) : readExponent rest = ([], rest) := by
  cases rest with
  | nil => rfl
  | cons c rest =>
    obtain ⟨-, -, he, hE⟩ := h c rfl
    simp [readExponent, he, hE]

theorem readMagnitude_natText (repr : Repr) (sign : List Char) {n : ℕ} {rest : List Char}
    (hrest : Stops rest) (hn : (natText n).length ≤ maxDigits) :
    readMagnitude repr sign (natText n ++ rest) =
      some (.int (if sign.isEmpty then (n : ℤ) else -n), rest) := by
  unfold readMagnitude
  rw [readNat_natText n hrest]
  dsimp only
  rw [readFraction_stops hrest]
  dsimp only
  rw [readExponent_stops hrest]
  simp [Nat.not_lt.mpr hn, natOf_natText]

/-- No word begins like a number. -/
theorem words_natText (n : ℕ) (rest : List Char) :
    (words.findSome? fun word ↦ (readWord word.1 (natText n ++ rest)).map fun l ↦ (word.2, l)) =
        none ∧
      (words.findSome? fun word ↦ (readWord word.1 ('-' :: natText n ++ rest)).map fun l ↦
        (word.2, l)) = none := by
  obtain ⟨c, l, hl⟩ := List.exists_cons_of_ne_nil (natText_ne_nil n)
  have hc : isDigit c = true := isDigit_natText n c (by rw [hl]; exact List.mem_cons_self)
  have hne : ∀ d, isDigit d = false → d ≠ c := by
    rintro d hd rfl
    rw [hd] at hc
    cases hc
  have hnull := hne 'n' rfl
  have htrue := hne 't' rfl
  have hfalse := hne 'f' rfl
  have hnan := hne 'N' rfl
  have hinf := hne 'I' rfl
  have hminus := hne '-' rfl
  rw [hl]
  constructor
  · simp [words, readWord, hnull, htrue, hfalse, hnan, hinf, hminus]
  · simp [words, readWord, hinf]

theorem readScalar_intText (repr : Repr) {n : ℤ} {rest : List Char} (hrest : Stops rest)
    (hn : (natText n.natAbs).length ≤ maxDigits) :
    readScalar repr (intText n ++ rest) = some (.int n, rest) := by
  obtain ⟨hplus, hminus⟩ := words_natText n.natAbs rest
  unfold readScalar intText
  split_ifs with hneg
  · rw [hminus]
    change readMagnitude repr ['-'] (natText n.natAbs ++ rest) = _
    have habs : -(n.natAbs : ℤ) = n := by omega
    rw [readMagnitude_natText repr _ hrest hn]
    simp only [List.isEmpty_cons, Bool.false_eq_true, if_false, habs]
  · rw [hplus]
    obtain ⟨c, l, hl⟩ := List.exists_cons_of_ne_nil (natText_ne_nil n.natAbs)
    have hc : c ≠ '-' := by
      rintro rfl
      have hdigit := isDigit_natText n.natAbs '-' (by rw [hl]; exact List.mem_cons_self)
      cases hdigit
    dsimp only
    split
    · rename_i l' hl'
      rw [hl] at hl'
      exact absurd (List.cons.inj hl').1 hc
    · have habs : (n.natAbs : ℤ) = n := by omega
      rw [readMagnitude_natText repr _ hrest hn]
      simp only [List.isEmpty_nil, if_true, habs]

end numbers

section roundTrip

structure IsNormal (repr : Repr) (t : List Char) : Prop where
  head : ∃ c l, t = c :: l ∧ (isDigit c = true ∨ c ∈ ['-', 'N', 'I'])
  read : ∀ rest, Stops rest → readScalar repr (t ++ rest) = some (.float t, rest)

mutual

/-- A value that can be written and read: its objects have no key twice, its numbers are not too
long. -/
def WellFormed (repr : Repr) : Value → Prop
  | .int n => (natText n.natAbs).length ≤ maxDigits
  | .float t => IsNormal repr t
  | .list xs => WellFormedElements repr xs
  | .dict entries => (entries.map Prod.fst).Nodup ∧ WellFormedEntries repr entries
  | .null | .bool _ | .str _ => True

def WellFormedElements (repr : Repr) : List Value → Prop
  | [] => True
  | x :: xs => WellFormed repr x ∧ WellFormedElements repr xs

def WellFormedEntries (repr : Repr) : List (String × Value) → Prop
  | [] => True
  | (_, v) :: entries => WellFormed repr v ∧ WellFormedEntries repr entries

end

variable {repr : Repr}

theorem readValue_scalar {fuel : ℕ} {c : Char} {l : List Char}
    (hc : c ≠ '"' ∧ c ≠ '[' ∧ c ≠ '{') :
    readValue repr (fuel + 1) (c :: l) = readScalar repr (c :: l) := by
  obtain ⟨hquote, hbracket, hbrace⟩ := hc
  rw [readValue]
  · intro l' h
    exact hquote (List.cons.inj h).1
  · intro l' h
    exact hbracket (List.cons.inj h).1
  · intro l' h
    exact hbrace (List.cons.inj h).1

def Begins (c : Char) : Prop := isSpace c = false ∧ c ≠ ']' ∧ c ≠ '}'

theorem begins_of_number {c : Char} (h : isDigit c = true ∨ c ∈ ['-', 'N', 'I']) :
    Begins c ∧ c ≠ '"' ∧ c ≠ '[' ∧ c ≠ '{' := by
  have hne : ∀ d, isDigit d = false → d ∉ ['-', 'N', 'I'] → c ≠ d := by
    rintro d hd hd' rfl
    rcases h with h | h
    · rw [hd] at h
      cases h
    · exact hd' h
  have hspace : isSpace c = false := by
    have h1 := hne ' ' rfl (by decide)
    have h2 := hne '\t' rfl (by decide)
    have h3 := hne '\n' rfl (by decide)
    have h4 := hne '\r' rfl (by decide)
    simp [isSpace, h1, h2, h3, h4]
  exact ⟨⟨hspace, hne ']' rfl (by decide), hne '}' rfl (by decide)⟩, hne '"' rfl (by decide),
    hne '[' rfl (by decide), hne '{' rfl (by decide)⟩

theorem head_intText (n : ℤ) :
    ∃ c l, intText n = c :: l ∧ (isDigit c = true ∨ c ∈ ['-', 'N', 'I']) := by
  unfold intText
  split
  · exact ⟨_, _, rfl, .inr (by decide)⟩
  · obtain ⟨c, l, hl⟩ := List.exists_cons_of_ne_nil (natText_ne_nil n.natAbs)
    refine ⟨c, l, hl, .inl (isDigit_natText n.natAbs c ?_)⟩
    rw [hl]
    exact List.mem_cons_self

theorem text_begins {v : Value} (h : WellFormed repr v) : ∃ c l, text v = c :: l ∧ Begins c := by
  cases v with
  | null => exact ⟨_, _, rfl, by decide, by decide, by decide⟩
  | bool b =>
    cases b
    · exact ⟨_, _, rfl, by decide, by decide, by decide⟩
    · exact ⟨_, _, rfl, by decide, by decide, by decide⟩
  | int n =>
    obtain ⟨c, l, hl, hc⟩ := head_intText n
    exact ⟨c, l, by rw [text, hl], (begins_of_number hc).1⟩
  | float t =>
    unfold WellFormed at h
    obtain ⟨c, l, hl, hc⟩ := h.head
    exact ⟨c, l, by rw [text, hl], (begins_of_number hc).1⟩
  | str s => exact ⟨_, _, rfl, by decide, by decide, by decide⟩
  | list xs =>
    cases xs
    · exact ⟨_, _, rfl, by decide, by decide, by decide⟩
    · exact ⟨_, _, rfl, by decide, by decide, by decide⟩
  | dict entries =>
    cases entries
    · exact ⟨_, _, rfl, by decide, by decide, by decide⟩
    · exact ⟨_, _, rfl, by decide, by decide, by decide⟩

theorem skip_text {v : Value} (h : WellFormed repr v) (rest : List Char) :
    skip (text v ++ rest) = text v ++ rest := by
  obtain ⟨c, l, hl, hspace, -⟩ := text_begins h
  rw [hl, List.cons_append, skip, List.dropWhile_cons_of_neg (by simp [hspace])]

theorem skip_cons {c : Char} (hc : isSpace c = false) (l : List Char) : skip (c :: l) = c :: l := by
  rw [skip, List.dropWhile_cons_of_neg (by simp [hc])]

theorem ofPairs_of_nodup {entries : List (String × Value)} (h : (entries.map Prod.fst).Nodup) :
    ofPairs entries = entries := by
  induction entries with
  | nil => rfl
  | cons entry entries ih =>
    rw [List.map_cons, List.nodup_cons] at h
    rw [ofPairs, ih h.2, if_neg h.1]

theorem stops_textElements (xs : List Value) (rest : List Char) : Stops (textElements xs ++ rest) := by
  cases xs with
  | nil => simp [Stops, textElements]; decide
  | cons x xs => simp [Stops, textElements]; decide

theorem stops_textEntries (entries : List (String × Value)) (rest : List Char) :
    Stops (textEntries entries ++ rest) := by
  cases entries with
  | nil => simp [Stops, textEntries]; decide
  | cons entry entries => simp [Stops, textEntries]; decide

theorem readScalar_word {word : List Char} {v : Value} (h : (word, v) ∈ words) (rest : List Char) :
    readScalar repr (word ++ rest) = some (v, rest) := by
  simp only [words, List.mem_cons, Prod.mk.injEq, List.not_mem_nil, or_false] at h
  rcases h with ⟨rfl, rfl⟩ | ⟨rfl, rfl⟩ | ⟨rfl, rfl⟩ | ⟨rfl, rfl⟩ | ⟨rfl, rfl⟩ | ⟨rfl, rfl⟩
  all_goals simp [readScalar, words, readWord]

theorem length_text_pos {v : Value} (h : WellFormed repr v) : 0 < (text v).length := by
  obtain ⟨c, l, hl, -⟩ := text_begins h
  rw [hl, List.length_cons]
  omega

theorem stringText_append (s : String) (rest : List Char) :
    stringText s ++ rest = '"' :: (s.toList.flatMap escape ++ '"' :: rest) := by
  simp [stringText]

/-- What is read back with so much fuel: values, the elements of lists and the entries of
objects. -/
structure ReadsBack (repr : Repr) (fuel : ℕ) : Prop where
  value : ∀ (v : Value) (rest : List Char), WellFormed repr v → (text v).length ≤ fuel →
    Stops rest → readValue repr fuel (text v ++ rest) = some (v, rest)
  elements : ∀ (x : Value) (xs : List Value) (rest : List Char), WellFormed repr x →
    WellFormedElements repr xs → (text x ++ textElements xs).length ≤ fuel →
      readElements repr fuel (text x ++ (textElements xs ++ rest)) = some (x :: xs, rest)
  entries : ∀ (key : String) (v : Value) (entries : List (String × Value)) (rest : List Char),
    WellFormed repr v → WellFormedEntries repr entries →
      (text v ++ textEntries entries).length < fuel →
      readEntries repr fuel (stringText key ++ ':' :: (text v ++ (textEntries entries ++ rest))) =
        some ((key, v) :: entries, rest)

theorem ReadsBack.scalar {fuel : ℕ} {v : Value} {rest : List Char} {c : Char} {l : List Char}
    (hv : text v = c :: l) (hc : c ≠ '"' ∧ c ≠ '[' ∧ c ≠ '{')
    (h : readScalar repr (text v ++ rest) = some (v, rest)) :
    readValue repr (fuel + 1) (text v ++ rest) = some (v, rest) := by
  rw [hv, List.cons_append] at h ⊢
  rw [readValue_scalar hc, h]

theorem ReadsBack.value_succ {fuel : ℕ} (ih : ReadsBack repr fuel) (v : Value) (rest : List Char)
    (h : WellFormed repr v) (hlen : (text v).length ≤ fuel + 1) (hrest : Stops rest) :
    readValue repr (fuel + 1) (text v ++ rest) = some (v, rest) := by
  cases v with
  | null =>
    refine ReadsBack.scalar (c := 'n') (l := ['u', 'l', 'l']) (by rw [text]; rfl) (by decide) ?_
    rw [text]
    exact readScalar_word (by simp [words]) rest
  | bool b =>
    cases b with
    | true =>
      refine ReadsBack.scalar (c := 't') (l := ['r', 'u', 'e']) (by rw [text]; rfl) (by decide) ?_
      rw [text]
      exact readScalar_word (by simp [words]) rest
    | false =>
      refine ReadsBack.scalar (c := 'f') (l := ['a', 'l', 's', 'e']) (by rw [text]; rfl)
        (by decide) ?_
      rw [text]
      exact readScalar_word (by simp [words]) rest
  | int n =>
    obtain ⟨c, l, hl, hc⟩ := head_intText n
    refine ReadsBack.scalar (by rw [text, hl]) (begins_of_number hc).2 ?_
    rw [text]
    exact readScalar_intText repr hrest h
  | float t =>
    unfold WellFormed at h
    obtain ⟨c, l, hl, hc⟩ := h.head
    refine ReadsBack.scalar (by rw [text, hl]) (begins_of_number hc).2 ?_
    rw [text]
    exact h.read rest hrest
  | str s =>
    rw [text, stringText_append, readValue, readString_text, Option.map_some, String.ofList_toList]
  | list xs =>
    cases xs with
    | nil => simp [text, readValue, skip, isSpace]
    | cons x xs =>
      obtain ⟨hx, hxs⟩ := h
      obtain ⟨c, l, hl, -, hc, -⟩ := text_begins hx
      have hread := ih.elements x xs rest hx hxs (by simpa [text] using hlen)
      rw [text, List.cons_append, List.append_assoc, readValue, skip_text hx]
      split
      · rename_i l' h'
        rw [hl] at h'
        exact absurd (List.cons.inj h').1 hc
      · rw [hread, Option.map_some]
  | dict entries =>
    cases entries with
    | nil => simp [text, readValue, skip, isSpace]
    | cons entry entries =>
      obtain ⟨key, v⟩ := entry
      obtain ⟨hnodup, hv, hentries⟩ := h
      have hread := ih.entries key v entries rest hv hentries (by
        simp [text, stringText] at hlen ⊢
        omega)
      have hquote : skip (stringText key ++ ':' :: (text v ++ (textEntries entries ++ rest))) =
          stringText key ++ ':' :: (text v ++ (textEntries entries ++ rest)) := by
        rw [stringText_append]
        exact skip_cons (by decide) _
      rw [text, List.cons_append, List.append_assoc, List.cons_append, List.append_assoc, readValue,
        hquote]
      split
      · rename_i l' h'
        rw [stringText_append] at h'
        exact absurd (List.cons.inj h').1 (by decide)
      · rw [hread, Option.map_some, ofPairs_of_nodup hnodup]

theorem ReadsBack.elements_succ {fuel : ℕ} (ih : ReadsBack repr fuel) (x : Value) (xs : List Value)
    (rest : List Char) (hx : WellFormed repr x) (hxs : WellFormedElements repr xs)
    (hlen : (text x ++ textElements xs).length ≤ fuel + 1) :
    readElements repr (fuel + 1) (text x ++ (textElements xs ++ rest)) = some (x :: xs, rest) := by
  rw [List.length_append] at hlen
  have hpos : 0 < (textElements xs).length := by cases xs <;> simp [textElements]
  rw [readElements, ih.value x _ hx (by omega) (stops_textElements xs rest)]
  dsimp only
  cases xs with
  | nil =>
    rw [textElements, List.singleton_append, skip_cons (by decide)]
    rfl
  | cons y ys =>
    obtain ⟨hy, hys⟩ := hxs
    rw [textElements, List.cons_append, List.append_assoc, skip_cons (by decide)]
    change (readElements repr fuel (skip (text y ++ (textElements ys ++ rest)))).map _ = _
    rw [skip_text hy, ih.elements y ys rest hy hys, Option.map_some]
    have hxpos := length_text_pos hx
    rw [textElements, List.length_cons] at hlen
    omega

theorem ReadsBack.entries_succ {fuel : ℕ} (ih : ReadsBack repr fuel) (key : String) (v : Value)
    (entries : List (String × Value)) (rest : List Char) (hv : WellFormed repr v)
    (hentries : WellFormedEntries repr entries)
    (hlen : (text v ++ textEntries entries).length < fuel + 1) :
    readEntries repr (fuel + 1)
        (stringText key ++ ':' :: (text v ++ (textEntries entries ++ rest))) =
      some ((key, v) :: entries, rest) := by
  rw [List.length_append] at hlen
  have hpos : 0 < (textEntries entries).length := by
    rcases entries with - | ⟨key', v'⟩ <;> simp [textEntries]
  rw [stringText_append, readEntries, readString_text]
  dsimp only
  rw [skip_cons (by decide)]
  have hread := ih.value v _ hv (by omega) (stops_textEntries entries rest)
  simp only [skip_text hv, hread, String.ofList_toList]
  cases entries with
  | nil =>
    rw [textEntries, List.singleton_append, skip_cons (by decide)]
    rfl
  | cons entry entries =>
    obtain ⟨key', v'⟩ := entry
    obtain ⟨hv', hentries'⟩ := hentries
    have hquote : skip (stringText key' ++ ':' :: (text v' ++ (textEntries entries ++ rest))) =
        stringText key' ++ ':' :: (text v' ++ (textEntries entries ++ rest)) := by
      rw [stringText_append]
      exact skip_cons (by decide) _
    rw [textEntries, List.cons_append, List.append_assoc, List.cons_append, List.append_assoc,
      skip_cons (by decide)]
    change (readEntries repr fuel (skip (stringText key' ++ ':' ::
      (text v' ++ (textEntries entries ++ rest))))).map _ = _
    rw [hquote, ih.entries key' v' entries rest hv' hentries', Option.map_some]
    have hvpos := length_text_pos hv
    simp [textEntries, stringText] at hlen ⊢
    omega

theorem readsBack (repr : Repr) (fuel : ℕ) : ReadsBack repr fuel := by
  induction fuel with
  | zero =>
    refine ⟨?_, ?_, ?_⟩
    · intro v rest h hlen
      have hpos := length_text_pos h
      omega
    · intro x xs rest hx _ hlen
      have hpos := length_text_pos hx
      rw [List.length_append] at hlen
      omega
    · intro key v entries rest _ _ hlen
      omega
  | succ fuel ih => exact ⟨ih.value_succ, ih.elements_succ, ih.entries_succ⟩

theorem loads_text {v : Value} (h : WellFormed repr v) : loads repr (text v) = some v := by
  have hread := (readsBack repr ((text v).length + 1)).value v [] h (by omega) Stops.nil
  have hskip := skip_text h []
  rw [List.append_nil] at hread hskip
  rw [loads, hskip, hread]
  rfl

end roundTrip

section wellFormed

variable {repr : Repr}

theorem wellFormedEntries_iff {entries : List (String × Value)} :
    WellFormedEntries repr entries ↔ ∀ entry ∈ entries, WellFormed repr entry.2 := by
  induction entries with
  | nil => simp [WellFormedEntries]
  | cons entry entries ih => rw [WellFormedEntries, ih, List.forall_mem_cons]

theorem natOf_lt (l : List Char) : natOf l < 10 ^ l.length := by
  have hdigit : ∀ c, (digitOf? c).getD 0 < 10 := by
    intro c
    unfold digitOf?
    split
    · rename_i h
      have hle : c.toNat ≤ '9'.toNat := h.2
      change c.toNat - '0'.toNat < 10
      have h9 : '9'.toNat = 57 := rfl
      have h0 : '0'.toNat = 48 := rfl
      omega
    · decide
  have hfold : ∀ (l : List Char) (n : ℕ),
      l.foldl (fun n c ↦ 10 * n + (digitOf? c).getD 0) n < (n + 1) * 10 ^ l.length := by
    intro l
    induction l with
    | nil => simp
    | cons c l ih =>
      intro n
      refine Nat.lt_of_lt_of_le (ih _) ?_
      have hc := hdigit c
      have hstep : 10 * n + (digitOf? c).getD 0 + 1 ≤ (n + 1) * 10 := by omega
      rw [List.length_cons, pow_succ', ← mul_assoc]
      exact Nat.mul_le_mul_right _ hstep
  unfold natOf
  simpa using hfold l 0

theorem length_natText_natOf {l : List Char} (h : l ≠ []) :
    (natText (natOf l)).length ≤ l.length := by
  have hpos := List.length_pos_of_ne_nil h
  unfold natText
  split
  · exact hpos
  · rw [List.length_map, List.length_reverse]
    exact (Nat.digits_length_le_iff (by decide) _).mpr (natOf_lt l)

theorem readNat_ne_nil {l digits rest : List Char} (h : readNat l = some (digits, rest)) :
    digits ≠ [] := by
  unfold readNat at h
  split at h
  · cases h
    simp
  · split at h
    · cases h
    · rename_i hne
      cases h
      simpa using hne

theorem wellFormed_readMagnitude (hrepr : ∀ literal, IsNormal repr (repr literal))
    {sign l rest : List Char} {v : Value} (h : readMagnitude repr sign l = some (v, rest)) :
    WellFormed repr v := by
  unfold readMagnitude at h
  cases hnat : readNat l with
  | none =>
    rw [hnat] at h
    cases h
  | some r =>
    obtain ⟨digits, l'⟩ := r
    rw [hnat] at h
    dsimp only at h
    split at h
    · split at h
      · cases h
      · rename_i hlen
        cases h
        have hshort := length_natText_natOf (readNat_ne_nil hnat)
        have habs : ((if sign.isEmpty then (natOf digits : ℤ) else -natOf digits)).natAbs =
            natOf digits := by
          split <;> omega
        unfold WellFormed
        rw [habs]
        omega
    · cases h
      exact hrepr _

theorem isNormal_word {t : List Char} (h : (t, Value.float t) ∈ words) : IsNormal repr t := by
  refine ⟨?_, fun rest _ ↦ readScalar_word h rest⟩
  simp only [words, List.mem_cons, Prod.mk.injEq, reduceCtorEq, and_false, false_or,
    List.not_mem_nil, or_false, Value.float.injEq, and_self] at h
  rcases h with rfl | rfl | rfl
  · exact ⟨_, _, rfl, .inr (by decide)⟩
  · exact ⟨_, _, rfl, .inr (by decide)⟩
  · exact ⟨_, _, rfl, .inr (by decide)⟩

theorem wellFormed_readScalar (hrepr : ∀ literal, IsNormal repr (repr literal)) {l rest : List Char}
    {v : Value} (h : readScalar repr l = some (v, rest)) : WellFormed repr v := by
  unfold readScalar at h
  split at h
  · rename_i r hr
    obtain rfl := Option.some.inj h
    obtain ⟨⟨word, w⟩, hword, hr⟩ := List.exists_of_findSome?_eq_some hr
    obtain ⟨l', -, hr⟩ := Option.map_eq_some_iff.mp hr
    obtain ⟨rfl, -⟩ := Prod.mk.inj hr
    have hfloat := @isNormal_word repr
    simp only [words, List.mem_cons, Prod.mk.injEq, List.not_mem_nil, or_false] at hword
    rcases hword with ⟨-, rfl⟩ | ⟨-, rfl⟩ | ⟨-, rfl⟩ | ⟨-, rfl⟩ | ⟨-, rfl⟩ | ⟨-, rfl⟩
    · trivial
    · trivial
    · trivial
    · exact hfloat (by simp [words])
    · exact hfloat (by simp [words])
    · exact hfloat (by simp [words])
  · split at h
    · exact wellFormed_readMagnitude hrepr h
    · exact wellFormed_readMagnitude hrepr h

theorem ofPairs_spec (pairs : List (String × Value)) :
    ((ofPairs pairs).map Prod.fst).Nodup ∧ ofPairs pairs ⊆ pairs := by
  induction pairs with
  | nil => exact ⟨List.nodup_nil, List.Subset.refl _⟩
  | cons pair pairs ih =>
    obtain ⟨hnodup, hsub⟩ := ih
    rw [ofPairs]
    split
    · exact ⟨hnodup, List.subset_cons_of_subset _ hsub⟩
    · rename_i hnew
      exact ⟨List.nodup_cons.mpr ⟨hnew, hnodup⟩, List.cons_subset_cons _ hsub⟩

/-- Whatever is read can be written and read again. -/
structure ReadsWell (repr : Repr) (fuel : ℕ) : Prop where
  value : ∀ l v rest, readValue repr fuel l = some (v, rest) → WellFormed repr v
  elements : ∀ l xs rest, readElements repr fuel l = some (xs, rest) → WellFormedElements repr xs
  entries : ∀ l entries rest, readEntries repr fuel l = some (entries, rest) →
    WellFormedEntries repr entries

theorem ReadsWell.value_succ (hrepr : ∀ literal, IsNormal repr (repr literal)) {fuel : ℕ}
    (ih : ReadsWell repr fuel) (l : List Char) (v : Value) (rest : List Char)
    (h : readValue repr (fuel + 1) l = some (v, rest)) : WellFormed repr v := by
  rw [readValue.eq_def] at h
  dsimp only at h
  split at h
  · obtain ⟨r, -, hr⟩ := Option.map_eq_some_iff.mp h
    obtain ⟨rfl, -⟩ := Prod.mk.inj hr
    trivial
  · split at h
    · cases h
      trivial
    · obtain ⟨r, hread, hr⟩ := Option.map_eq_some_iff.mp h
      obtain ⟨rfl, -⟩ := Prod.mk.inj hr
      exact ih.elements _ _ _ hread
  · split at h
    · cases h
      exact ⟨List.nodup_nil, trivial⟩
    · obtain ⟨r, hread, hr⟩ := Option.map_eq_some_iff.mp h
      obtain ⟨rfl, -⟩ := Prod.mk.inj hr
      obtain ⟨hnodup, hsub⟩ := ofPairs_spec r.1
      have hall := wellFormedEntries_iff.mp (ih.entries _ _ _ hread)
      exact ⟨hnodup, wellFormedEntries_iff.mpr fun entry hentry ↦ hall entry (hsub hentry)⟩
  · exact wellFormed_readScalar hrepr h

theorem ReadsWell.elements_succ {fuel : ℕ} (ih : ReadsWell repr fuel) (l : List Char)
    (xs : List Value) (rest : List Char) (h : readElements repr (fuel + 1) l = some (xs, rest)) :
    WellFormedElements repr xs := by
  rw [readElements] at h
  split at h
  · cases h
  · rename_i x l' hx
    have hwell := ih.value _ _ _ hx
    split at h
    · cases h
      exact ⟨hwell, trivial⟩
    · obtain ⟨r, hread, hr⟩ := Option.map_eq_some_iff.mp h
      obtain ⟨rfl, -⟩ := Prod.mk.inj hr
      exact ⟨hwell, ih.elements _ _ _ hread⟩
    · cases h

theorem ReadsWell.entries_succ {fuel : ℕ} (ih : ReadsWell repr fuel) (l : List Char)
    (entries : List (String × Value)) (rest : List Char)
    (h : readEntries repr (fuel + 1) l = some (entries, rest)) :
    WellFormedEntries repr entries := by
  rw [readEntries.eq_def] at h
  dsimp only at h
  split at h
  · split at h
    · cases h
    · split at h
      · split at h
        · cases h
        · rename_i v l' hv
          have hwell := ih.value _ _ _ hv
          split at h
          · cases h
            exact ⟨hwell, trivial⟩
          · obtain ⟨r, hread, hr⟩ := Option.map_eq_some_iff.mp h
            obtain ⟨rfl, -⟩ := Prod.mk.inj hr
            exact ⟨hwell, ih.entries _ _ _ hread⟩
          · cases h
      · cases h
  · cases h

theorem readsWell (hrepr : ∀ literal, IsNormal repr (repr literal)) (fuel : ℕ) :
    ReadsWell repr fuel := by
  induction fuel with
  | zero => exact ⟨fun _ _ _ h ↦ (nomatch h), fun _ _ _ h ↦ (nomatch h), fun _ _ _ h ↦ (nomatch h)⟩
  | succ fuel ih => exact ⟨ih.value_succ hrepr, ih.elements_succ, ih.entries_succ⟩

theorem wellFormed_loads (hrepr : ∀ literal, IsNormal repr (repr literal)) {l : List Char}
    {v : Value} (h : loads repr l = some v) : WellFormed repr v := by
  unfold loads at h
  split at h
  · cases h
  · rename_i w rest hread
    split at h
    · obtain rfl := Option.some.inj h
      exact (readsWell hrepr _).value _ _ _ hread
    · cases h

end wellFormed

section sortKeys

variable {repr : Repr}

theorem keys_sortEntries (entries : List (String × Value)) :
    (sortEntries entries).map Prod.fst = entries.map Prod.fst := by
  induction entries with
  | nil => rfl
  | cons entry entries ih =>
    obtain ⟨key, v⟩ := entry
    rw [sortEntries, List.map_cons, List.map_cons, ih]

mutual

theorem wellFormed_sortKeys : ∀ v : Value, WellFormed repr v → WellFormed repr (sortKeys v)
  | .null, h => h
  | .bool _, h => h
  | .int _, h => h
  | .float _, h => h
  | .str _, h => h
  | .list xs, h => wellFormed_sortElements xs h
  | .dict entries, ⟨hnodup, h⟩ => by
    have hperm := List.perm_insertionSort ByKey (sortEntries entries)
    have hsorted := wellFormedEntries_iff.mp (wellFormed_sortEntries entries h)
    refine ⟨?_, wellFormedEntries_iff.mpr fun entry hentry ↦ hsorted entry (hperm.mem_iff.mp hentry)⟩
    rw [← keys_sortEntries] at hnodup
    exact (hperm.map Prod.fst).nodup_iff.mpr hnodup

theorem wellFormed_sortElements : ∀ xs : List Value, WellFormedElements repr xs →
    WellFormedElements repr (sortElements xs)
  | [], h => h
  | x :: xs, ⟨hx, hxs⟩ => ⟨wellFormed_sortKeys x hx, wellFormed_sortElements xs hxs⟩

theorem wellFormed_sortEntries : ∀ entries : List (String × Value),
    WellFormedEntries repr entries → WellFormedEntries repr (sortEntries entries)
  | [], h => h
  | (_, v) :: entries, ⟨hv, hentries⟩ =>
    ⟨wellFormed_sortKeys v hv, wellFormed_sortEntries entries hentries⟩

end

mutual

def IsSorted : Value → Prop
  | .list xs => AreSorted xs
  | .dict entries => entries.Pairwise ByKey ∧ EntriesAreSorted entries
  | .null | .bool _ | .int _ | .float _ | .str _ => True

def AreSorted : List Value → Prop
  | [] => True
  | x :: xs => IsSorted x ∧ AreSorted xs

def EntriesAreSorted : List (String × Value) → Prop
  | [] => True
  | (_, v) :: entries => IsSorted v ∧ EntriesAreSorted entries

end

theorem entriesAreSorted_iff {entries : List (String × Value)} :
    EntriesAreSorted entries ↔ ∀ entry ∈ entries, IsSorted entry.2 := by
  induction entries with
  | nil => simp [EntriesAreSorted]
  | cons entry entries ih => rw [EntriesAreSorted, ih, List.forall_mem_cons]

mutual

theorem isSorted_sortKeys : ∀ v : Value, IsSorted (sortKeys v)
  | .null | .bool _ | .int _ | .float _ | .str _ => trivial
  | .list xs => areSorted_sortElements xs
  | .dict entries => by
    have hperm := List.perm_insertionSort ByKey (sortEntries entries)
    have hsorted := entriesAreSorted_iff.mp (entriesAreSorted_sortEntries entries)
    exact ⟨List.pairwise_insertionSort _ _,
      entriesAreSorted_iff.mpr fun entry hentry ↦ hsorted entry (hperm.mem_iff.mp hentry)⟩

theorem areSorted_sortElements : ∀ xs : List Value, AreSorted (sortElements xs)
  | [] => trivial
  | x :: xs => ⟨isSorted_sortKeys x, areSorted_sortElements xs⟩

theorem entriesAreSorted_sortEntries : ∀ entries : List (String × Value),
    EntriesAreSorted (sortEntries entries)
  | [] => trivial
  | (_, v) :: entries => ⟨isSorted_sortKeys v, entriesAreSorted_sortEntries entries⟩

end

mutual

theorem sortKeys_of_isSorted : ∀ v : Value, IsSorted v → sortKeys v = v
  | .null, _ | .bool _, _ | .int _, _ | .float _, _ | .str _, _ => rfl
  | .list xs, h => congrArg Value.list (sortElements_of_areSorted xs h)
  | .dict entries, ⟨hpairwise, h⟩ => by
    rw [sortKeys, sortEntries_of_areSorted entries h, hpairwise.insertionSort_eq]

theorem sortElements_of_areSorted : ∀ xs : List Value, AreSorted xs → sortElements xs = xs
  | [], _ => rfl
  | x :: xs, ⟨hx, hxs⟩ => by
    rw [sortElements, sortKeys_of_isSorted x hx, sortElements_of_areSorted xs hxs]

theorem sortEntries_of_areSorted : ∀ entries : List (String × Value),
    EntriesAreSorted entries → sortEntries entries = entries
  | [], _ => rfl
  | (_, v) :: entries, ⟨hv, hentries⟩ => by
    rw [sortEntries, sortKeys_of_isSorted v hv, sortEntries_of_areSorted entries hentries]

end

theorem dumps_sortKeys (v : Value) : dumps (sortKeys v) = dumps v := by
  rw [dumps, sortKeys_of_isSorted _ (isSorted_sortKeys v), dumps]

theorem loads_dumps {v : Value} (h : WellFormed repr v) :
    loads repr (dumps v) = some (sortKeys v) :=
  loads_text (wellFormed_sortKeys v h)

theorem lookup_eq_some_iff {α : Type} {entries : List (String × α)} {key : String} {a : α}
    (h : (entries.map Prod.fst).Nodup) : entries.lookup key = some a ↔ (key, a) ∈ entries := by
  induction entries with
  | nil => simp
  | cons entry entries ih =>
    obtain ⟨key', a'⟩ := entry
    rw [List.map_cons, List.nodup_cons] at h
    rw [List.lookup_cons, List.mem_cons, Prod.mk.injEq]
    by_cases hkey : key = key'
    · subst hkey
      have hnot : (key, a) ∉ entries := fun hmem ↦ h.1 (List.mem_map.mpr ⟨_, hmem, rfl⟩)
      simp [hnot, eq_comm]
    · have hbeq : (key == key') = false := by simpa using hkey
      rw [hbeq]
      simp [hkey, ih h.2]

theorem lookup_sortEntries (entries : List (String × Value)) (key : String) :
    (sortEntries entries).lookup key = (entries.lookup key).map sortKeys := by
  induction entries with
  | nil => rfl
  | cons entry entries ih =>
    obtain ⟨key', v⟩ := entry
    rw [sortEntries, List.lookup_cons, List.lookup_cons, ih]
    split <;> rfl

/-- Sorting keeps what stands under a key. -/
theorem get_sortKeys {v : Value} (h : WellFormed repr v) (key : String) :
    (sortKeys v).get key = (v.get key).map sortKeys := by
  cases v with
  | dict entries =>
    have hnodup : ((sortEntries entries).map Prod.fst).Nodup := by
      rw [keys_sortEntries]
      exact h.1
    have hperm := List.perm_insertionSort ByKey (sortEntries entries)
    rw [sortKeys]
    unfold Value.get
    dsimp only
    rw [← lookup_sortEntries]
    apply Option.ext
    intro w
    rw [lookup_eq_some_iff hnodup, lookup_eq_some_iff ((hperm.map Prod.fst).nodup_iff.mpr hnodup),
      hperm.mem_iff]
  | null => rfl
  | bool b => rfl
  | int n => rfl
  | float t => rfl
  | str s => rfl
  | list xs => rfl

theorem wellFormed_get {v w : Value} (h : WellFormed repr v) {key : String}
    (hget : v.get key = some w) : WellFormed repr w := by
  cases v with
  | dict entries =>
    have hmem := (lookup_eq_some_iff h.1).mp hget
    exact wellFormedEntries_iff.mp h.2 (key, w) hmem
  | null => cases hget
  | bool b => cases hget
  | int n => cases hget
  | float t => cases hget
  | str s => cases hget
  | list xs => cases hget

theorem get_eq_of_dumps_eq {v w : Value} (hv : WellFormed repr v) (hw : WellFormed repr w)
    (h : dumps v = dumps w) (key : String) : (v.get key).map sortKeys = (w.get key).map sortKeys := by
  have hloads := loads_dumps hv
  rw [h, loads_dumps hw] at hloads
  rw [← get_sortKeys hv, ← get_sortKeys hw, Option.some.inj hloads]

theorem sortKeys_eq_str {v : Value} {s : String} : sortKeys v = .str s ↔ v = .str s := by
  cases v <;> simp [sortKeys]

end sortKeys

end JsonText
