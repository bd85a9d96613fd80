import Mathlib.Data.List.Basic
import Mathlib.Data.String.Basic
import CyberNetizen.Lib.JsonRoundTrip

/-! # Texts that tell by themselves where they end -/

namespace PrefixCode

universe u

variable {α : Type u}

/-- What begins with the text of `x` does not begin with that of another one. -/
def SelfDelimiting (code : α → String) : Prop :=
  ∀ x y rest rest', code x ++ rest = code y ++ rest' → x = y ∧ rest = rest'

theorem append_ne_empty {s t : String} (h : s ≠ "") : s ++ t ≠ "" := by
  intro he
  have hlist : s.toList ++ t.toList = [] := by
    rw [← String.toList_append, he]
    rfl
  exact h (String.toList_eq_nil_iff.mp (List.append_eq_nil_iff.mp hlist).1)

theorem eq_of_append_eq {s t u : String} (h : s ++ t = s ++ u) : t = u := by
  have hlist : s.toList ++ t.toList = s.toList ++ u.toList := by
    rw [← String.toList_append, ← String.toList_append, h]
  exact String.toList_injective (List.append_cancel_left hlist)

theorem cut_unique {c : α} {a b rest rest' : List α} (ha : c ∉ a) (hb : c ∉ b)
    (h : a ++ c :: rest = b ++ c :: rest') : a = b ∧ rest = rest' := by
  induction a generalizing b with
  | nil =>
    cases b with
    | nil => exact ⟨rfl, (List.cons.inj h).2⟩
    | cons d b => exact absurd ((List.cons.inj h).1 ▸ List.mem_cons_self) hb
  | cons d a ih =>
    cases b with
    | nil => exact absurd ((List.cons.inj h).1 ▸ List.mem_cons_self) ha
    | cons e b =>
      obtain ⟨rfl, htail⟩ := List.cons.inj h
      obtain ⟨rfl, hrest⟩ := ih (fun hmem ↦ ha (List.mem_cons_of_mem _ hmem))
        (fun hmem ↦ hb (List.mem_cons_of_mem _ hmem)) htail
      exact ⟨rfl, hrest⟩

/-- Joined by any separator, such texts can be told apart. -/
theorem SelfDelimiting.intercalate_injective {code : α → String} (h : SelfDelimiting code)
    (hne : ∀ x, code x ≠ "") (separator : String) (xs ys : List α)
    (heq : separator.intercalate (xs.map code) = separator.intercalate (ys.map code)) : xs = ys := by
  have hshown : ∀ x l, separator.intercalate ((x :: l).map code) ≠ "" := by
    intro x l
    cases l with
    | nil =>
      rw [List.map_cons, List.map_nil, String.intercalate_singleton]
      exact hne x
    | cons y l =>
      rw [List.map_cons, List.map_cons, String.intercalate_cons_cons, String.append_assoc]
      exact append_ne_empty (hne x)
  induction xs generalizing ys with
  | nil =>
    cases ys with
    | nil => rfl
    | cons y ys => exact absurd heq.symm (hshown y ys)
  | cons x xs ih =>
    cases ys with
    | nil => exact absurd heq (hshown x xs)
    | cons y ys =>
      have hsplit : ∀ x l, ∃ rest, separator.intercalate ((x :: l).map code) = code x ++ rest ∧
          (l = [] → rest = "") ∧
          (l ≠ [] → rest = separator ++ separator.intercalate (l.map code)) := by
        intro x l
        cases l with
        | nil => exact ⟨"", by simp [String.intercalate_singleton], fun _ ↦ rfl, fun h ↦ absurd rfl h⟩
        | cons z l =>
          refine ⟨separator ++ separator.intercalate ((z :: l).map code), ?_, nofun, fun _ ↦ rfl⟩
          rw [List.map_cons, List.map_cons, String.intercalate_cons_cons, String.append_assoc]
      obtain ⟨rest, hx, hnil, hcons⟩ := hsplit x xs
      obtain ⟨rest', hy, hnil', hcons'⟩ := hsplit y ys
      rw [hx, hy] at heq
      obtain ⟨rfl, rfl⟩ := h x y rest rest' heq
      have hlong : ∀ z l, separator ++ separator.intercalate ((z :: l).map code) ≠ "" := by
        intro z l he
        have hlist : separator.toList ++
            (separator.intercalate ((z :: l).map code)).toList = [] := by
          rw [← String.toList_append, he]
          rfl
        exact hshown z l (String.toList_eq_nil_iff.mp (List.append_eq_nil_iff.mp hlist).2)
      cases xs with
      | nil =>
        cases ys with
        | nil => rfl
        | cons y ys => exact absurd ((hcons' (List.cons_ne_nil _ _)).symm.trans (hnil rfl)) (hlong y ys)
      | cons z xs =>
        cases ys with
        | nil => exact absurd ((hcons (List.cons_ne_nil _ _)).symm.trans (hnil' rfl)) (hlong z xs)
        | cons y ys =>
          have hrest := (hcons (List.cons_ne_nil _ _)).symm.trans (hcons' (List.cons_ne_nil _ _))
          rw [ih (y :: ys) (eq_of_append_eq hrest)]

end PrefixCode

/-! # Strings whose characters are written in another way -/

namespace JsonText

def Readable (f : Char → List Char) : Prop :=
  ∀ c l, readString (f c ++ l) = (readString l).map fun r ↦ (c :: r.1, r.2)

theorem readString_unicode {a b c d : Char} {n : ℕ} (h : codeUnit? a b c d = some n)
    (hn : n < 0xD800) (l : List Char) : readString ('\\' :: 'u' :: a :: b :: c :: d :: l) =
      (readString l).map fun r ↦ (Char.ofNat n :: r.1, r.2) := by
  rw [readString, h]
  simp [hn]

/-- A string in quotes, its characters written by `f`. -/
def stringBy (f : Char → List Char) (s : String) : List Char :=
  '"' :: (s.toList.flatMap f ++ ['"'])

theorem stringBy_append (f : Char → List Char) (s : String) (rest : List Char) :
    stringBy f s ++ rest = '"' :: (s.toList.flatMap f ++ '"' :: rest) := by
  simp [stringBy]

variable {f : Char → List Char} (hf : Readable f)
include hf

theorem Readable.string (s rest : List Char) :
    readString (s.flatMap f ++ '"' :: rest) = some (s, rest) := by
  induction s with
  | nil => simp [readString]
  | cons c s ih => rw [List.flatMap_cons, List.append_assoc, hf, ih, Option.map_some]

variable (repr : Repr) (fuel : ℕ)

theorem Readable.value (s : String) (rest : List Char) :
    readValue repr (fuel + 1) (stringBy f s ++ rest) = some (.str s, rest) := by
  rw [stringBy_append, readValue, hf.string, Option.map_some, String.ofList_toList]

theorem Readable.lastEntry (key s : String) (rest : List Char) :
    readEntries repr (fuel + 2) (stringBy f key ++ ':' :: (stringBy f s ++ '}' :: rest)) =
      some ([(key, .str s)], rest) := by
  have hvalue := hf.value repr fuel s ('}' :: rest)
  rw [stringBy_append f s] at hvalue
  rw [stringBy_append, stringBy_append, readEntries, hf.string]
  dsimp only
  rw [skip_cons (by decide)]
  simp only [skip_cons (c := '"') (by decide), hvalue, String.ofList_toList]
  rw [skip_cons (by decide)]
  rfl

theorem Readable.entry (key s key' : String) (rest : List Char) :
    readEntries repr (fuel + 2)
        (stringBy f key ++ ':' :: (stringBy f s ++ ',' :: (stringBy f key' ++ rest))) =
      (readEntries repr (fuel + 1) (stringBy f key' ++ rest)).map fun r ↦
        ((key, .str s) :: r.1, r.2) := by
  have hvalue := hf.value repr fuel s (',' :: (stringBy f key' ++ rest))
  rw [stringBy_append f s] at hvalue
  rw [stringBy_append f key, stringBy_append f s, readEntries, hf.string]
  dsimp only
  rw [skip_cons (by decide)]
  simp only [skip_cons (c := '"') (by decide), hvalue, String.ofList_toList]
  rw [skip_cons (by decide), stringBy_append]
  change (readEntries repr (fuel + 1) (skip ('"' :: _))).map _ = _
  rw [skip_cons (by decide)]

/-- An object of two strings is read back. -/
theorem Readable.loads_pair {key key' : String} (hkeys : key ≠ key') (s s' : String) :
    loads repr ('{' :: (stringBy f key ++ ':' :: (stringBy f s ++ ',' ::
      (stringBy f key' ++ ':' :: (stringBy f s' ++ ['}']))))) =
      some (.dict [(key, .str s), (key', .str s')]) := by
  have hentries : ∀ fuel, readEntries repr (fuel + 3) (stringBy f key ++ ':' :: (stringBy f s ++
      ',' :: (stringBy f key' ++ ':' :: (stringBy f s' ++ ['}'])))) =
      some ([(key, .str s), (key', .str s')], []) := by
    intro fuel
    rw [hf.entry repr (fuel + 1), hf.lastEntry repr fuel, Option.map_some]
  have hpairs : ofPairs [(key, Value.str s), (key', .str s')] =
      [(key, .str s), (key', .str s')] := by
    apply ofPairs_of_nodup
    simp [hkeys]
  have hvalue : ∀ fuel, readValue repr (fuel + 4) ('{' :: (stringBy f key ++ ':' ::
      (stringBy f s ++ ',' :: (stringBy f key' ++ ':' :: (stringBy f s' ++ ['}']))))) =
      some (.dict [(key, .str s), (key', .str s')], []) := by
    intro fuel
    have h := hentries fuel
    rw [stringBy_append f key] at h
    rw [stringBy_append f key, readValue, skip_cons (by decide)]
    change (readEntries repr (fuel + 3) ('"' :: _)).map _ = _
    rw [h, Option.map_some, hpairs]
  have hlength : ∃ fuel, ('{' :: (stringBy f key ++ ':' :: (stringBy f s ++ ',' ::
      (stringBy f key' ++ ':' :: (stringBy f s' ++ ['}']))))).length + 1 = fuel + 4 := by
    refine ⟨('{' :: (stringBy f key ++ ':' :: (stringBy f s ++ ',' ::
      (stringBy f key' ++ ':' :: (stringBy f s' ++ ['}']))))).length - 3, ?_⟩
    simp [stringBy]
    omega
  obtain ⟨fuel, hfuel⟩ := hlength
  rw [loads, skip_cons (by decide), hfuel, hvalue]
  rfl

end JsonText
