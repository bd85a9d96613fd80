import CyberNetizen.Lib.Table

/-! # Partial maps, one laid over the other -/

namespace Overlay

open KeyedTable

universe u v

variable {α : Type u} {κ : Type v}

/-- The values of `g`, and those of `f` where `g` has none. -/
def overlaid (g f : κ → Option α) (k : κ) : Option α := (g k).or (f k)

variable {f f' g : κ → Option α}

theorem overlaid_of_some {k : κ} {a : α} (h : g k = some a) : overlaid g f k = some a := by
  unfold overlaid
  rw [h, Option.some_or]

theorem overlaid_of_none {k : κ} (h : g k = none) : overlaid g f k = f k := by
  unfold overlaid
  rw [h, Option.none_or]

theorem overlaid_eq_iff : overlaid g f = overlaid g f' ↔ ∀ k, g k = none → f k = f' k := by
  constructor
  · intro h k hk
    have hkk := congrFun h k
    rwa [overlaid_of_none hk, overlaid_of_none hk] at hkk
  · intro h
    funext k
    cases hk : g k with
    | none => rw [overlaid_of_none hk, overlaid_of_none hk, h k hk]
    | some a => rw [overlaid_of_some hk, overlaid_of_some hk]

section lists

variable [DecidableEq κ] (key : α → κ)

/-- The dictionary of a list of entries: of several with one key, the last stays. -/
def dict (l : List α) : Table key := l.foldl Table.put .empty

def lookup (l : List α) (k : κ) : Option α := (dict key l).find? k

variable {key} {l l' : List α}

theorem find?_foldl_put (t : Table key) (l : List α) (k : κ) :
    (l.foldl Table.put t).find? k = overlaid (fun k ↦ (l.reverse.find? fun a ↦ key a = k)) t.find? k := by
  induction l generalizing t with
  | nil => rfl
  | cons a l ih =>
    rw [List.foldl_cons, ih]
    unfold overlaid
    dsimp only
    rw [List.reverse_cons, List.find?_append, Table.find?_put, Option.or_assoc]
    congr 1
    by_cases hk : k = key a
    · simp [hk]
    · simp [hk, Ne.symm hk]

theorem lookup_eq (l : List α) (k : κ) : lookup key l k = l.reverse.find? fun a ↦ key a = k := by
  unfold lookup dict
  rw [find?_foldl_put]
  unfold overlaid
  rw [Table.find?_empty, Option.or_none]

theorem find?_putAll (t : Table key) (l : List α) :
    (l.foldl Table.put t).find? = overlaid (lookup key l) t.find? := by
  funext k
  rw [find?_foldl_put]
  unfold overlaid
  rw [lookup_eq]

theorem lookup_eq_some (h : (l.map key).Nodup) {k : κ} {a : α} :
    lookup key l k = some a ↔ a ∈ l ∧ key a = k := by
  rw [lookup_eq]
  constructor
  · intro hfind
    exact ⟨List.mem_reverse.mp (List.mem_of_find?_eq_some hfind), by simpa using List.find?_some hfind⟩
  · rintro ⟨ha, rfl⟩
    cases hfind : l.reverse.find? fun b ↦ key b = key a with
    | none =>
      have hnone := List.find?_eq_none.mp hfind a (List.mem_reverse.mpr ha)
      simp at hnone
    | some b =>
      have hb := List.mem_reverse.mp (List.mem_of_find?_eq_some hfind)
      have hkey : key b = key a := by simpa using List.find?_some hfind
      rw [List.inj_on_of_nodup_map h hb ha hkey]

theorem lookup_perm (h : (l.map key).Nodup) (hperm : l'.Perm l) : lookup key l' = lookup key l := by
  have h' : (l'.map key).Nodup := (hperm.map key).nodup_iff.mpr h
  funext k
  refine Option.ext fun a ↦ ?_
  rw [lookup_eq_some h, lookup_eq_some h', hperm.mem_iff]

theorem lookup_rows (t : Table key) : lookup key t.rows = t.find? := by
  funext k
  refine Option.ext fun a ↦ ?_
  rw [lookup_eq_some t.nodup, Table.find?_eq_some, Table.mem_rows]

end lists

end Overlay
