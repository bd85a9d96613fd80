import Mathlib.Data.List.Range

namespace VersionChain

universe u

variable {α : Type u} (version : α → ℕ) (live : α → Prop)

/-- The versions of one thing in the order in which they were made: numbered from one, and live at
most in the last. -/
structure Chain (l : List α) : Prop where
  versions : l.map version = List.range' 1 l.length
  settled : ∀ a ∈ l.dropLast, ¬live a

variable {version live} {l : List α} {a b : α}

theorem Chain.nil : Chain version live [] := ⟨rfl, fun _ h ↦ absurd h List.not_mem_nil⟩

theorem Chain.singleton (ha : version a = 1) : Chain version live [a] where
  versions := by rw [List.map_singleton, ha]; rfl
  settled := fun _ h ↦ absurd h List.not_mem_nil

theorem Chain.map (h : Chain version live l) {f : α → α} (hv : ∀ a ∈ l, version (f a) = version a)
    (hl : ∀ a ∈ l, live (f a) → live a) : Chain version live (l.map f) where
  versions := by
    rw [List.map_map, List.length_map, ← h.versions]
    exact List.map_congr_left hv
  settled := by
    intro b hb hlive
    rw [← List.map_dropLast] at hb
    obtain ⟨a, ha, rfl⟩ := List.mem_map.mp hb
    exact h.settled a ha (hl a (List.dropLast_subset l ha) hlive)

theorem Chain.concat (h : Chain version live l) (hdead : ∀ a ∈ l, ¬live a)
    (hb : version b = l.length + 1) : Chain version live (l ++ [b]) where
  versions := by
    rw [List.map_append, List.map_singleton, h.versions, hb, List.length_append,
      List.length_singleton, List.range'_concat, Nat.one_mul, Nat.add_comm 1]
  settled := by
    rw [List.dropLast_concat]
    exact hdead

theorem Chain.version_getElem (h : Chain version live l) {i : ℕ} (hi : i < l.length) :
    version l[i] = i + 1 := by
  have hmap : (l.map version)[i]? = (List.range' 1 l.length)[i]? := by rw [h.versions]
  rw [List.getElem?_map, List.getElem?_eq_getElem hi, List.getElem?_range' hi,
    Option.map_some] at hmap
  have hv := Option.some.inj hmap
  omega

theorem Chain.version_pos (h : Chain version live l) (ha : a ∈ l) :
    1 ≤ version a ∧ version a ≤ l.length := by
  obtain ⟨i, hi, rfl⟩ := List.mem_iff_getElem.mp ha
  have hv := h.version_getElem hi
  omega

theorem Chain.getElem_of_mem (h : Chain version live l) (ha : a ∈ l) :
    l[version a - 1]? = some a := by
  obtain ⟨i, hi, rfl⟩ := List.mem_iff_getElem.mp ha
  have hv := h.version_getElem hi
  rw [hv, Nat.add_sub_cancel]
  exact List.getElem?_eq_getElem hi

theorem Chain.eq_of_version (h : Chain version live l) (ha : a ∈ l) (hb : b ∈ l)
    (hv : version a = version b) : a = b := by
  have hga := h.getElem_of_mem ha
  have hgb := h.getElem_of_mem hb
  rw [hv, hgb] at hga
  exact (Option.some.inj hga).symm

theorem Chain.version_of_live (h : Chain version live l) (ha : a ∈ l) (hl : live a) :
    version a = l.length := by
  obtain ⟨i, hi, rfl⟩ := List.mem_iff_getElem.mp ha
  have hv := h.version_getElem hi
  by_contra hne
  have hlt : i < l.dropLast.length := by
    rw [List.length_dropLast]
    omega
  refine h.settled _ ?_ hl
  have hget : l.dropLast[i] = l[i] := List.getElem_dropLast hlt
  exact hget ▸ List.getElem_mem hlt

theorem Chain.getLast?_of_live (h : Chain version live l) (ha : a ∈ l) (hl : live a) :
    l.getLast? = some a := by
  rw [List.getLast?_eq_getElem?, ← h.version_of_live ha hl]
  exact h.getElem_of_mem ha

theorem Chain.eq_of_live (h : Chain version live l) (ha : a ∈ l) (hb : b ∈ l) (hla : live a)
    (hlb : live b) : a = b :=
  h.eq_of_version ha hb ((h.version_of_live ha hla).trans (h.version_of_live hb hlb).symm)

end VersionChain
