import Mathlib.Data.List.Range
import Mathlib.Data.List.Nodup
import Mathlib.Logic.Relation

/-! # Numbered versions of which one is published -/

namespace Publication

universe u v

inductive Status
  | draft | published | superseded
  deriving DecidableEq

/-- A version and what is fixed when it is made. -/
structure Entry (ι : Type u) (γ : Type v) where
  id : ι
  number : ℕ
  status : Status
  content : γ

variable {ι : Type u} {γ : Type v}

def supersede (e : Entry ι γ) : Entry ι γ :=
  if e.status = .published then { e with status := .superseded } else e

section supersede

variable (e : Entry ι γ)

@[simp] theorem supersede_id : (supersede e).id = e.id := by
  unfold supersede
  split <;> rfl

@[simp] theorem supersede_number : (supersede e).number = e.number := by
  unfold supersede
  split <;> rfl

@[simp] theorem supersede_content : (supersede e).content = e.content := by
  unfold supersede
  split <;> rfl

theorem supersede_not_published : (supersede e).status ≠ .published := by
  unfold supersede
  split
  · simp
  · assumption

theorem supersede_draft : (supersede e).status = .draft ↔ e.status = .draft := by
  unfold supersede
  split
  · rename_i h
    simp [h]
  · rfl

end supersede

variable [DecidableEq ι]

/-- The version `id` becomes the published one. -/
def publishEntry (id : ι) (e : Entry ι γ) : Entry ι γ :=
  if e.id = id then { e with status := .published } else supersede e

@[simp] theorem publishEntry_id (id : ι) (e : Entry ι γ) : (publishEntry id e).id = e.id := by
  unfold publishEntry
  split
  · rfl
  · exact supersede_id e

@[simp] theorem publishEntry_number (id : ι) (e : Entry ι γ) :
    (publishEntry id e).number = e.number := by
  unfold publishEntry
  split
  · rfl
  · exact supersede_number e

@[simp] theorem publishEntry_content (id : ι) (e : Entry ι γ) :
    (publishEntry id e).content = e.content := by
  unfold publishEntry
  split
  · rfl
  · exact supersede_content e

theorem publishEntry_published (id : ι) (e : Entry ι γ) :
    (publishEntry id e).status = .published ↔ e.id = id := by
  unfold publishEntry
  split
  · rename_i h
    simp [h]
  · rename_i h
    exact iff_of_false (supersede_not_published e) h

/-- The three ways in which the versions change. What a rollback makes is a copy of its target. -/
inductive Change (copies : γ → γ → Prop) : List (Entry ι γ) → List (Entry ι γ) → Prop
  | draft {l : List (Entry ι γ)} (id : ι) (content : γ) (hid : id ∉ l.map Entry.id) :
    Change copies l (l ++ [⟨id, l.length + 1, .draft, content⟩])
  | publish {l : List (Entry ι γ)} (e : Entry ι γ) (he : e ∈ l) (hdraft : e.status = .draft) :
    Change copies l (l.map (publishEntry e.id))
  | rollback {l : List (Entry ι γ)} (id : ι) (hid : id ∉ l.map Entry.id) (e : Entry ι γ) (he : e ∈ l)
      (content : γ) (hcopy : copies e.content content) :
    Change copies l (l.map supersede ++ [⟨id, l.length + 1, .published, content⟩])

/-- Numbered from one on, with different identifiers, and published at most once. -/
structure Lawful (l : List (Entry ι γ)) : Prop where
  numbers : l.map Entry.number = List.range' 1 l.length
  ids : (l.map Entry.id).Nodup
  single : ∀ e ∈ l, ∀ f ∈ l, e.status = .published → f.status = .published → e = f

variable {copies : γ → γ → Prop} {l l' : List (Entry ι γ)} {e f : Entry ι γ}

omit [DecidableEq ι] in
theorem Lawful.nil : Lawful ([] : List (Entry ι γ)) := ⟨rfl, List.nodup_nil, by simp⟩

omit [DecidableEq ι] in
theorem Lawful.eq_of_id (h : Lawful l) (he : e ∈ l) (hf : f ∈ l) (hid : e.id = f.id) : e = f :=
  List.inj_on_of_nodup_map h.ids he hf hid

omit [DecidableEq ι] in
theorem map_concat_range (hnum : l.map Entry.number = List.range' 1 l.length) {e : Entry ι γ}
    (he : e.number = l.length + 1) :
    (l ++ [e]).map Entry.number = List.range' 1 (l ++ [e]).length := by
  rw [List.map_append, hnum, List.map_singleton, he, List.length_append, List.length_singleton,
    List.range'_concat, Nat.one_mul, Nat.add_comm 1]

omit [DecidableEq ι] in
theorem nodup_map_concat (hnodup : (l.map Entry.id).Nodup) {e : Entry ι γ}
    (he : e.id ∉ l.map Entry.id) : ((l ++ [e]).map Entry.id).Nodup := by
  rw [List.map_append, List.map_singleton]
  refine List.nodup_append.mpr ⟨hnodup, List.nodup_singleton _, ?_⟩
  intro a ha b hb
  obtain rfl := List.mem_singleton.mp hb
  exact fun hab ↦ he (hab ▸ ha)

/-- Every change keeps the laws. -/
theorem Change.lawful (h : Change copies l l') (hl : Lawful l) : Lawful l' := by
  cases h with
  | draft id content hid =>
    refine ⟨map_concat_range hl.numbers rfl, nodup_map_concat hl.ids hid, ?_⟩
    intro e he f hf hpe hpf
    rcases List.mem_append.mp he with he | he
    · rcases List.mem_append.mp hf with hf | hf
      · exact hl.single e he f hf hpe hpf
      · obtain rfl := List.mem_singleton.mp hf
        cases hpf
    · obtain rfl := List.mem_singleton.mp he
      cases hpe
  | publish e he hdraft =>
    have hnum : (l.map (publishEntry e.id)).map Entry.number = l.map Entry.number := by simp
    have hids : (l.map (publishEntry e.id)).map Entry.id = l.map Entry.id := by simp
    refine ⟨?_, hids ▸ hl.ids, ?_⟩
    · rw [hnum, List.length_map]
      exact hl.numbers
    · intro f hf g hg hpf hpg
      obtain ⟨f, hfl, rfl⟩ := List.mem_map.mp hf
      obtain ⟨g, hgl, rfl⟩ := List.mem_map.mp hg
      rw [publishEntry_published] at hpf hpg
      rw [hl.eq_of_id hfl hgl (hpf.trans hpg.symm)]
  | rollback id hid e he content hcopy =>
    have hnum : (l.map supersede).map Entry.number = l.map Entry.number := by simp
    have hids : (l.map supersede).map Entry.id = l.map Entry.id := by simp
    have hlen : (l.map supersede).length = l.length := List.length_map _
    have hold : ∀ f ∈ l.map supersede, f.status ≠ .published := by
      intro f hf
      obtain ⟨g, -, rfl⟩ := List.mem_map.mp hf
      exact supersede_not_published g
    refine ⟨map_concat_range ?_ ?_, nodup_map_concat ?_ ?_, ?_⟩
    · rw [hnum, hlen]
      exact hl.numbers
    · rw [hlen]
    · rw [hids]
      exact hl.ids
    · rw [hids]
      exact hid
    · intro f hf g hg hpf hpg
      rcases List.mem_append.mp hf with hf | hf
      · exact absurd hpf (hold f hf)
      · rcases List.mem_append.mp hg with hg | hg
        · exact absurd hpg (hold g hg)
        · rw [List.mem_singleton.mp hf, List.mem_singleton.mp hg]

/-- `f` is what has become of `e`: the same content, and never a draft again. -/
structure Follows (e f : Entry ι γ) : Prop where
  id : f.id = e.id
  number : f.number = e.number
  content : f.content = e.content
  left : e.status ≠ .draft → f.status ≠ .draft

omit [DecidableEq ι] in
theorem Follows.refl (e : Entry ι γ) : Follows e e := ⟨rfl, rfl, rfl, fun h ↦ h⟩

omit [DecidableEq ι] in
theorem Follows.trans {g : Entry ι γ} (h : Follows e f) (h' : Follows f g) : Follows e g where
  id := h'.id.trans h.id
  number := h'.number.trans h.number
  content := h'.content.trans h.content
  left := fun hd ↦ h'.left (h.left hd)

omit [DecidableEq ι] in
theorem follows_supersede (e : Entry ι γ) : Follows e (supersede e) where
  id := supersede_id e
  number := supersede_number e
  content := supersede_content e
  left := fun h ↦ fun hd ↦ h ((supersede_draft e).mp hd)

theorem follows_publishEntry (id : ι) (e : Entry ι γ) : Follows e (publishEntry id e) where
  id := publishEntry_id id e
  number := publishEntry_number id e
  content := publishEntry_content id e
  left := by
    intro h
    unfold publishEntry
    split
    · simp
    · exact fun hd ↦ h ((supersede_draft e).mp hd)

theorem Change.follows (h : Change copies l l') (he : e ∈ l) : ∃ f ∈ l', Follows e f := by
  cases h with
  | draft id content hid => exact ⟨e, List.mem_append_left _ he, .refl e⟩
  | publish d hd hdraft => exact ⟨_, List.mem_map_of_mem he, follows_publishEntry d.id e⟩
  | rollback id hid d hd content hcopy =>
    exact ⟨_, List.mem_append_left _ (List.mem_map_of_mem he), follows_supersede e⟩

/-- What is superseded was no draft before. -/
theorem Change.superseded (h : Change copies l l') (hf : f ∈ l') (hs : f.status = .superseded) :
    ∃ e ∈ l, e.id = f.id ∧ e.status ≠ .draft := by
  have hsupersede : ∀ e : Entry ι γ, (supersede e).status = .superseded → e.status ≠ .draft := by
    intro e he hd
    rw [(supersede_draft e).mpr hd] at he
    cases he
  cases h with
  | draft id content hid =>
    rcases List.mem_append.mp hf with hf | hf
    · exact ⟨f, hf, rfl, by rw [hs]; simp⟩
    · rw [List.mem_singleton.mp hf] at hs
      cases hs
  | publish d hd hdraft =>
    obtain ⟨e, he, rfl⟩ := List.mem_map.mp hf
    refine ⟨e, he, (publishEntry_id d.id e).symm, hsupersede e ?_⟩
    unfold publishEntry at hs
    split at hs
    · cases hs
    · exact hs
  | rollback id hid d hd content hcopy =>
    rcases List.mem_append.mp hf with hf | hf
    · obtain ⟨e, he, rfl⟩ := List.mem_map.mp hf
      exact ⟨e, he, (supersede_id e).symm, hsupersede e hs⟩
    · rw [List.mem_singleton.mp hf] at hs
      cases hs

theorem Change.length_le (h : Change copies l l') : l.length ≤ l'.length := by
  cases h with
  | draft id content hid => simp
  | publish d hd hdraft => simp
  | rollback id hid d hd content hcopy => simp

theorem Change.live (h : Change copies l l') (hl : ∃ e ∈ l, e.status = .published) :
    ∃ e ∈ l', e.status = .published := by
  cases h with
  | draft id content hid =>
    obtain ⟨e, he, hp⟩ := hl
    exact ⟨e, List.mem_append_left _ he, hp⟩
  | publish d hd hdraft =>
    exact ⟨_, List.mem_map_of_mem hd, (publishEntry_published d.id d).mpr rfl⟩
  | rollback id hid d hd content hcopy => exact ⟨_, List.mem_concat_self, rfl⟩

def History (copies : γ → γ → Prop) (l l' : List (Entry ι γ)) : Prop :=
  Relation.ReflTransGen (Change copies) l l'

theorem History.lawful (h : History copies l l') (hl : Lawful l) : Lawful l' := by
  induction h with
  | refl => exact hl
  | tail _ hstep ih => exact hstep.lawful ih

theorem History.follows (h : History copies l l') (he : e ∈ l) : ∃ f ∈ l', Follows e f := by
  induction h with
  | refl => exact ⟨e, he, .refl e⟩
  | tail _ hstep ih =>
    obtain ⟨f, hf, hef⟩ := ih
    obtain ⟨g, hg, hfg⟩ := hstep.follows hf
    exact ⟨g, hg, hef.trans hfg⟩

theorem History.length_le (h : History copies l l') : l.length ≤ l'.length := by
  induction h with
  | refl => exact Nat.le_refl _
  | tail _ hstep ih => exact ih.trans hstep.length_le

theorem History.live (h : History copies l l') (hl : ∃ e ∈ l, e.status = .published) :
    ∃ e ∈ l', e.status = .published := by
  induction h with
  | refl => exact hl
  | tail _ hstep ih => exact hstep.live ih

end Publication
