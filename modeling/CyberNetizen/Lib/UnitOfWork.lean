import Mathlib.Data.List.Basic

namespace UnitOfWork

universe u v w

/-- A row that a session has been given or has changed: the mapper of its table, and the statement
that writes it, which fails where a constraint refuses the row. -/
structure Pending (μ : Type u) (σ : Type v) where
  mapper : μ
  write : σ → Option σ

variable {μ : Type u} {σ : Type v}

def writeAll : List (Pending μ σ) → σ → Option σ
  | [], s => some s
  | row :: rows, s => (row.write s).bind (writeAll rows)

variable [DecidableEq μ]

def rowsOf (m : μ) (rows : List (Pending μ σ)) : List (Pending μ σ) :=
  rows.filter fun row ↦ row.mapper = m

/-- A flush goes through the mappers in a fixed order, whatever the order in which the rows were
added, and through the rows of one mapper as they were added. -/
def flush (mappers : List μ) (rows : List (Pending μ σ)) (s : σ) : Option σ :=
  writeAll (mappers.flatMap fun m ↦ rowsOf m rows) s

section writeAll

omit [DecidableEq μ]

variable {rows rows' : List (Pending μ σ)} {s s' : σ}

theorem writeAll_append : writeAll (rows ++ rows') s = (writeAll rows s).bind (writeAll rows') := by
  induction rows generalizing s with
  | nil => rfl
  | cons row rows ih =>
    simp only [List.cons_append, writeAll, Option.bind_assoc]
    exact congrArg _ (funext fun t ↦ ih)

theorem writeAll_invariant {I : σ → Prop}
    (hkeep : ∀ row ∈ rows, ∀ s s', I s → row.write s = some s' → I s') (hs : I s)
    (h : writeAll rows s = some s') : I s' := by
  induction rows generalizing s with
  | nil =>
    obtain rfl := Option.some.inj h
    exact hs
  | cons row rows ih =>
    obtain ⟨t, hrow, hrest⟩ := Option.bind_eq_some_iff.mp h
    have ht := hkeep row List.mem_cons_self s t hs hrow
    exact ih (fun r hr ↦ hkeep r (List.mem_cons_of_mem _ hr)) ht hrest

end writeAll

section flush

variable {mappers : List μ} {m : μ} {rows : List (Pending μ σ)} {s s' : σ}

theorem mem_rowsOf {row : Pending μ σ} : row ∈ rowsOf m rows ↔ row ∈ rows ∧ row.mapper = m := by
  unfold rowsOf
  rw [List.mem_filter, decide_eq_true_eq]

theorem flush_cons :
    flush (m :: mappers) rows s = (writeAll (rowsOf m rows) s).bind (flush mappers rows) := by
  unfold flush
  rw [List.flatMap_cons, writeAll_append]

theorem flush_append (before after : List μ) :
    flush (before ++ after) rows s = (flush before rows s).bind (flush after rows) := by
  unfold flush
  rw [List.flatMap_append, writeAll_append]

theorem flush_invariant {I : σ → Prop}
    (hkeep : ∀ row ∈ rows, row.mapper ∈ mappers → ∀ s s', I s → row.write s = some s' → I s')
    (hs : I s) (h : flush mappers rows s = some s') : I s' := by
  refine writeAll_invariant (fun row hrow ↦ ?_) hs h
  obtain ⟨m, hm, hmem⟩ := List.mem_flatMap.mp hrow
  obtain ⟨hrows, rfl⟩ := mem_rowsOf.mp hmem
  exact hkeep row hrows hm

/-- A row fails the flush if it is refused wherever the row it needs is missing, and no row that is
written before it, of an earlier mapper or of its own, supplies that row. -/
theorem flush_refused (before after : List μ) (row : Pending μ σ) (I : σ → Prop) (hrow : row ∈ rows)
    (hkeep : ∀ r ∈ rows, r.mapper ∈ before ++ [row.mapper] →
      ∀ s s', I s → r.write s = some s' → I s')
    (hrefused : ∀ s, I s → row.write s = none) (hs : I s) :
    flush (before ++ row.mapper :: after) rows s = none := by
  rw [flush_append]
  cases hbefore : flush before rows s with
  | none => rfl
  | some t =>
    have ht : I t := flush_invariant (fun r hr hm ↦ hkeep r hr (List.mem_append_left _ hm)) hs hbefore
    rw [Option.bind_some, flush_cons]
    obtain ⟨first, last, hsplit⟩ := List.append_of_mem (mem_rowsOf.mpr ⟨hrow, rfl⟩)
    rw [hsplit, writeAll_append]
    cases hfirst : writeAll first t with
    | none => rfl
    | some u =>
      have hu : I u := by
        refine writeAll_invariant (fun r hr ↦ ?_) ht hfirst
        have hmem : r ∈ rowsOf row.mapper rows := hsplit ▸ List.mem_append_left _ hr
        obtain ⟨hr', hm⟩ := mem_rowsOf.mp hmem
        exact hkeep r hr' (List.mem_append_right _ (List.mem_singleton.mpr hm))
      rw [Option.bind_some, writeAll, hrefused u hu]
      rfl

end flush

end UnitOfWork
