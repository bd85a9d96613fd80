import Mathlib.Data.List.ReduceOption
import CyberNetizen.Lib.Machine

/-! # Transactions that take one exclusive lock in their first statement -/

namespace Exclusive

universe u v w x y

variable {σ : Type u} {ε : Type v} {β : Type w} {ι : Type x} {τ : Type y}

/-- What a transaction has left to do. A statement sees the tables with the transaction's own
writes, changes them, and decides from what it has seen how to go on. -/
inductive Body (σ : Type u) (ε : Type v) (β : Type w)
  | done (result : β)
  | fail (error : ε)
  | statement (write : σ → σ) (next : σ → Body σ ε β)

namespace Body

def select (read : σ → β) {γ : Type w} (next : β → Body σ ε γ) : Body σ ε γ :=
  .statement id fun s ↦ next (read s)

def execute (write : σ → σ) (next : Body σ ε β) : Body σ ε β :=
  .statement write fun _ ↦ next

def flush (error : ε) (write : σ → Option σ) (next : Body σ ε β) : Body σ ε β :=
  .statement (fun s ↦ (write s).getD s) fun s ↦ if (write s).isSome then next else .fail error

def exec : Body σ ε β → σ → Except ε (β × σ)
  | .done result, s => .ok (result, s)
  | .fail error, _ => .error error
  | .statement write next, s => (next s).exec (write s)

theorem exec_select {γ : Type w} (read : σ → β) (next : β → Body σ ε γ) (s : σ) :
    (select read next).exec s = (next (read s)).exec s := rfl

theorem exec_execute (write : σ → σ) (next : Body σ ε β) (s : σ) :
    (execute write next).exec s = next.exec (write s) := rfl

theorem exec_flush (error : ε) (write : σ → Option σ) (next : Body σ ε β) (s : σ) :
    (flush error write next).exec s =
      match write s with
      | none => .error error
      | some t => next.exec t := by
  cases h : write s with
  | none => simp [flush, exec, h]
  | some t => simp [flush, exec, h]

end Body

/-- The transaction that holds the lock, and the tables as it sees them. -/
structure Holder (σ : Type u) (ε : Type v) (β : Type w) (ι : Type x) (τ : Type y) where
  client : ι
  request : τ
  working : σ
  body : Body σ ε β

structure World (σ : Type u) (ε : Type v) (β : Type w) (ι : Type x) (τ : Type y) where
  committed : σ
  holder : Option (Holder σ ε β ι τ)

/-- What a client may do next: begin a transaction, whose first statement waits for the lock, run
one more statement, commit (or give up after an error), or lose its connection. -/
inductive Action (ι : Type x) (τ : Type y)
  | begin (client : ι) (request : τ)
  | statement (client : ι)
  | finish (client : ι)
  | abort (client : ι)

def Action.request? : Action ι τ → Option τ
  | .begin _ request => some request
  | _ => none

def World.pending (w : World σ ε β ι τ) : List τ := (w.holder.map Holder.request).toList

variable (program : τ → Body σ ε β)

section step

variable [DecidableEq ι]

/-- One action. A transaction that has ended is shown with its result. -/
def step (w : World σ ε β ι τ) : Action ι τ → Option (τ × Except ε β) × World σ ε β ι τ
  | .begin client request =>
    match w.holder with
    | some _ => (none, w)
    | none => (none, { w with holder := some ⟨client, request, w.committed, program request⟩ })
  | .statement client =>
    match w.holder with
    | none => (none, w)
    | some h =>
      if h.client = client then
        match h.body with
        | .statement write next =>
          (none, { w with holder := some { h with working := write h.working, body := next h.working } })
        | _ => (none, w)
      else (none, w)
  | .finish client =>
    match w.holder with
    | none => (none, w)
    | some h =>
      if h.client = client then
        match h.body with
        | .done result => (some (h.request, .ok result), ⟨h.working, none⟩)
        | .fail error => (some (h.request, .error error), ⟨w.committed, none⟩)
        | .statement _ _ => (none, w)
      else (none, w)
  | .abort client =>
    match w.holder with
    | none => (none, w)
    | some h => if h.client = client then (none, ⟨w.committed, none⟩) else (none, w)

end step

/-- The transaction as one step; an error leaves no trace. -/
def serial (s : σ) (request : τ) : Except ε β × σ :=
  match (program request).exec s with
  | .ok (result, t) => (.ok result, t)
  | .error error => (.error error, s)

/-- What the holder sees and has left to do leads to what its whole transaction does to the
committed tables. -/
def Synced (w : World σ ε β ι τ) : Prop :=
  ∀ h, w.holder = some h → h.body.exec h.working = (program h.request).exec w.committed

/-- What one action does to the committed tables: nothing, or the whole transaction that it ends. -/
def Serializes (w : World σ ε β ι τ) (out : Option (τ × Except ε β)) (w' : World σ ε β ι τ) : Prop :=
  (out = none ∧ w'.committed = w.committed) ∨
    ∃ request, out = some (request, (serial program w.committed request).1) ∧
      w'.committed = (serial program w.committed request).2

variable {program} {w : World σ ε β ι τ}

theorem synced_start (s : σ) : Synced program (⟨s, none⟩ : World σ ε β ι τ) :=
  fun _ h ↦ nomatch h

variable [DecidableEq ι]

theorem step_spec (h : Synced program w) (a : Action ι τ) :
    Synced program (step program w a).2 ∧
      Serializes program w (step program w a).1 (step program w a).2 := by
  have stay : Synced program w ∧ Serializes program w none w := ⟨h, .inl ⟨rfl, rfl⟩⟩
  cases a with
  | begin client request =>
    unfold step
    cases hw : w.holder with
    | some holder => exact stay
    | none =>
      refine ⟨?_, .inl ⟨rfl, rfl⟩⟩
      intro holder hholder
      obtain rfl := Option.some.inj hholder
      rfl
  | statement client =>
    unfold step
    cases hw : w.holder with
    | none => exact stay
    | some holder =>
      dsimp only
      by_cases hc : holder.client = client
      · rw [if_pos hc]
        cases hb : holder.body with
        | done result => exact stay
        | fail error => exact stay
        | statement write next =>
          refine ⟨?_, .inl ⟨rfl, rfl⟩⟩
          intro holder' hholder
          obtain rfl := Option.some.inj hholder
          have hs := h holder hw
          rw [hb] at hs
          exact hs
      · rw [if_neg hc]
        exact stay
  | finish client =>
    unfold step
    cases hw : w.holder with
    | none => exact stay
    | some holder =>
      dsimp only
      by_cases hc : holder.client = client
      · rw [if_pos hc]
        have hs := h holder hw
        cases hb : holder.body with
        | done result =>
          rw [hb] at hs
          refine ⟨fun _ hn ↦ (nomatch hn), .inr ⟨holder.request, ?_⟩⟩
          unfold serial
          rw [← hs]
          exact ⟨rfl, rfl⟩
        | fail error =>
          rw [hb] at hs
          refine ⟨fun _ hn ↦ (nomatch hn), .inr ⟨holder.request, ?_⟩⟩
          unfold serial
          rw [← hs]
          exact ⟨rfl, rfl⟩
        | statement write next => exact stay
      · rw [if_neg hc]
        exact stay
  | abort client =>
    unfold step
    cases hw : w.holder with
    | none => exact stay
    | some holder =>
      dsimp only
      by_cases hc : holder.client = client
      · rw [if_pos hc]
        exact ⟨fun _ hn ↦ (nomatch hn), .inl ⟨rfl, rfl⟩⟩
      · rw [if_neg hc]
        exact stay

def ended (program : τ → Body σ ε β) (w : World σ ε β ι τ) (as : List (Action ι τ)) :
    List (τ × Except ε β) :=
  (Machine.outputs (step program) w as).reduceOption

theorem ended_cons (a : Action ι τ) (as : List (Action ι τ)) :
    ended program w (a :: as) =
      (step program w a).1.toList ++ ended program (step program w a).2 as := by
  unfold ended
  rw [Machine.outputs]
  cases (step program w a).1 <;> rfl

/-- Whatever the interleaving, the ended transactions have done and answered what they do and answer
one after the other. -/
theorem run_serial (h : Synced program w) (as : List (Action ι τ)) :
    (Machine.run (step program) w as).committed =
        Machine.run (serial program) w.committed ((ended program w as).map Prod.fst) ∧
      (ended program w as).map Prod.snd =
        Machine.outputs (serial program) w.committed ((ended program w as).map Prod.fst) := by
  induction as generalizing w with
  | nil => exact ⟨rfl, rfl⟩
  | cons a as ih =>
    obtain ⟨hsync, hstep⟩ := step_spec h a
    obtain ⟨hrun, hout⟩ := ih hsync
    rw [ended_cons]
    rcases hstep with ⟨hnone, hsame⟩ | ⟨request, hsome, hnew⟩
    · rw [hnone, Machine.run]
      rw [hsame] at hrun hout
      exact ⟨hrun, hout⟩
    · rw [hsome, Machine.run]
      rw [hnew] at hrun hout
      refine ⟨hrun, ?_⟩
      simp only [Option.toList_some, List.cons_append, List.nil_append, List.map_cons,
        Machine.outputs, hout]

/-- A transaction that ends was pending, and one that is pending was begun. -/
theorem step_sublist (a : Action ι τ) :
    ((step program w a).1.toList.map Prod.fst ++ (step program w a).2.pending).Sublist
      (w.pending ++ a.request?.toList) := by
  have stay : (([] : List τ) ++ w.pending).Sublist (w.pending ++ a.request?.toList) :=
    List.sublist_append_left _ _
  have drop : (([] : List τ) ++ []).Sublist (w.pending ++ a.request?.toList) := List.nil_sublist _
  unfold step
  cases a with
  | begin client request =>
    cases hw : w.holder with
    | some holder => exact stay
    | none => exact List.sublist_append_right _ _
  | statement client =>
    cases hw : w.holder with
    | none => exact stay
    | some holder =>
      dsimp only
      by_cases hc : holder.client = client
      · rw [if_pos hc]
        cases hb : holder.body with
        | done result => exact stay
        | fail error => exact stay
        | statement write next =>
          unfold World.pending
          rw [hw]
          exact List.Sublist.refl _
      · rw [if_neg hc]
        exact stay
  | finish client =>
    cases hw : w.holder with
    | none => exact stay
    | some holder =>
      dsimp only
      have hpending : w.pending = [holder.request] := by
        unfold World.pending
        rw [hw]
        rfl
      by_cases hc : holder.client = client
      · rw [if_pos hc, hpending]
        cases hb : holder.body with
        | done result => exact List.Sublist.refl _
        | fail error => exact List.Sublist.refl _
        | statement write next =>
          simp [hpending]
      · rw [if_neg hc]
        exact stay
  | abort client =>
    cases hw : w.holder with
    | none => exact stay
    | some holder =>
      dsimp only
      by_cases hc : holder.client = client
      · rw [if_pos hc]
        exact drop
      · rw [if_neg hc]
        exact stay

theorem ended_sublist (as : List (Action ι τ)) :
    ((ended program w as).map Prod.fst).Sublist (w.pending ++ as.filterMap Action.request?) := by
  induction as generalizing w with
  | nil => exact List.nil_sublist _
  | cons a as ih =>
    have hcons : (a :: as).filterMap Action.request? =
        a.request?.toList ++ as.filterMap Action.request? := by
      rw [List.filterMap_cons]
      cases a.request? <;> rfl
    rw [ended_cons, List.map_append, hcons, ← List.append_assoc]
    refine (List.Sublist.append_left ih _).trans ?_
    rw [← List.append_assoc]
    exact List.Sublist.append_right (step_sublist a) _

end Exclusive
