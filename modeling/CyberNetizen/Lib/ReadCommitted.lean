import Mathlib.Logic.Function.Basic
import CyberNetizen.Lib.Machine
import CyberNetizen.Lib.Overlay

/-! # Read-committed transactions with row locks and unique indexes

A transaction sees what is committed when its statement begins, with its own writes; it holds the
rows that it has locked or changed until it ends; and it waits where another one holds what it
needs. -/

namespace ReadCommitted

open KeyedTable Overlay

universe u v w x y z

variable {ρ : Type u} {κ : Type v} {ν : Type w} {ε β : Type x} {ι : Type y} {τ : Type z}

/-- An `UPDATE` that leaves the primary key alone and enters no new key into a unique index. -/
structure Shrink (key : ρ → κ) (unique : ρ → List ν) extends Update key where
  keys_subset : ∀ r, unique (toFun r) ⊆ unique r

/-- What a transaction has left to do. -/
inductive Body (key : ρ → κ) (unique : ρ → List ν) (ε β : Type x)
  | done (result : β)
  | fail (error : ε)
  /-- A query without locks. -/
  | select (next : List ρ → Body key unique ε β)
  /-- `SELECT … WHERE key = k AND p FOR UPDATE`. -/
  | lock (k : κ) (p : ρ → Bool) (next : Option ρ → Body key unique ε β)
  /-- `UPDATE … WHERE p`, before it has looked for its rows. -/
  | update (p : ρ → Bool) (f : Shrink key unique) (next : Body key unique ε β)
  /-- The rows that an `UPDATE` has found and not yet changed. -/
  | updating (ks : List κ) (p : ρ → Bool) (f : Shrink key unique) (next : Body key unique ε β)
  /-- The flush of a new row, or of a changed one that the transaction has locked. -/
  | write (isNew : Bool) (r : ρ) (error : ε) (next : Body key unique ε β)

variable {key : ρ → κ} {unique : ρ → List ν}

structure Local (key : ρ → κ) where
  held : List ρ
  writes : Table key

def Local.empty : Local key := ⟨[], .empty⟩

section view

variable [DecidableEq κ]

def view (db : Table key) (l : Local key) : Table key := l.writes.rows.foldl Table.put db

def Local.hold (l : Local key) (db : Table key) (k : κ) : Local key :=
  if k ∈ l.held.map key then l else { l with held := l.held ++ (db.find? k).toList }

def Local.write (l : Local key) (r : ρ) : Local key := { l with writes := l.writes.put r }

theorem find?_view (db : Table key) (l : Local key) :
    (view db l).find? = overlaid l.writes.find? db.find? := by
  unfold view
  rw [find?_putAll, lookup_rows]

theorem find?_view_write (db : Table key) (l : Local key) (r : ρ) (k : κ) :
    (view db (l.write r)).find? k = if k = key r then some r else (view db l).find? k := by
  rw [find?_view, find?_view]
  unfold overlaid Local.write
  dsimp only
  rw [Table.find?_put]
  split
  · rfl
  · rfl

/-- A row of the view is written, or committed and not written over. -/
theorem mem_view {db : Table key} {l : Local key} {r : ρ} :
    r ∈ view db l ↔ r ∈ l.writes ∨ l.writes.find? (key r) = none ∧ r ∈ db := by
  have hiff : r ∈ view db l ↔ (view db l).find? (key r) = some r :=
    ⟨Table.find?_key, Table.mem_of_find?⟩
  rw [hiff, find?_view]
  cases h : l.writes.find? (key r) with
  | some s =>
    rw [overlaid_of_some h, Option.some.injEq]
    constructor
    · rintro rfl
      exact .inl (Table.mem_of_find? h)
    · rintro (hr | ⟨hn, -⟩)
      · rw [Table.find?_key hr] at h
        exact (Option.some.inj h).symm
      · cases hn
  | none =>
    rw [overlaid_of_none h]
    constructor
    · exact fun hr ↦ .inr ⟨rfl, Table.mem_of_find? hr⟩
    · rintro (hr | ⟨-, hr⟩)
      · rw [Table.find?_key hr] at h
        cases h
      · exact Table.find?_key hr

theorem mem_view_write {db : Table key} {l : Local key} {r s : ρ} :
    s ∈ view db (l.write r) ↔ s = r ∨ key s ≠ key r ∧ s ∈ view db l := by
  have hiff : s ∈ view db (l.write r) ↔ (view db (l.write r)).find? (key s) = some s :=
    ⟨Table.find?_key, Table.mem_of_find?⟩
  rw [hiff, find?_view_write]
  split
  · rename_i hk
    rw [Option.some.injEq]
    constructor
    · exact fun h ↦ .inl h.symm
    · rintro (rfl | ⟨hne, -⟩)
      · rfl
      · exact absurd hk hne
  · rename_i hk
    constructor
    · exact fun h ↦ .inr ⟨hk, Table.mem_of_find? h⟩
    · rintro (rfl | ⟨-, hs⟩)
      · exact absurd rfl hk
      · exact Table.find?_key hs

theorem view_hold (db db' : Table key) (l : Local key) (k : κ) :
    view db (l.hold db' k) = view db l := by
  unfold Local.hold
  split <;> rfl

theorem writes_hold (db : Table key) (l : Local key) (k : κ) : (l.hold db k).writes = l.writes := by
  unfold Local.hold
  split <;> rfl

theorem mem_hold {db : Table key} {l : Local key} {k : κ} {r : ρ} :
    r ∈ (l.hold db k).held ↔ r ∈ l.held ∨ k ∉ l.held.map key ∧ db.find? k = some r := by
  unfold Local.hold
  split
  · rename_i hk
    exact ⟨.inl, fun h ↦ h.elim (fun h ↦ h) fun h ↦ absurd hk h.1⟩
  · rename_i hk
    rw [List.mem_append, Option.mem_toList]
    exact ⟨fun h ↦ h.imp_right fun h ↦ ⟨hk, h⟩, fun h ↦ h.imp_right And.right⟩

end view

def Uniq (unique : ρ → List ν) (db : Table key) : Prop :=
  ∀ r ∈ db, ∀ s ∈ db, key r ≠ key s → List.Disjoint (unique r) (unique s)

/-- A client's transaction. -/
structure Txn (key : ρ → κ) (unique : ρ → List ν) (ε β : Type x) (ι : Type y) (τ : Type z) where
  client : ι
  request : τ
  data : Local key
  body : Body key unique ε β

structure World (key : ρ → κ) (unique : ρ → List ν) (ε β : Type x) (ι : Type y) (τ : Type z) where
  committed : Table key
  txns : Table (Txn.client : Txn key unique ε β ι τ → ι)

/-- What happens next: a client begins a transaction, goes on with the one it has (which may mean
that it waits), or loses it. -/
inductive Action (ι : Type y) (τ : Type z)
  | begin (client : ι) (request : τ)
  | advance (client : ι)
  | abort (client : ι)

/-- What becomes of a transaction that takes its next step: it waits, goes on, or ends. -/
inductive Outcome (key : ρ → κ) (unique : ρ → List ν) (ε β : Type x)
  | waits
  | goes (data : Local key) (body : Body key unique ε β)
  | commits (result : β)
  | fails (error : ε)

section step

variable [DecidableEq κ] [DecidableEq ν] [DecidableEq ι]

def overlaps (xs ys : List ν) : Bool := xs.any fun x ↦ decide (x ∈ ys)

def others (w : World key unique ε β ι τ) (client : ι) : List (Txn key unique ε β ι τ) :=
  w.txns.rows.filter fun t ↦ t.client ≠ client

def heldByOther (w : World key unique ε β ι τ) (client : ι) (k : κ) : Bool :=
  (others w client).any fun t ↦ decide (k ∈ t.data.held.map key) || (t.data.writes.find? k).isSome

def pendingInOther (w : World key unique ε β ι τ) (client : ι) (r : ρ) : Bool :=
  (others w client).any fun t ↦ t.data.writes.rows.any fun s ↦ overlaps (unique r) (unique s)

def clashing (db : Table key) (unique : ρ → List ν) (l : Local key) (r : ρ) : List ρ :=
  (view db l).rows.filter fun s ↦ decide (key s ≠ key r) && overlaps (unique r) (unique s)

def admits (db : Table key) (l : Local key) (isNew : Bool) (k : κ) : Bool :=
  if isNew then ((view db l).find? k).isNone else decide (k ∈ l.held.map key)

/-- A unique index makes the writer wait for a transaction that has written a row with the same key
or holds the row with that key. -/
def mustWait (w : World key unique ε β ι τ) (t : Txn key unique ε β ι τ) (r : ρ) : Bool :=
  heldByOther w t.client (key r) || pendingInOther w t.client r ||
    (clashing w.committed unique t.data r).any fun s ↦ heldByOther w t.client (key s)

/-- The next step of a transaction. -/
def advance (w : World key unique ε β ι τ) (t : Txn key unique ε β ι τ) :
    Outcome key unique ε β :=
  match t.body with
  | .done result => .commits result
  | .fail error => .fails error
  | .select next => .goes t.data (next (view w.committed t.data).rows)
  | .lock k p next =>
    if heldByOther w t.client k then .waits
    else
      match (view w.committed t.data).find? k with
      | none => .goes t.data (next none)
      | some r =>
        if p r then .goes (t.data.hold w.committed k) (next (some r)) else .goes t.data (next none)
  | .update p f next =>
    .goes t.data (.updating (((view w.committed t.data).rows.filter p).map key) p f next)
  | .updating [] _ _ next => .goes t.data next
  | .updating (k :: ks) p f next =>
    if heldByOther w t.client k then .waits
    else
      match (view w.committed t.data).find? k with
      | none => .goes t.data (.updating ks p f next)
      | some r =>
        if p r then
          .goes ((t.data.hold w.committed k).write (f.toUpdate r)) (.updating ks p f next)
        else .goes t.data (.updating ks p f next)
  | .write isNew r error next =>
    if mustWait w t r then .waits
    else if admits w.committed t.data isNew (key r) &&
        (clashing w.committed unique t.data r).isEmpty then
      .goes (t.data.write r) next
    else .fails error

variable (program : τ → Body key unique ε β)

/-- One action. A transaction that has ended is shown with its result. -/
def step (w : World key unique ε β ι τ) :
    Action ι τ → Option (τ × Except ε β) × World key unique ε β ι τ
  | .begin client request =>
    match w.txns.find? client with
    | some _ => (none, w)
    | none => (none, { w with txns := w.txns.put ⟨client, request, .empty, program request⟩ })
  | .advance client =>
    match w.txns.find? client with
    | none => (none, w)
    | some t =>
      match advance w t with
      | .waits => (none, w)
      | .goes data body => (none, { w with txns := w.txns.put { t with data, body } })
      | .commits result =>
        (some (t.request, .ok result),
          ⟨view w.committed t.data, w.txns.deleteWhere fun t ↦ t.client = client⟩)
      | .fails error =>
        (some (t.request, .error error),
          { w with txns := w.txns.deleteWhere fun t ↦ t.client = client })
  | .abort client => (none, { w with txns := w.txns.deleteWhere fun t ↦ t.client = client })

end step

end ReadCommitted
