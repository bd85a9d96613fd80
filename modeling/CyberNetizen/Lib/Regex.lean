import Mathlib.Data.List.Infix

/-! # Backtracking patterns, by the list of their successes -/

namespace Regex

/-- A place in a text, with what the groups have taken so far. -/
structure Cursor where
  /-- What has been read, its last character first. -/
  before : List Char
  after : List Char
  groups : List (ℕ × List Char) := []
  deriving DecidableEq

inductive Pattern
  | char (p : Char → Bool)
  /-- A test of the characters on both sides, which reads nothing. -/
  | look (p : Option Char → Option Char → Bool)
  | seq (a b : Pattern)
  | alt (a b : Pattern)
  /-- At least `least` and at most `most` times, the most (or the fewest) times first. -/
  | repeat (greedy : Bool) (least : ℕ) (most : Option ℕ) (a : Pattern)
  | group (n : ℕ) (a : Pattern)
  | back (n : ℕ)

def between (c d : Cursor) : List Char := (d.before.take (d.before.length - c.before.length)).reverse

/-- The places reached by a part that has to be taken `n` times. -/
def required (body : Cursor → List Cursor) : ℕ → Cursor → List Cursor
  | 0, c => [c]
  | n + 1, c => (body c).flatMap (required body n)

/-- The places reached by a part that may be taken up to `n` times, and reads something each time. -/
def optional (greedy : Bool) (body : Cursor → List Cursor) : ℕ → Cursor → List Cursor
  | 0, c => [c]
  | n + 1, c =>
    let more := ((body c).filter fun d ↦ d.after.length < c.after.length).flatMap
      (optional greedy body n)
    if greedy then more ++ [c] else c :: more

/-- The places at which a match from here can end, the preferred one first. -/
def results : Pattern → Cursor → List Cursor
  | .char p, c =>
    match c.after with
    | [] => []
    | x :: rest => if p x then [⟨x :: c.before, rest, c.groups⟩] else []
  | .look p, c => if p c.before.head? c.after.head? then [c] else []
  | .seq a b, c => (results a c).flatMap (results b)
  | .alt a b, c => results a c ++ results b c
  | .repeat greedy least most a, c =>
    (required (results a) least c).flatMap
      (optional greedy (results a) ((most.map (· - least)).getD c.after.length))
  | .group n a, c => (results a c).map fun d ↦ { d with groups := (n, between c d) :: d.groups }
  | .back n, c =>
    match c.groups.lookup n with
    | none => []
    | some taken =>
      if taken.isPrefixOf c.after then
        [⟨taken.reverse ++ c.before, c.after.drop taken.length, c.groups⟩]
      else []

def match? (r : Pattern) (before after : List Char) : Option Cursor :=
  (results r ⟨before, after, []⟩).head?

def searchFrom (r : Pattern) : List Char → List Char → Bool
  | before, [] => (match? r before []).isSome
  | before, x :: rest => (match? r before (x :: rest)).isSome || searchFrom r (x :: before) rest

def search (r : Pattern) (text : List Char) : Bool := searchFrom r [] text

/-- The text with each match replaced. A match that reads nothing is passed over. -/
def subFrom (r : Pattern) (replace : Cursor → List Char) :
    ℕ → List Char → List Char → List Char
  | _, _, [] => []
  | 0, _, after => after
  | fuel + 1, before, x :: rest =>
    match match? r before (x :: rest) with
    | some d =>
      if d.after.length ≤ rest.length then replace d ++ subFrom r replace fuel d.before d.after
      else x :: subFrom r replace fuel (x :: before) rest
    | none => x :: subFrom r replace fuel (x :: before) rest

def sub (r : Pattern) (replace : Cursor → List Char) (text : List Char) : List Char :=
  subFrom r replace text.length [] text

theorem searchFrom_mono {r r' : Pattern}
    (h : ∀ before after, (match? r before after).isSome = true →
      (match? r' before after).isSome = true) {before after : List Char}
    (hr : searchFrom r before after = true) : searchFrom r' before after = true := by
  induction after generalizing before with
  | nil => exact h before [] hr
  | cons x rest ih =>
    unfold searchFrom at hr ⊢
    rw [Bool.or_eq_true] at hr ⊢
    exact hr.imp (h before (x :: rest)) ih

theorem search_of_seq {a b : Pattern} {text : List Char} (h : search (.seq a b) text = true) :
    search a text = true := by
  refine searchFrom_mono (fun before after hmatch ↦ ?_) h
  unfold match? at hmatch ⊢
  rw [List.isSome_head?, results] at hmatch
  rw [List.isSome_head?]
  intro hnil
  rw [hnil] at hmatch
  exact hmatch rfl

structure Rule where
  pattern : Pattern
  replace : Cursor → List Char

def subAll (rules : List Rule) (text : List Char) : List Char :=
  rules.foldl (fun text rule ↦ sub rule.pattern rule.replace text) text

def replaces : List Rule → List Char → Bool
  | [], _ => false
  | rule :: rules, text =>
    search rule.pattern text || replaces rules (sub rule.pattern rule.replace text)

def taken (n : ℕ) (d : Cursor) : List Char := (d.groups.lookup n).getD []

section builders

def chars (s : String) : Pattern :=
  match s.toList with
  | [] => .look fun _ _ ↦ true
  | x :: rest => rest.foldl (fun r y ↦ .seq r (.char (· = y))) (.char (· = x))

def seqs : List Pattern → Pattern
  | [] => .look fun _ _ ↦ true
  | [r] => r
  | r :: rs => .seq r (seqs rs)

def alts : List Pattern → Pattern
  | [] => .look fun _ _ ↦ false
  | [r] => r
  | r :: rs => .alt r (alts rs)

def many (p : Char → Bool) : Pattern := .repeat true 0 none (.char p)

def many1 (p : Char → Bool) : Pattern := .repeat true 1 none (.char p)

def maybe (r : Pattern) : Pattern := .repeat true 0 (some 1) r

def atLeast (n : ℕ) (p : Char → Bool) : Pattern := .repeat true n none (.char p)

def upTo (n : ℕ) (p : Char → Bool) : Pattern := .repeat true 0 (some n) (.char p)

def exactly (n : ℕ) (p : Char → Bool) : Pattern := .repeat true n (some n) (.char p)

/-- `\b` -/
def boundary (isWord : Char → Bool) : Pattern :=
  .look fun a b ↦ a.any isWord != b.any isWord

/-- `(?<!...)` and `(?!...)` of one character -/
def notAfter (p : Char → Bool) : Pattern := .look fun a _ ↦ !a.any p

def notBefore (p : Char → Bool) : Pattern := .look fun _ b ↦ !b.any p

/-- `^` of the flag `MULTILINE` -/
def lineStart : Pattern := .look fun a _ ↦ a.all (· = '\n')

end builders

end Regex
