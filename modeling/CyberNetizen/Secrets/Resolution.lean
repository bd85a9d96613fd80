import Mathlib
import CyberNetizen.Secrets.Binding

namespace CyberNetizen.Secrets

open Domain Infrastructure Infrastructure.SqlAlchemySecretStore KeyedTable

variable {Nonce Sealed : Type} {cipher : AesGcm Nonce Sealed} {w : World Nonce Sealed}
  {texts : Texts}

section run

theorem lockedRow_eq_ok {s : SecretTable Nonce Sealed} {secretId : UUID}
    {row : SecretRow Nonce Sealed} : lockedRow s secretId = .ok row ↔ s.find? secretId = some row := by
  unfold lockedRow
  cases s.find? secretId <;> simp

theorem tested_same {row : SecretRow Nonce Sealed} {now : Datetime}
    {f : Update (SecretReference.id : SecretRow Nonce Sealed → UUID)}
    (h : tested cipher row now = .ok f) (x : SecretRow Nonce Sealed) :
    SameSecret x (f x) ∧ (f x).nonce = x.nonce ∧ (f x).encryptedValue = x.encryptedValue := by
  unfold tested at h
  dsimp only at h
  split at h
  · cases h
    exact ⟨⟨rfl, rfl, rfl, rfl⟩, rfl, rfl⟩
  · cases h
    exact ⟨⟨rfl, rfl, rfl, rfl⟩, rfl, rfl⟩
  · cases h

theorem steps_step (hbound : Bound cipher w texts) (a : Action Nonce Sealed)
    (ha : Admissible cipher w a) : Steps cipher w texts a (step cipher w a) := by
  cases a with
  | setSecret call now =>
    simp only [step]
    cases hrow : rowOfSlot w.store call.slot with
    | none => exact steps_same hbound
    | some row => exact steps_overwrite hbound (List.mem_of_find?_eq_some hrow) ..
  | insertSecret i id now =>
    simp only [step]
    cases hcall : w.waiting[i]? with
    | none => exact steps_same hbound
    | some call =>
      dsimp only
      split
      · exact steps_same hbound
      · rename_i shown store hinsert
        exact steps_insert hbound ha.1 ha.2 hinsert
  | rotateSecret secretId plaintext nonce now =>
    simp only [step, rotateSecret]
    cases hrow : lockedRow w.store secretId with
    | error e => exact steps_same hbound
    | ok row =>
      exact steps_overwrite hbound (Table.mem_of_find? (lockedRow_eq_ok.mp hrow)) ..
  | testSecret secretId now =>
    simp only [step, testSecret]
    cases hrow : lockedRow w.store secretId with
    | error e => exact steps_same hbound
    | ok row =>
      dsimp only
      cases hf : tested cipher row now with
      | error e => exact steps_same hbound
      | ok f =>
        exact steps_update hbound (fun x ↦ (tested_same hf x).1)
          fun x _ ↦ .inl (tested_same hf x).2
  | clearSecret secretId =>
    simp only [step, clearSecret]
    cases hrow : lockedRow w.store secretId with
    | error e => exact steps_same hbound
    | ok row => exact steps_clear hbound (Table.mem_of_find? (lockedRow_eq_ok.mp hrow))
  | tamper secretId encryptedValue nonce =>
    refine steps_update hbound (fun x ↦ ⟨rfl, rfl, rfl, rfl⟩) fun x hx ↦ .inr ?_
    exact ⟨encryptedValue, nonce, by rw [hx], rfl, rfl⟩

theorem bound_empty : Bound cipher .empty fun _ ↦ none where
  unique x hx := absurd hx (Table.not_mem_empty x)
  small _ he := absurd he List.not_mem_nil
  rows x hx := absurd hx (Table.not_mem_empty x)
  empty _ _ := rfl

theorem Bound.run (hideal : cipher.Ideal) (hbound : Bound cipher w texts)
    {as : List (Action Nonce Sealed)} (h : Machine.Along (step cipher) (Admissible cipher) w as) :
    Bound cipher (Machine.run (step cipher) w as)
      ((Machine.outputs (step cipher) w as).foldl record texts) := by
  induction as generalizing w texts with
  | nil => exact hbound
  | cons a as ih => exact ih ((steps_step hbound a h.1).bound hideal hbound h.1) h.2

theorem intact_run (hideal : cipher.Ideal) (hbound : Bound cipher w texts)
    {as : List (Action Nonce Sealed)} (h : Machine.Along (step cipher) (Admissible cipher) w as)
    (hintact : ∀ x ∈ w.store, Intact cipher texts x) (has : ∀ a ∈ as, isTamper a = false) :
    ∀ x ∈ (Machine.run (step cipher) w as).store,
      Intact cipher ((Machine.outputs (step cipher) w as).foldl record texts) x := by
  induction as generalizing w texts with
  | nil => exact hintact
  | cons a as ih =>
    have hsteps := steps_step hbound a h.1
    refine ih (hsteps.bound hideal hbound h.1) h.2 ?_ fun b hb ↦ has b (List.mem_cons_of_mem a hb)
    intro x hx
    exact (hsteps.origin x hx).intact hintact (has a List.mem_cons_self)

end run

section resolution

variable {key : String} {tenantId : UUID} {agentId channelId userId : Option UUID}

def mostSpecific (texts : Texts) (key : String) (tenantId : UUID)
    (agentId channelId userId : Option UUID) : Option String :=
  (userId.bind fun id ↦ texts (key, .user, some id)) <|>
    (channelId.bind fun id ↦ texts (key, .channel, some id)) <|>
    (agentId.bind fun id ↦ texts (key, .agent, some id)) <|>
    texts (key, .tenant, some tenantId) <|> texts (key, .system, none)

def Selects (w : World Nonce Sealed) (texts : Texts) (selected : Option (SecretRow Nonce Sealed))
    (text : Option String) : Prop :=
  match selected with
  | none => text = none
  | some row => row ∈ w.store ∧ texts (slot row) = text ∧ text.isSome

theorem Selects.orElse {selected selected' : Option (SecretRow Nonce Sealed)}
    {text text' : Option String} (h : Selects w texts selected text)
    (h' : Selects w texts selected' text') :
    Selects w texts (selected <|> selected') (text <|> text') := by
  cases selected with
  | none =>
    have htext : text = none := h
    rw [htext]
    exact h'
  | some row =>
    obtain ⟨hrow, htext, hsome⟩ := h
    obtain ⟨plaintext, rfl⟩ := Option.isSome_iff_exists.mp hsome
    exact ⟨hrow, htext, rfl⟩

variable {rows : List (SecretRow Nonce Sealed)}

theorem selects_scope (hbound : Bound cipher w texts) (hperm : rows.Perm w.store.rows)
    (scopeType : ConfigScope) (scopeId : Option UUID) :
    Selects w texts
      ((rows.filter fun row ↦ row.key = key).reverse.find?
        fun row ↦ slot row = (key, scopeType, scopeId))
      (texts (key, scopeType, scopeId)) := by
  cases hfind : (rows.filter fun row ↦ row.key = key).reverse.find?
      fun row ↦ slot row = (key, scopeType, scopeId) with
  | none =>
    apply hbound.empty
    intro row hrow hslot
    have hkey : row.key = key := (Prod.mk.inj hslot).1
    refine List.find?_eq_none.mp hfind row ?_ (decide_eq_true hslot)
    exact List.mem_reverse.mpr
      (List.mem_filter.mpr ⟨hperm.mem_iff.mpr hrow, decide_eq_true hkey⟩)
  | some row =>
    have hfound := List.find?_some hfind
    have hslot : slot row = (key, scopeType, scopeId) := of_decide_eq_true hfound
    have hrow : row ∈ w.store := hperm.mem_iff.mp
      (List.mem_filter.mp (List.mem_reverse.mp (List.mem_of_find?_eq_some hfind))).1
    obtain ⟨plaintext, htext, -⟩ := (hbound.rows row hrow).decryptRow hbound.small
    refine ⟨hrow, congrArg texts hslot, ?_⟩
    rw [← hslot, htext]
    rfl

/-- The row is chosen by scope, whatever the order of the rows. -/
theorem selectEffectiveRecord_selects (hbound : Bound cipher w texts)
    (hperm : rows.Perm w.store.rows) :
    Selects w texts
      (selectEffectiveRecord key tenantId agentId channelId userId
        (rows.filter fun row ↦ row.key = key))
      (mostSpecific texts key tenantId agentId channelId userId) := by
  have hscope : ∀ (scopeType : ConfigScope) (scopeId : Option UUID), Selects w texts
      ((rows.filter fun row ↦ row.key = key).reverse.find?
        fun row ↦ slot row = (key, scopeType, scopeId))
      (texts (key, scopeType, scopeId)) := selects_scope hbound hperm
  have hoptional : ∀ (scopeType : ConfigScope) (scopeId : Option UUID)
      {selected : Option (SecretRow Nonce Sealed)} {text : Option String},
      Selects w texts selected text →
        Selects w texts
          (scopeId.elim selected fun id ↦ (rows.filter fun row ↦ row.key = key).reverse.find?
            (fun row ↦ slot row = (key, scopeType, some id)) <|> selected)
          ((scopeId.bind fun id ↦ texts (key, scopeType, some id)) <|> text) := by
    intro scopeType scopeId selected text h
    cases scopeId with
    | none => exact h
    | some id => exact (hscope scopeType (some id)).orElse h
  have htenant := (hscope .tenant (some tenantId)).orElse (hscope .system none)
  have hall := hoptional .user userId (hoptional .channel channelId (hoptional .agent agentId htenant))
  unfold mostSpecific selectEffectiveRecord
  cases agentId <;> cases channelId <;> cases userId <;> exact hall

/-- What a key resolves to: the text last written for the most specific scope that has one, or
nothing if no scope has one; if envelopes were changed from outside, that text or an error. -/
theorem resolve_secret_bound (hideal : cipher.Ideal) (as : List (Action Nonce Sealed))
    (h : Machine.Along (step cipher) (Admissible cipher) .empty as) (key : String) (tenantId : UUID)
    (agentId channelId userId : Option UUID) (rows : List (SecretRow Nonce Sealed))
    (hperm : rows.Perm (Machine.run (step cipher) .empty as).store.rows) :
    let found := mostSpecific (lastWritten (Machine.outputs (step cipher) .empty as)) key tenantId
      agentId channelId userId
    let resolved := resolveSecret cipher key tenantId agentId channelId userId rows
    (resolved = .ok found ∨
      found.isSome ∧ ∃ message, resolved = .error (.operation message)) ∧
    ((∀ a ∈ as, isTamper a = false) → resolved = .ok found) := by
  have hbound := bound_empty.run hideal h
  have hselects : Selects _ _
      (selectEffectiveRecord key tenantId agentId channelId userId
        (rows.filter fun row ↦ row.key = key)) _ := selectEffectiveRecord_selects hbound hperm
  dsimp only
  unfold resolveSecret lastWritten
  cases hselected : selectEffectiveRecord key tenantId agentId channelId userId
      (rows.filter fun row ↦ row.key = key) with
  | none =>
    rw [hselected] at hselects
    have hnone : mostSpecific _ key tenantId agentId channelId userId = none := hselects
    rw [hnone]
    exact ⟨.inl rfl, fun _ ↦ rfl⟩
  | some row =>
    rw [hselected] at hselects
    obtain ⟨hrow, htext, hsome⟩ := hselects
    dsimp only
    constructor
    · obtain ⟨plaintext, hplain, hdecrypt⟩ := (hbound.rows row hrow).decryptRow hbound.small
      rw [← htext, hplain]
      rcases hdecrypt with hok | ⟨message, herror⟩
      · rw [hok]
        exact .inl rfl
      · rw [herror]
        exact .inr ⟨rfl, message, rfl⟩
    · intro has
      have hintact := intact_run hideal bound_empty h (fun x hx ↦ absurd hx (Table.not_mem_empty x)) has
      obtain ⟨plaintext, hplain, hok⟩ :=
        (hintact row hrow).decryptRow hideal (hbound.rows row hrow).provider
      rw [← htext, hplain, hok]
      rfl

end resolution

section examples

def openCipher : AesGcm ℕ (ℕ × ByteArray × ByteArray) where
  encrypt nonce plain data := (nonce, plain, data)
  decrypt nonce envelope data :=
    if envelope.1 = nonce ∧ envelope.2.2 = data then some envelope.2.1 else none

theorem openCipher_ideal : openCipher.Ideal where
  correct nonce plain data := if_pos ⟨rfl, rfl⟩
  binding nonce plain data data' plain' h := by
    unfold openCipher at h
    dsimp only at h
    split at h
    · rename_i hmatch
      exact hmatch.2.symm
    · cases h

abbrev systemSlot : Slot := ("model.api_key", .system, none)

abbrev tenantSlot : Slot := ("model.api_key", .tenant, some 7)

/-- Two calls race for a new secret, a second secret is made for a tenant, the first one is rotated,
and somebody spoils the envelope of the second. -/
def racingWriters : List (Action ℕ (ℕ × ByteArray × ByteArray)) :=
  [.setSecret ⟨systemSlot, "first", 1⟩ 10, .setSecret ⟨systemSlot, "second", 2⟩ 11,
    .insertSecret 0 100 12, .insertSecret 0 101 13, .setSecret ⟨tenantSlot, "tenant", 3⟩ 14,
    .insertSecret 0 102 15, .rotateSecret 100 "rotated" 4 16,
    .tamper 102 (some (0, .empty, .empty)) (some 1)]

theorem resolve_secret_bound_racing :
    resolveSecret openCipher "model.api_key" 8 none none none
        (Machine.run (step openCipher) .empty racingWriters).store.rows = .ok (some "rotated") ∨
      ∃ message, resolveSecret openCipher "model.api_key" 8 none none none
        (Machine.run (step openCipher) .empty racingWriters).store.rows =
          .error (.operation message) := by
  have hadmissible :
      Machine.Along (step openCipher) (Admissible openCipher) .empty racingWriters := by
    refine ⟨trivial, trivial, ⟨by decide, by decide +kernel⟩, ⟨by decide, by decide +kernel⟩, trivial,
      ⟨by decide, by decide +kernel⟩, trivial, ?_, trivial⟩
    intro envelope henvelope n hn data plain hdecrypt
    obtain rfl := Option.some.inj henvelope
    obtain rfl := Option.some.inj hn
    cases hdecrypt
  have hbound := (resolve_secret_bound openCipher_ideal racingWriters hadmissible "model.api_key" 8
    none none none _ (List.Perm.refl _)).1
  have hfound : mostSpecific (lastWritten (Machine.outputs (step openCipher) .empty racingWriters))
      "model.api_key" 8 none none none = some "rotated" := by
    decide +kernel
  rw [hfound] at hbound
  exact hbound.imp_right And.right

end examples

end CyberNetizen.Secrets
