import Mathlib.Logic.Function.Basic
import CyberNetizen.Infrastructure.SecretStore
import CyberNetizen.Lib.Machine

namespace CyberNetizen.Secrets

open Domain Infrastructure Infrastructure.SqlAlchemySecretStore KeyedTable

variable {Nonce Sealed : Type}

/-- A call of `set_secret`. -/
structure SetCall (Nonce : Type) where
  slot : Slot
  plaintext : String
  nonce : Nonce

structure Encryption where
  secretId : UUID
  slot : Slot
  keyVersion : ℕ
  plaintext : String

def Encryption.data (e : Encryption) : ByteArray :=
  associatedData e.secretId e.slot.1 e.slot.2.1 e.slot.2.2 e.keyVersion

/-- The table, the calls of `set_secret` that have found no row, and what was ever encrypted. -/
structure World (Nonce Sealed : Type) where
  store : SecretTable Nonce Sealed
  waiting : List (SetCall Nonce)
  encryptions : List Encryption

def World.empty : World Nonce Sealed := ⟨.empty, [], []⟩

def World.made (w : World Nonce Sealed) : List (ByteArray × ByteArray) :=
  w.encryptions.map fun e ↦ (e.data, e.plaintext.toUTF8)

inductive Action (Nonce Sealed : Type)
  /-- `set_secret` up to its write, which is its own transaction if there is no row. -/
  | setSecret (call : SetCall Nonce) (now : Datetime)
  | insertSecret (i : ℕ) (id : UUID) (now : Datetime)
  | rotateSecret (secretId : UUID) (plaintext : String) (nonce : Nonce) (now : Datetime)
  | testSecret (secretId : UUID) (now : Datetime)
  | clearSecret (secretId : UUID)
  /-- Somebody without the master key writes the two columns of a row. -/
  | tamper (secretId : UUID) (encryptedValue : Option Sealed) (nonce : Option Nonce)

inductive Event
  | written (slot : Slot) (plaintext : String)
  | cleared (slot : Slot)

def tampered (encryptedValue : Option Sealed) (nonce : Option Nonce) :
    Update (SecretReference.id : SecretRow Nonce Sealed → UUID) where
  toFun row := { row with encryptedValue, nonce }
  key_eq _ := rfl

def encryptionOf (row : SecretRow Nonce Sealed) (plaintext : String) : Encryption :=
  ⟨row.id, slot row, row.keyVersion + 1, plaintext⟩

variable (cipher : AesGcm Nonce Sealed)

def World.written (w : World Nonce Sealed) (row : SecretRow Nonce Sealed) (plaintext : String)
    (store : SecretTable Nonce Sealed) : Option Event × World Nonce Sealed :=
  (some (.written (slot row) plaintext),
    { w with store, encryptions := w.encryptions ++ [encryptionOf row plaintext] })

def step (w : World Nonce Sealed) : Action Nonce Sealed → Option Event × World Nonce Sealed
  | .setSecret call now =>
    match rowOfSlot w.store call.slot with
    | some row => w.written row call.plaintext
        (overwrite cipher w.store row call.plaintext call.nonce now).2
    | none => (none, { w with waiting := w.waiting ++ [call] })
  | .insertSecret i id now =>
    match w.waiting[i]? with
    | none => (none, w)
    | some call =>
      let w := { w with waiting := w.waiting.eraseIdx i }
      match insertSecret cipher w.store call.slot call.plaintext id call.nonce now with
      | .error _ => (none, w)
      | .ok (_, store) => w.written (newRow id call.slot now) call.plaintext store
  | .rotateSecret secretId plaintext nonce now =>
    match lockedRow w.store secretId, rotateSecret cipher w.store secretId plaintext nonce now with
    | .ok row, .ok (_, store) => w.written row plaintext store
    | _, _ => (none, w)
  | .testSecret secretId now =>
    match testSecret cipher w.store secretId now with
    | .error _ => (none, w)
    | .ok (_, store) => (none, { w with store })
  | .clearSecret secretId =>
    match lockedRow w.store secretId, clearSecret w.store secretId with
    | .ok row, .ok store => (some (.cleared (slot row)), { w with store })
    | _, _ => (none, w)
  | .tamper secretId encryptedValue nonce =>
    (none, { w with
      store := w.store.updateWhere (fun x ↦ x.id = secretId) (tampered encryptedValue nonce) })

/-- A generated identifier is one of 128 bits that was never used before, and an envelope from
outside decrypts, if at all, to something encrypted earlier under the same data. -/
def Admissible (w : World Nonce Sealed) : Action Nonce Sealed → Prop
  | .insertSecret _ id _ => id < 2 ^ 128 ∧ ∀ e ∈ w.encryptions, e.secretId ≠ id
  | .tamper _ encryptedValue nonce =>
    ∀ envelope ∈ encryptedValue, ∀ n ∈ nonce, Aead.Genuine cipher w.made n envelope
  | _ => True

abbrev Texts := Slot → Option String

def record (texts : Texts) : Option Event → Texts
  | some (.written slot plaintext) => Function.update texts slot (some plaintext)
  | some (.cleared slot) => Function.update texts slot none
  | none => texts

def lastWritten (events : List (Option Event)) : Texts := events.foldl record fun _ ↦ none

end CyberNetizen.Secrets

namespace CyberNetizen.Secrets

open Domain Infrastructure Infrastructure.SqlAlchemySecretStore KeyedTable

variable {Nonce Sealed : Type}

section data

variable {id id' : UUID} {key key' : String} {scopeType scopeType' : ConfigScope}
  {scopeId scopeId' : Option UUID} {version version' : ℕ}

theorem length_uuidString (n : UUID) : (uuidString n).toList.length = 36 := by
  unfold uuidString
  rw [String.toList_ofList, WireText.length_uuidText]

theorem uuidString_inj (hid : id < 2 ^ 128) (hid' : id' < 2 ^ 128)
    (h : (uuidString id).toList = (uuidString id').toList) : id = id' := by
  unfold uuidString at h
  rw [String.toList_ofList, String.toList_ofList] at h
  exact WireText.uuidText_inj hid hid' h

theorem associatedData_id (hid : id < 2 ^ 128) (hid' : id' < 2 ^ 128)
    (h : associatedData id key scopeType scopeId version =
      associatedData id' key' scopeType' scopeId' version') : id = id' := by
  have htext := congrArg String.toList (String.toByteArray_inj.mp h)
  simp only [toString, String.toList_append, List.append_assoc] at htext
  have hrest := List.append_cancel_left htext
  have hlen : (uuidString id).toList.length = (uuidString id').toList.length :=
    (length_uuidString id).trans (length_uuidString id').symm
  exact uuidString_inj hid hid' (List.append_inj hrest hlen).1

theorem associatedData_version
    (h : associatedData id key scopeType scopeId version =
      associatedData id key scopeType scopeId version') : version = version' := by
  have htext := congrArg String.toList (String.toByteArray_inj.mp h)
  simp only [toString, String.toList_append] at htext
  have hdigits := List.append_cancel_left htext
  rw [Nat.toList_repr, Nat.toList_repr] at hdigits
  rw [← Nat.ofDigitChars_ten_toDigits (n := version), hdigits, Nat.ofDigitChars_ten_toDigits]

end data

section rows

variable (cipher : AesGcm Nonce Sealed)

/-- What the store knows of a row: its own encryptions are of its slot, the latest of them is of
its version and of the text last written, and whatever its envelope decrypts to was encrypted. -/
structure BoundRow (w : World Nonce Sealed) (texts : Texts) (row : SecretRow Nonce Sealed) : Prop where
  provider : row.provider = providerName
  current : ∃ e ∈ w.encryptions, e.secretId = row.id ∧ e.keyVersion = row.keyVersion
  own : ∀ e ∈ w.encryptions, e.secretId = row.id → e.slot = slot row ∧
    e.keyVersion ≤ row.keyVersion ∧
      (e.keyVersion = row.keyVersion → texts (slot row) = some e.plaintext)
  genuine : ∀ envelope ∈ row.encryptedValue, ∀ n ∈ row.nonce, Aead.Genuine cipher w.made n envelope

structure Bound (w : World Nonce Sealed) (texts : Texts) : Prop where
  unique : ∀ row ∈ w.store, ∀ row' ∈ w.store, slot row = slot row' → row = row'
  small : ∀ e ∈ w.encryptions, e.secretId < 2 ^ 128
  rows : ∀ row ∈ w.store, BoundRow cipher w texts row
  empty : ∀ sl, (∀ row ∈ w.store, slot row ≠ sl) → texts sl = none

def Intact (texts : Texts) (row : SecretRow Nonce Sealed) : Prop :=
  ∃ nonce plaintext, row.nonce = some nonce ∧
    row.encryptedValue = some (cipher.encrypt nonce plaintext.toUTF8 (rowData row)) ∧
    texts (slot row) = some plaintext

variable {cipher} {w : World Nonce Sealed} {texts : Texts} {row : SecretRow Nonce Sealed}

theorem fromUTF8?_toUTF8 (text : String) : String.fromUTF8? text.toUTF8 = some text := by
  unfold String.fromUTF8?
  rw [dif_pos (c := text.toUTF8.IsValidUTF8) text.isValidUTF8]
  exact congrArg some (String.toByteArray_inj.mp rfl)

/-- A row is decrypted to the text last written, or not at all. -/
theorem BoundRow.decryptRow (h : BoundRow cipher w texts row)
    (hsmall : ∀ e ∈ w.encryptions, e.secretId < 2 ^ 128) :
    ∃ plaintext, texts (slot row) = some plaintext ∧
      (decryptRow cipher row = .ok plaintext ∨
        ∃ message, decryptRow cipher row = .error (.operation message)) := by
  obtain ⟨e, he, hid, hversion⟩ := h.current
  obtain ⟨hslot, -, htext⟩ := h.own e he hid
  refine ⟨e.plaintext, htext hversion, ?_⟩
  unfold SqlAlchemySecretStore.decryptRow
  rw [if_neg (not_not.mpr h.provider)]
  cases hencrypted : row.encryptedValue with
  | none => exact .inr ⟨_, rfl⟩
  | some encrypted =>
    cases hnonce : row.nonce with
    | none => exact .inr ⟨_, rfl⟩
    | some nonce =>
      dsimp only
      cases hdecrypt : cipher.decrypt nonce encrypted (rowData row) with
      | none => exact .inr ⟨_, rfl⟩
      | some bytes =>
        obtain ⟨made, hmade, hpair⟩ := List.mem_map.mp
          (h.genuine encrypted hencrypted nonce hnonce _ _ hdecrypt)
        obtain ⟨hdata, rfl⟩ := Prod.mk.inj hpair
        have hrow : made.secretId = row.id :=
          associatedData_id (hsmall made hmade) (hid ▸ hsmall e he) hdata
        obtain ⟨hmadeSlot, -, hmadeText⟩ := h.own made hmade hrow
        have hmadeVersion : made.keyVersion = row.keyVersion := by
          unfold Encryption.data rowData at hdata
          rw [hrow, hmadeSlot] at hdata
          exact associatedData_version hdata
        have hsame := (hmadeText hmadeVersion).symm.trans (htext hversion)
        rw [Option.some.inj hsame]
        dsimp only
        rw [fromUTF8?_toUTF8]
        exact .inl rfl

theorem Intact.decryptRow (h : Intact cipher texts row) (hideal : cipher.Ideal)
    (hprovider : row.provider = providerName) :
    ∃ plaintext, texts (slot row) = some plaintext ∧ decryptRow cipher row = .ok plaintext := by
  obtain ⟨nonce, plaintext, hnonce, hencrypted, htext⟩ := h
  refine ⟨plaintext, htext, ?_⟩
  unfold SqlAlchemySecretStore.decryptRow
  rw [if_neg (not_not.mpr hprovider), hencrypted, hnonce]
  dsimp only
  rw [hideal.correct]
  dsimp only
  rw [fromUTF8?_toUTF8]

end rows

section steps

variable (cipher : AesGcm Nonce Sealed)

/-- Nothing of the row has changed that its decryption reads. -/
structure SameSecret (x x' : SecretRow Nonce Sealed) : Prop where
  id : x'.id = x.id
  slot : slot x' = slot x
  keyVersion : x'.keyVersion = x.keyVersion
  provider : x'.provider = x.provider

theorem SameSecret.rowData {x x' : SecretRow Nonce Sealed} (h : SameSecret x x') :
    rowData x' = rowData x := by
  obtain ⟨hkey, hscope⟩ := Prod.mk.inj h.slot
  obtain ⟨hscopeType, hscopeId⟩ := Prod.mk.inj hscope
  unfold SqlAlchemySecretStore.rowData
  rw [h.id, hkey, hscopeType, hscopeId, h.keyVersion]

/-- Where a row of the table comes from after a step. -/
inductive Origin (w : World Nonce Sealed) (texts : Texts) (a : Action Nonce Sealed)
    (w' : World Nonce Sealed) (texts' : Texts) (x' : SecretRow Nonce Sealed) : Prop
  | written (row : SecretRow Nonce Sealed) (plaintext : String) (nonce : Nonce) (now : Datetime)
      (heq : x' = encryptRow cipher plaintext nonce now row)
      (htext : texts' (slot row) = some plaintext)
      (hmade : w'.encryptions = w.encryptions ++ [encryptionOf row plaintext])
      (hown : ∀ e ∈ w.encryptions, e.secretId = row.id →
        e.slot = slot row ∧ e.keyVersion ≤ row.keyVersion)
  | kept (x : SecretRow Nonce Sealed) (hx : x ∈ w.store) (hsame : SameSecret x x')
      (htext : texts' (slot x) = texts (slot x))
      (hmade : ∀ e ∈ w'.encryptions, e ∈ w.encryptions ∨ e.secretId ≠ x.id)
      (hgrow : w.encryptions ⊆ w'.encryptions)
      (henvelope : (x'.nonce = x.nonce ∧ x'.encryptedValue = x.encryptedValue) ∨
        ∃ encryptedValue nonce, a = .tamper x.id encryptedValue nonce ∧
          x'.encryptedValue = encryptedValue ∧ x'.nonce = nonce)

variable {cipher} {w w' : World Nonce Sealed} {texts texts' : Texts} {a : Action Nonce Sealed}
  {x' : SecretRow Nonce Sealed}

theorem made_subset (h : w.encryptions ⊆ w'.encryptions) : w.made ⊆ w'.made :=
  List.map_subset _ h

theorem Origin.boundRow (h : Origin cipher w texts a w' texts' x') (hideal : cipher.Ideal)
    (hbound : Bound cipher w texts) (ha : Admissible cipher w a) :
    BoundRow cipher w' texts' x' := by
  cases h with
  | written row plaintext nonce now heq htext hmade hown =>
    subst heq
    have hnew : encryptionOf row plaintext ∈ w'.encryptions := by
      rw [hmade]
      exact List.mem_append_right _ (List.mem_singleton_self _)
    refine ⟨rfl, ⟨_, hnew, rfl, rfl⟩, ?_, ?_⟩
    · intro e he hid
      rw [hmade] at he
      rcases List.mem_append.mp he with he | he
      · obtain ⟨hslot, hversion⟩ := hown e he hid
        refine ⟨hslot, Nat.le_succ_of_le hversion, ?_⟩
        intro heq
        have hsucc : e.keyVersion = row.keyVersion + 1 := heq
        omega
      · rw [List.mem_singleton.mp he]
        exact ⟨rfl, le_refl _, fun _ ↦ htext⟩
    · intro envelope henvelope n hn
      obtain rfl : cipher.encrypt nonce plaintext.toUTF8 (encryptionOf row plaintext).data = envelope :=
        Option.some.inj henvelope
      obtain rfl : nonce = n := Option.some.inj hn
      have hmem : ((encryptionOf row plaintext).data, plaintext.toUTF8) ∈ w'.made :=
        List.mem_map_of_mem (f := fun e : Encryption ↦ (e.data, e.plaintext.toUTF8)) hnew
      exact hideal.genuine hmem
  | kept x hx hsame htext hmade hgrow henvelope =>
    have hrow := hbound.rows x hx
    refine ⟨hsame.provider.trans hrow.provider, ?_, ?_, ?_⟩
    · obtain ⟨e, he, hid, hversion⟩ := hrow.current
      exact ⟨e, hgrow he, hid.trans hsame.id.symm, hversion.trans hsame.keyVersion.symm⟩
    · intro e he hid
      rw [hsame.id] at hid
      rcases hmade e he with he | hne
      · rw [hsame.slot, hsame.keyVersion, htext]
        exact hrow.own e he hid
      · exact absurd hid hne
    · intro envelope hx' n hn
      rcases henvelope with ⟨hnonce, hencrypted⟩ | ⟨encryptedValue, nonce, rfl, rfl, rfl⟩
      · rw [hencrypted] at hx'
        rw [hnonce] at hn
        exact (hrow.genuine envelope hx' n hn).mono (made_subset hgrow)
      · exact (ha envelope hx' n hn).mono (made_subset hgrow)

def isTamper : Action Nonce Sealed → Bool
  | .tamper .. => true
  | _ => false

theorem Origin.intact (h : Origin cipher w texts a w' texts' x')
    (hintact : ∀ x ∈ w.store, Intact cipher texts x) (ha : isTamper a = false) :
    Intact cipher texts' x' := by
  cases h with
  | written row plaintext nonce now heq htext =>
    subst heq
    exact ⟨nonce, plaintext, rfl, rfl, htext⟩
  | kept x hx hsame htext hmade hgrow henvelope =>
    rcases henvelope with ⟨hnonce, hencrypted⟩ | ⟨encryptedValue, nonce, rfl, -, -⟩
    · obtain ⟨n, plaintext, hn, he, ht⟩ := hintact x hx
      refine ⟨n, plaintext, hnonce.trans hn, ?_, ?_⟩
      · rw [hencrypted, he, hsame.rowData]
      · rw [hsame.slot, htext, ht]
    · cases ha

/-- What a step leaves behind. -/
structure Steps (cipher : AesGcm Nonce Sealed) (w : World Nonce Sealed) (texts : Texts)
    (a : Action Nonce Sealed) (r : Option Event × World Nonce Sealed) : Prop where
  origin : ∀ x' ∈ r.2.store, Origin cipher w texts a r.2 (record texts r.1) x'
  unique : ∀ x ∈ r.2.store, ∀ y ∈ r.2.store, slot x = slot y → x = y
  small : ∀ e ∈ r.2.encryptions, e.secretId < 2 ^ 128
  empty : ∀ sl, (∀ x ∈ r.2.store, slot x ≠ sl) → record texts r.1 sl = none

theorem Steps.bound {r : Option Event × World Nonce Sealed} (h : Steps cipher w texts a r)
    (hideal : cipher.Ideal) (hbound : Bound cipher w texts) (ha : Admissible cipher w a) :
    Bound cipher r.2 (record texts r.1) where
  unique := h.unique
  small := h.small
  rows x' hx' := (h.origin x' hx').boundRow hideal hbound ha
  empty := h.empty

theorem SameSecret.refl (x : SecretRow Nonce Sealed) : SameSecret x x := ⟨rfl, rfl, rfl, rfl⟩

section updates

variable {f : Update (SecretReference.id : SecretRow Nonce Sealed → UUID)}
  {p : SecretRow Nonce Sealed → Bool}

theorem slot_update (hf : ∀ x, slot (f x) = slot x) (x : SecretRow Nonce Sealed) :
    slot (if p x then f x else x) = slot x := by
  split
  · exact hf x
  · rfl

theorem unique_updateWhere (hbound : Bound cipher w texts) (hf : ∀ x, slot (f x) = slot x) :
    ∀ x ∈ w.store.updateWhere p f, ∀ y ∈ w.store.updateWhere p f, slot x = slot y → x = y := by
  intro x' hx' y' hy' hslot
  obtain ⟨x, hx, rfl⟩ := Table.mem_updateWhere.mp hx'
  obtain ⟨y, hy, rfl⟩ := Table.mem_updateWhere.mp hy'
  rw [slot_update hf, slot_update hf] at hslot
  rw [hbound.unique x hx y hy hslot]

theorem empty_updateWhere (hbound : Bound cipher w texts) (hf : ∀ x, slot (f x) = slot x) {sl : Slot}
    (hfree : ∀ x ∈ w.store.updateWhere p f, slot x ≠ sl) : texts sl = none := by
  apply hbound.empty
  intro x hx
  rw [← slot_update (p := p) hf x]
  exact hfree _ (Table.mem_updateWhere.mpr ⟨x, hx, rfl⟩)

end updates

variable {row : SecretRow Nonce Sealed}

/-- `set_secret` of a row that is there, and `rotate_secret`. -/
theorem steps_overwrite (hbound : Bound cipher w texts) (hrow : row ∈ w.store) (plaintext : String)
    (nonce : Nonce) (now : Datetime) :
    Steps cipher w texts a
      (w.written row plaintext (overwrite cipher w.store row plaintext nonce now).2) := by
  have hslot : ∀ x, slot (encryptRow cipher plaintext nonce now x) = slot x := fun _ ↦ rfl
  have hsmall : row.id < 2 ^ 128 := by
    obtain ⟨e, he, hid, -⟩ := (hbound.rows row hrow).current
    rw [← hid]
    exact hbound.small e he
  refine ⟨?_, unique_updateWhere hbound hslot, ?_, ?_⟩
  · intro x' hx'
    obtain ⟨x, hx, hupdate⟩ := Table.mem_updateWhere.mp hx'
    by_cases hid : x.id = row.id
    · obtain rfl : x = row := Table.eq_of_key_eq hx hrow hid
      rw [decide_eq_true rfl, if_pos rfl] at hupdate
      refine .written x plaintext nonce now hupdate.symm (Function.update_self ..) rfl ?_
      intro e he hid
      obtain ⟨hs, hv, -⟩ := (hbound.rows x hx).own e he hid
      exact ⟨hs, hv⟩
    · rw [decide_eq_false hid, if_neg Bool.false_ne_true] at hupdate
      subst hupdate
      refine .kept x hx (.refl x) ?_ ?_ (List.subset_append_left _ _) (.inl ⟨rfl, rfl⟩)
      · apply Function.update_of_ne
        intro hs
        exact hid (congrArg SecretReference.id (hbound.unique x hx row hrow hs))
      · intro e he
        rcases List.mem_append.mp he with he | he
        · exact .inl he
        · rw [List.mem_singleton.mp he]
          exact .inr (Ne.symm hid)
  · intro e he
    rcases List.mem_append.mp he with he | he
    · exact hbound.small e he
    · rw [List.mem_singleton.mp he]
      exact hsmall
  · intro sl hfree
    have hne : sl ≠ slot row := by
      intro hs
      have hmem : encryptRow cipher plaintext nonce now row ∈
          (overwrite cipher w.store row plaintext nonce now).2 :=
        Table.mem_updateWhere.mpr ⟨row, hrow, if_pos (decide_eq_true rfl)⟩
      exact hfree _ hmem hs.symm
    show Function.update texts (slot row) (some plaintext) sl = none
    rw [Function.update_of_ne hne]
    exact empty_updateWhere hbound hslot hfree

/-- An update of what belongs to no secret, or of an envelope from outside. -/
theorem steps_update (hbound : Bound cipher w texts) {secretId : UUID}
    {f : Update (SecretReference.id : SecretRow Nonce Sealed → UUID)}
    (hsame : ∀ x, SameSecret x (f x))
    (henvelope : ∀ x, x.id = secretId → ((f x).nonce = x.nonce ∧
      (f x).encryptedValue = x.encryptedValue) ∨ ∃ encryptedValue nonce,
        a = .tamper x.id encryptedValue nonce ∧ (f x).encryptedValue = encryptedValue ∧
          (f x).nonce = nonce) :
    Steps cipher w texts a
      (none, { w with store := w.store.updateWhere (fun x ↦ x.id = secretId) f }) := by
  have hslot : ∀ x, slot (f x) = slot x := fun x ↦ (hsame x).slot
  refine ⟨?_, unique_updateWhere hbound hslot, hbound.small, fun sl ↦ empty_updateWhere hbound hslot⟩
  intro x' hx'
  obtain ⟨x, hx, hupdate⟩ := Table.mem_updateWhere.mp hx'
  by_cases hid : x.id = secretId
  · rw [decide_eq_true hid, if_pos rfl] at hupdate
    subst hupdate
    exact .kept x hx (hsame x) rfl (fun _ he ↦ .inl he) (List.Subset.refl _) (henvelope x hid)
  · rw [decide_eq_false hid, if_neg Bool.false_ne_true] at hupdate
    subst hupdate
    exact .kept x hx (.refl x) rfl (fun _ he ↦ .inl he) (List.Subset.refl _) (.inl ⟨rfl, rfl⟩)

theorem steps_same (hbound : Bound cipher w texts) {waiting : List (SetCall Nonce)} :
    Steps cipher w texts a (none, { w with waiting }) where
  origin x hx := .kept x hx (.refl x) rfl (fun _ he ↦ .inl he) (List.Subset.refl _)
    (.inl ⟨rfl, rfl⟩)
  unique := hbound.unique
  small := hbound.small
  empty := hbound.empty

/-- `set_secret` of a row that was not there when it looked. -/
theorem steps_insert (hbound : Bound cipher w texts) {call : SetCall Nonce} {id : UUID}
    {now : Datetime} {shown : SecretMetadata} {store : SecretTable Nonce Sealed}
    {waiting : List (SetCall Nonce)} (hid : id < 2 ^ 128)
    (hfresh : ∀ e ∈ w.encryptions, e.secretId ≠ id)
    (h : insertSecret cipher w.store call.slot call.plaintext id call.nonce now = .ok (shown, store)) :
    Steps cipher w texts a
      ({ w with waiting }.written (newRow id call.slot now) call.plaintext store) := by
  unfold insertSecret at h
  dsimp only at h
  split at h
  · cases h
  · rename_i hfree
    have hnew : ∀ x ∈ w.store, slot x ≠ call.slot := by
      intro x hx hs
      apply hfree
      rw [rowOfSlot, List.find?_isSome]
      exact ⟨x, hx, decide_eq_true hs⟩
    split at h
    · cases h
    · rename_i table hinsert
      obtain ⟨-, rfl⟩ := Prod.mk.inj (Except.ok.inj h)
      have hmem := fun x ↦ Table.mem_insert? (x := x) hinsert
      have hrowSlot : slot (encryptRow cipher call.plaintext call.nonce now
          (newRow id call.slot now)) = call.slot := rfl
      refine ⟨?_, ?_, ?_, ?_⟩
      · intro x hx
        rcases (hmem x).mp hx with hx | rfl
        · refine .kept x hx (.refl x) ?_ ?_ (List.subset_append_left _ _) (.inl ⟨rfl, rfl⟩)
          · exact Function.update_of_ne (hnew x hx) ..
          · intro e he
            rcases List.mem_append.mp he with he | he
            · exact .inl he
            · rw [List.mem_singleton.mp he]
              refine .inr fun hx' ↦ ?_
              obtain ⟨e', he', hid', -⟩ := (hbound.rows x hx).current
              exact hfresh e' he' (hid'.trans hx'.symm)
        · refine .written (newRow id call.slot now) call.plaintext call.nonce now rfl
            (Function.update_self ..) rfl ?_
          intro e he hid'
          exact absurd hid' (hfresh e he)
      · intro x hx y hy hs
        rcases (hmem x).mp hx with hx | rfl
        · rcases (hmem y).mp hy with hy | rfl
          · exact hbound.unique x hx y hy hs
          · exact absurd (hs.trans hrowSlot) (hnew x hx)
        · rcases (hmem y).mp hy with hy | rfl
          · exact absurd (hs.symm.trans hrowSlot) (hnew y hy)
          · rfl
      · intro e he
        rcases List.mem_append.mp he with he | he
        · exact hbound.small e he
        · rw [List.mem_singleton.mp he]
          exact hid
      · intro sl hno
        have hne : sl ≠ call.slot := by
          intro hs
          exact hno _ ((hmem _).mpr (.inr rfl)) (hrowSlot.trans hs.symm)
        show Function.update texts call.slot (some call.plaintext) sl = none
        rw [Function.update_of_ne hne]
        exact hbound.empty sl fun x hx ↦ hno x ((hmem x).mpr (.inl hx))

theorem steps_clear (hbound : Bound cipher w texts) (hrow : row ∈ w.store) :
    Steps cipher w texts a
      (some (.cleared (slot row)), { w with store := w.store.deleteWhere (·.id = row.id) }) := by
  have hmem : ∀ x, x ∈ w.store.deleteWhere (·.id = row.id) ↔ x ∈ w.store ∧ x.id ≠ row.id := by
    intro x
    rw [Table.mem_deleteWhere, decide_eq_false_iff_not]
  refine ⟨?_, ?_, hbound.small, ?_⟩
  · intro x hx
    obtain ⟨hx, hid⟩ := (hmem x).mp hx
    refine .kept x hx (.refl x) ?_ (fun _ he ↦ .inl he) (List.Subset.refl _) (.inl ⟨rfl, rfl⟩)
    apply Function.update_of_ne
    intro hs
    exact hid (congrArg SecretReference.id (hbound.unique x hx row hrow hs))
  · intro x hx y hy
    exact hbound.unique x ((hmem x).mp hx).1 y ((hmem y).mp hy).1
  · intro sl hno
    show Function.update texts (slot row) none sl = none
    by_cases hs : sl = slot row
    · rw [hs, Function.update_self]
    · rw [Function.update_of_ne hs]
      apply hbound.empty
      intro x hx hxs
      by_cases hid : x.id = row.id
      · rw [Table.eq_of_key_eq hx hrow hid] at hxs
        exact hs hxs.symm
      · exact hno x ((hmem x).mpr ⟨hx, hid⟩) hxs

end steps

end CyberNetizen.Secrets
