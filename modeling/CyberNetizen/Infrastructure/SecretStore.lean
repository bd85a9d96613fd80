import CyberNetizen.Domain.Channel
import CyberNetizen.Domain.Configuration
import CyberNetizen.Lib.Cryptography
import CyberNetizen.Lib.Table

namespace CyberNetizen.Domain

inductive SecretIntegrityStatus
  | untested | valid | invalid
  deriving DecidableEq

structure SecretMetadata where
  id : UUID
  key : String
  scopeType : ConfigScope
  scopeId : Option UUID
  provider : String
  maskedHint : String
  integrityStatus : SecretIntegrityStatus
  createdAt : Datetime
  updatedAt : Datetime
  lastTestedAt : Option Datetime
  deriving DecidableEq

end CyberNetizen.Domain

namespace CyberNetizen.Infrastructure

open Domain KeyedTable

/-- A row of `secret_references`. -/
structure SecretReference (Nonce Sealed : Type) where
  id : UUID
  key : String
  scopeType : ConfigScope
  scopeId : Option UUID
  provider : String
  locator : String
  encryptedValue : Option Sealed
  nonce : Option Nonce
  keyVersion : ℕ
  maskedHint : String
  integrityStatus : SecretIntegrityStatus
  createdAt : Datetime
  updatedAt : Datetime
  lastTestedAt : Option Datetime

abbrev Slot := String × ConfigScope × Option UUID

namespace SqlAlchemySecretStore

inductive SecretError
  | notFound (message : String)
  | operation (message : String)
  | integrity
  | unicode
  deriving DecidableEq

variable {Nonce Sealed : Type}

abbrev SecretRow (Nonce Sealed : Type) := SecretReference Nonce Sealed

abbrev SecretTable (Nonce Sealed : Type) :=
  Table (SecretReference.id : SecretRow Nonce Sealed → UUID)

/-- `AESGCM` with the master key. -/
abbrev AesGcm (Nonce Sealed : Type) := Aead.Cipher Nonce Sealed ByteArray ByteArray

def providerName : String := "aes_gcm"

def associatedData (secretId : UUID) (key : String) (scopeType : ConfigScope)
    (scopeId : Option UUID) (keyVersion : ℕ) : ByteArray :=
  let scope := (scopeId.map uuidString).getD "-"
  (s!"cnb-secret-v1|{uuidString secretId}|{key}|{scopeType.value}|{scope}|{keyVersion}").toUTF8

def maskSecret (plaintext : String) : String :=
  if 4 < plaintext.length then
    "••••" ++ String.ofList (plaintext.toList.drop (plaintext.length - 4))
  else "••••"

variable (cipher : AesGcm Nonce Sealed)

section rows

def slot (row : SecretRow Nonce Sealed) : Slot := (row.key, row.scopeType, row.scopeId)

def rowData (row : SecretRow Nonce Sealed) : ByteArray :=
  associatedData row.id row.key row.scopeType row.scopeId row.keyVersion

def encryptRow (plaintext : String) (nonce : Nonce) (now : Datetime) :
    Update (SecretReference.id : SecretRow Nonce Sealed → UUID) where
  toFun row :=
    let row := { row with provider := providerName, keyVersion := row.keyVersion + 1 }
    { row with
      encryptedValue := some (cipher.encrypt nonce plaintext.toUTF8 (rowData row))
      nonce := some nonce
      maskedHint := maskSecret plaintext
      integrityStatus := .untested
      lastTestedAt := none
      updatedAt := now }
  key_eq _ := rfl

def decryptRow (row : SecretRow Nonce Sealed) : Except SecretError String :=
  if row.provider ≠ providerName then .error (.operation "当前密钥引用无法由自托管存储读取")
  else
    match row.encryptedValue, row.nonce with
    | some encrypted, some nonce =>
      match cipher.decrypt nonce encrypted (rowData row) with
      | none => .error (.operation "密钥完整性校验失败，请轮换后再使用")
      | some bytes =>
        match String.fromUTF8? bytes with
        | none => .error .unicode
        | some plaintext => .ok plaintext
    | _, _ => .error (.operation "当前密钥引用无法由自托管存储读取")

def metadata (row : SecretRow Nonce Sealed) : SecretMetadata where
  id := row.id
  key := row.key
  scopeType := row.scopeType
  scopeId := row.scopeId
  provider := row.provider
  maskedHint := row.maskedHint
  integrityStatus := row.integrityStatus
  createdAt := row.createdAt
  updatedAt := row.updatedAt
  lastTestedAt := row.lastTestedAt

/-- The row of a new secret before its first encryption. -/
def newRow (id : UUID) (slot : Slot) (now : Datetime) : SecretRow Nonce Sealed where
  id := id
  key := slot.1
  scopeType := slot.2.1
  scopeId := slot.2.2
  provider := providerName
  locator := s!"database://secret_references/{uuidString id}"
  encryptedValue := none
  nonce := none
  keyVersion := 0
  maskedHint := "••••"
  integrityStatus := .untested
  createdAt := now
  updatedAt := now
  lastTestedAt := none

end rows

section operations

variable (s : SecretTable Nonce Sealed)

/-- The row that `set_secret` locks. -/
def rowOfSlot (slot : Slot) : Option (SecretRow Nonce Sealed) :=
  s.rows.find? fun row ↦ SqlAlchemySecretStore.slot row = slot

/-- `set_secret` with the row that it has found and locked. -/
def overwrite (row : SecretRow Nonce Sealed) (plaintext : String) (nonce : Nonce) (now : Datetime) :
    SecretMetadata × SecretTable Nonce Sealed :=
  let f := encryptRow cipher plaintext nonce now
  (metadata (f row), s.updateWhere (fun x ↦ x.id = row.id) f)

/-- `set_secret` when it has found no row: the table is unique in the identifier and in the slot. -/
def insertSecret (slot : Slot) (plaintext : String) (id : UUID) (nonce : Nonce) (now : Datetime) :
    Except SecretError (SecretMetadata × SecretTable Nonce Sealed) :=
  let row := encryptRow cipher plaintext nonce now (newRow id slot now)
  if (rowOfSlot s slot).isSome then .error .integrity
  else
    match s.insert? row with
    | none => .error .integrity
    | some s => .ok (metadata row, s)

def lockedRow (secretId : UUID) : Except SecretError (SecretRow Nonce Sealed) :=
  match s.find? secretId with
  | none => .error (.notFound s!"密钥引用不存在：{uuidString secretId}")
  | some row => .ok row

def rotateSecret (secretId : UUID) (plaintext : String) (nonce : Nonce) (now : Datetime) :
    Except SecretError (SecretMetadata × SecretTable Nonce Sealed) :=
  match lockedRow s secretId with
  | .error e => .error e
  | .ok row => .ok (overwrite cipher s row plaintext nonce now)

def tested (row : SecretRow Nonce Sealed) (now : Datetime) :
    Except SecretError (Update (SecretReference.id : SecretRow Nonce Sealed → UUID)) :=
  let f (status : SecretIntegrityStatus) :
      Update (SecretReference.id : SecretRow Nonce Sealed → UUID) :=
    { toFun := fun row ↦
        { row with integrityStatus := status, lastTestedAt := some now, updatedAt := now }
      key_eq := fun _ ↦ rfl }
  match decryptRow cipher row with
  | .ok _ => .ok (f .valid)
  | .error (.operation _) => .ok (f .invalid)
  | .error e => .error e

def testSecret (secretId : UUID) (now : Datetime) :
    Except SecretError (SecretMetadata × SecretTable Nonce Sealed) :=
  match lockedRow s secretId with
  | .error e => .error e
  | .ok row =>
    match tested cipher row now with
    | .error e => .error e
    | .ok f => .ok (metadata (f row), s.updateWhere (fun x ↦ x.id = secretId) f)

def clearSecret (secretId : UUID) : Except SecretError (SecretTable Nonce Sealed) :=
  match lockedRow s secretId with
  | .error e => .error e
  | .ok row => .ok (s.deleteWhere fun x ↦ x.id = row.id)

end operations

section resolution

variable (key : String) (tenantId : UUID) (agentId channelId userId : Option UUID)

/-- `_select_effective_record`: of two rows with one slot the later one counts. -/
def selectEffectiveRecord (records : List (SecretRow Nonce Sealed)) :
    Option (SecretRow Nonce Sealed) :=
  let byScope (scopeType : ConfigScope) (scopeId : Option UUID) :=
    records.reverse.find? fun row ↦ slot row = (key, scopeType, scopeId)
  [(ConfigScope.tenant, some tenantId), (.agent, agentId), (.channel, channelId), (.user, userId)].foldl
    (fun selected scope ↦
      match scope with
      | (_, none) => selected
      | (scopeType, some scopeId) => byScope scopeType (some scopeId) <|> selected)
    (byScope .system none)

/-- `resolve_secret` on the rows in the order in which the database returns them. -/
def resolveSecret (rows : List (SecretRow Nonce Sealed)) : Except SecretError (Option String) :=
  match selectEffectiveRecord key tenantId agentId channelId userId
      (rows.filter fun row ↦ row.key = key) with
  | none => .ok none
  | some row => (decryptRow cipher row).map some

end resolution

end SqlAlchemySecretStore

end CyberNetizen.Infrastructure
