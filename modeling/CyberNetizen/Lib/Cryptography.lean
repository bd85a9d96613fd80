import Mathlib.Data.List.Basic

/-! # Authenticated encryption with associated data, as an ideal -/

namespace Aead

universe u v w x

structure Cipher (Nonce : Type u) (Sealed : Type v) (Plain : Type w) (Data : Type x) where
  encrypt : Nonce → Plain → Data → Sealed
  decrypt : Nonce → Sealed → Data → Option Plain

variable {Nonce : Type u} {Sealed : Type v} {Plain : Type w} {Data : Type x}
  {cipher : Cipher Nonce Sealed Plain Data}

/-- What was encrypted decrypts under the data it was made with, and under no other. -/
structure Cipher.Ideal (cipher : Cipher Nonce Sealed Plain Data) : Prop where
  correct : ∀ nonce plain data,
    cipher.decrypt nonce (cipher.encrypt nonce plain data) data = some plain
  binding : ∀ nonce plain data data' plain',
    cipher.decrypt nonce (cipher.encrypt nonce plain data) data' = some plain' → data' = data

def Genuine (cipher : Cipher Nonce Sealed Plain Data) (made : List (Data × Plain)) (nonce : Nonce)
    (envelope : Sealed) : Prop :=
  ∀ data plain, cipher.decrypt nonce envelope data = some plain → (data, plain) ∈ made

theorem Genuine.mono {made made' : List (Data × Plain)} {nonce : Nonce} {envelope : Sealed}
    (h : Genuine cipher made nonce envelope) (hsub : made ⊆ made') :
    Genuine cipher made' nonce envelope :=
  fun data plain hdecrypt ↦ hsub (h data plain hdecrypt)

theorem Cipher.Ideal.genuine (h : cipher.Ideal) {made : List (Data × Plain)} {nonce : Nonce}
    {plain : Plain} {data : Data} (hmade : (data, plain) ∈ made) :
    Genuine cipher made nonce (cipher.encrypt nonce plain data) := by
  intro data' plain' hdecrypt
  obtain rfl := h.binding nonce plain data data' plain' hdecrypt
  rw [h.correct] at hdecrypt
  obtain rfl := Option.some.inj hdecrypt
  exact hmade

end Aead

/-! # Signatures, as an ideal -/

namespace Signatures

abbrev Bytes := List UInt8

/-- Keys, and the signatures that they make and accept. -/
structure Scheme where
  publicKey : Bytes → Bytes
  sign : Bytes → Bytes → Bytes
  verify : Bytes → Bytes → Bytes → Bool

variable {scheme : Scheme}

/-- A key accepts what its holder signs. -/
structure Scheme.Correct (scheme : Scheme) : Prop where
  accepts : ∀ seed payload,
    scheme.verify (scheme.publicKey seed) payload (scheme.sign seed payload) = true
  length : ∀ seed, seed.length = 32 → (scheme.publicKey seed).length = 32

def Genuine (scheme : Scheme) (signed : Bytes → Prop) (publicKey value : Bytes) : Prop :=
  ∀ payload, scheme.verify publicKey payload value = true → signed payload

end Signatures
