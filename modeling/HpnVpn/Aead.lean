import HpnVpn.AuthEnc
import HpnVpn.Types

/-! AES-256-GCM as the crate uses it.  The cipher is a parameter; each call of its sealing function is returned as a
record. -/
namespace HpnVpn
open Wire AuthEnc

def tagSize : Nat := 16
def nonceSize : Nat := 12
def keySize : Nat := 32

abbrev Aes256Gcm := Cipher (Block keySize) (Block nonceSize) tagSize

abbrev SealCall := AuthEnc.SealCall (Block keySize) (Block nonceSize)

def buildNonce (noncePrefix : Block 4) (counter : Counter) : Block nonceSize :=
  noncePrefix.append (be64 counter)

theorem buildNonce_injective {p p' : Block 4} {c c' : Counter} (h : buildNonce p c = buildNonce p' c') :
    p = p' ∧ c = c' := by
  obtain ⟨hp, hc⟩ := Block.append_injective h
  exact ⟨hp, be64_injective hc⟩

/-- A key with its schedule computed; setting one up never fails for 32 bytes. -/
structure PrecomputedKey where
  key : Block keySize
deriving DecidableEq

namespace PrecomputedKey

def new (key : Block keySize) : PrecomputedKey := ⟨key⟩

/-- Encrypt `plaintext` at the front of a buffer of `bufferLen` bytes and put the tag after it. -/
def encryptInPlace (A : Aes256Gcm) (k : PrecomputedKey) (nonce : Block nonceSize) (aad : Bytes)
    (bufferLen : Nat) (plaintext : Bytes) : List SealCall × Except CryptoError Bytes :=
  if bufferLen < plaintext.length + tagSize then
    ([], .error (.bufferTooSmall (plaintext.length + tagSize) bufferLen))
  else ([⟨k.key, nonce, aad, plaintext⟩], okOr (A.encrypt k.key nonce aad plaintext) .encryption)

def decryptInPlace (A : Aes256Gcm) (k : PrecomputedKey) (nonce : Block nonceSize) (aad buffer : Bytes) :
    Except CryptoError Bytes := do
  ensure (tagSize ≤ buffer.length) .decryption
  okOr (A.decrypt k.key nonce aad buffer) .decryption

theorem decryptInPlace_eq_ok {A : Aes256Gcm} {k : PrecomputedKey} {nonce : Block nonceSize}
    {aad buffer p : Bytes} :
    k.decryptInPlace A nonce aad buffer = .ok p ↔ A.decrypt k.key nonce aad buffer = some p := by
  rw [decryptInPlace, bind_ok_iff]
  constructor
  · rintro ⟨-, -, h⟩
    exact okOr_eq_ok.mp h
  · intro h
    have hlen := A.decrypt_length h
    exact ⟨(), ensure_of (by omega), okOr_eq_ok.mpr h⟩

end PrecomputedKey

structure SessionKeys where
  sendKey : Block keySize
  recvKey : Block keySize
  sendNoncePrefix : Block 4
  recvNoncePrefix : Block 4
deriving DecidableEq

def SessionKeys.swap (k : SessionKeys) : SessionKeys where
  sendKey := k.recvKey
  recvKey := k.sendKey
  sendNoncePrefix := k.recvNoncePrefix
  recvNoncePrefix := k.sendNoncePrefix

@[simp] theorem SessionKeys.swap_swap (k : SessionKeys) : k.swap.swap = k := rfl

end HpnVpn
