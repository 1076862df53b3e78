import HpnVpn.Types

/-! Security levels and hybrid values: an X25519 half of 32 bytes next to an ML-KEM half whose size the level fixes,
checked by the decoders. -/
namespace HpnVpn
open Wire

inductive SecurityLevel
  | level3
  | level5
deriving DecidableEq

namespace SecurityLevel

def asU8 : SecurityLevel → UInt8
  | level3 => 3
  | level5 => 5

def fromU8 (value : UInt8) : Option SecurityLevel :=
  match value.toNat with
  | 3 => some level3
  | 5 => some level5
  | _ => none

@[simp] theorem fromU8_asU8 (l : SecurityLevel) : fromU8 l.asU8 = some l := by
  cases l <;> rfl

theorem asU8_injective : Function.Injective asU8 := by
  intro a b h
  have hsome : some a = some b := by rw [← fromU8_asU8 a, h, fromU8_asU8]
  exact Option.some.inj hsome

def mlkemPublicKeySize : SecurityLevel → Nat
  | level3 => 1184
  | level5 => 1568

def mlkemSecretKeySize : SecurityLevel → Nat
  | level3 => 2400
  | level5 => 3168

def mlkemCiphertextSize : SecurityLevel → Nat
  | level3 => 1088
  | level5 => 1568

def mldsaPublicKeySize : SecurityLevel → Nat
  | level3 => 1952
  | level5 => 2592

def mldsaSecretKeySize : SecurityLevel → Nat
  | level3 => 4032
  | level5 => 4896

def mldsaSignatureSize : SecurityLevel → Nat
  | level3 => 3309
  | level5 => 4627

def debug : SecurityLevel → String
  | level3 => "Level3"
  | level5 => "Level5"

end SecurityLevel

/-- An X25519 value and an ML-KEM value of the size that `size` gives the level. -/
structure HybridPair (size : SecurityLevel → Nat) where
  securityLevel : SecurityLevel
  x25519 : Block 32
  mlKem : Block (size securityLevel)
deriving DecidableEq

namespace HybridPair
variable {size : SecurityLevel → Nat}

def sizeForLevel (size : SecurityLevel → Nat) (level : SecurityLevel) : Nat := 32 + size level

variable (p : HybridPair size) (rest : Bytes)

def toBytesRaw : Bytes := p.x25519.bytes ++ p.mlKem.bytes

def toBytes : Bytes := p.securityLevel.asU8 :: p.toBytesRaw

/-- Read the two halves at a known level; bytes after them are ignored. -/
def fromBytesWithLevel (bytes : Bytes) (level : SecurityLevel) :
    Except CryptoError (HybridPair size) := do
  let short := CryptoError.invalidKeyLength (sizeForLevel size level) bytes.length
  let (x25519, rest) ← takeBlock short 32 bytes
  let (mlKem, _) ← takeBlock short (size level) rest
  return ⟨level, x25519, mlKem⟩

def fromBytes (bytes : Bytes) : Except CryptoError (HybridPair size) :=
  match bytes with
  | [] => .error (.invalidKeyLength 1 0)
  | levelByte :: rest => do
    let level ← okOr (SecurityLevel.fromU8 levelByte) .invalidPublicKey
    let short := CryptoError.invalidKeyLength (1 + sizeForLevel size level) (1 + rest.length)
    let (x25519, rest) ← takeBlock short 32 rest
    let (mlKem, _) ← takeBlock short (size level) rest
    return ⟨level, x25519, mlKem⟩

@[simp] theorem toBytesRaw_length : p.toBytesRaw.length = sizeForLevel size p.securityLevel := by
  simp [toBytesRaw, sizeForLevel]

@[simp] theorem fromBytesWithLevel_toBytesRaw :
    fromBytesWithLevel (p.toBytesRaw ++ rest) p.securityLevel = .ok p := by
  simp [fromBytesWithLevel, toBytesRaw]

@[simp] theorem fromBytes_toBytes : fromBytes (p.toBytes ++ rest) = .ok p := by
  simp [fromBytes, toBytes, toBytesRaw]

theorem toBytes_append_inj {p q : HybridPair size} {x y : Bytes} (h : p.toBytes ++ x = q.toBytes ++ y) :
    p = q ∧ x = y := by
  obtain ⟨level, px, pm⟩ := p
  obtain ⟨level', qx, qm⟩ := q
  simp only [toBytes, toBytesRaw, List.cons_append, List.append_assoc, List.cons.injEq] at h
  obtain ⟨hlevel, h⟩ := h
  obtain rfl := SecurityLevel.asU8_injective hlevel
  obtain ⟨rfl, htail⟩ := block_append_inj h
  obtain ⟨rfl, rfl⟩ := block_append_inj htail
  exact ⟨rfl, rfl⟩

end HybridPair

abbrev HybridPublicKey := HybridPair SecurityLevel.mlkemPublicKeySize

abbrev HybridSecretKey := HybridPair SecurityLevel.mlkemSecretKeySize

/-- The X25519 half of a ciphertext is the sender's ephemeral public key. -/
abbrev HybridCiphertext := HybridPair SecurityLevel.mlkemCiphertextSize

abbrev HandshakeSecret := Block (32 + 32)

def HandshakeSecret.combine (x25519 mlKem : Block 32) : HandshakeSecret := x25519.append mlKem

end HpnVpn
