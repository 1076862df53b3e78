import HpnVpn.Aead
import HpnVpn.Keys
import HpnVpn.PublicKey

/-! The cryptographic layer over the primitives of third-party crates, one record of parameters with their documented
laws; randomness is an argument. -/
namespace HpnVpn
open Wire PublicKey

/-- What `x25519-dalek`, `pqcrypto` and `ring` provide.  HKDF never refuses the few dozen bytes asked for. -/
structure Primitives where
  x25519 : KeyAgreement (Block 32) (Block 32) (Block 32)
  mlKem : (l : SecurityLevel) → Kem (Block 64) (Block 32) (Block l.mlkemSecretKeySize)
    (Block l.mlkemPublicKeySize) (Block l.mlkemCiphertextSize) (Block 32)
  mlDsa : (l : SecurityLevel) → Signature (Block 32) (Block 32) (Block l.mldsaSecretKeySize)
    (Block l.mldsaPublicKeySize) (Block l.mldsaSignatureSize)
  aes256Gcm : Aes256Gcm
  hkdfSha512 : (salt ikm info : Bytes) → (n : Nat) → Block n
  hkdfSha256 : (salt ikm info : Bytes) → (n : Nat) → Block n
  hmacSha256 : Block 32 → Bytes → Block 32
  sha256 : Bytes → Block 32
  /-- A public key made from a secret is not of low order. -/
  x25519_contributory : ∀ a b, x25519.agree a (x25519.publicKey b) ≠ Block.replicate 32 0

/-- Computable primitives that satisfy the laws; signatures and MACs show the `mark` of what they cover. -/
def Primitives.transparent (mark : Bytes → UInt8) : Primitives where
  x25519 := .const (Block.replicate 32 1) (Block.replicate 32 1)
  mlKem l := .transparent default default (fun coins => Block.fit _ coins.bytes)
    fun ct => Block.fit _ ct.bytes
  mlDsa l := .ofDigest default default fun m => Block.replicate _ (mark m)
  aes256Gcm := AuthEnc.Cipher.labelled (Block keySize) nonceSize
  hkdfSha512 _ ikm info n := Block.fit n (info.drop 19 ++ ikm.drop 32)
  hkdfSha256 _ ikm info n := Block.fit n (info ++ ikm.drop 32)
  hmacSha256 key m := Block.replicate 32 (mark (key.bytes ++ m))
  sha256 m := Block.fit 32 m
  x25519_contributory _ _ := show Block.replicate 32 1 ≠ Block.replicate 32 0 by decide

def ascii (text : String) : Bytes := text.toList.map fun c => UInt8.ofNat c.toNat

/-! ### Hybrid KEM -/

namespace HybridKem

structure KeypairCoins where
  x25519 : Block 32
  mlKem : Block 64

structure EncapsulateCoins where
  x25519 : Block 32
  mlKem : Block 32

def generateKeypairWithLevel (P : Primitives) (level : SecurityLevel) (coins : KeypairCoins) :
    HybridSecretKey × HybridPublicKey :=
  let (mlKemSk, mlKemPk) := (P.mlKem level).keypair coins.mlKem
  (⟨level, coins.x25519, mlKemSk⟩, ⟨level, P.x25519.publicKey coins.x25519, mlKemPk⟩)

def encapsulate (P : Primitives) (pk : HybridPublicKey) (coins : EncapsulateCoins) :
    Except CryptoError (HandshakeSecret × HybridCiphertext) := do
  let x25519Shared := P.x25519.agree coins.x25519 pk.x25519
  -- all zeros indicates a low-order point
  ensure (x25519Shared ≠ Block.replicate 32 0) .invalidPublicKey
  let (mlKemShared, mlKemCt) := (P.mlKem pk.securityLevel).encapsulate pk.mlKem coins.mlKem
  return (.combine x25519Shared mlKemShared, ⟨pk.securityLevel, P.x25519.publicKey coins.x25519, mlKemCt⟩)

def decapsulate (P : Primitives) (sk : HybridSecretKey) (ct : HybridCiphertext) : Except CryptoError HandshakeSecret :=
  if h : ct.securityLevel = sk.securityLevel then do
    let x25519Shared := P.x25519.agree sk.x25519 ct.x25519
    ensure (x25519Shared ≠ Block.replicate 32 0) .invalidPublicKey
    return .combine x25519Shared ((P.mlKem sk.securityLevel).decapsulate sk.mlKem (h ▸ ct.mlKem))
  else .error .decapsulation

variable {P : Primitives}

theorem decapsulate_of_level_eq {level : SecurityLevel} {x y : Block 32}
    {mlKemSk : Block level.mlkemSecretKeySize} {mlKemCt : Block level.mlkemCiphertextSize}
    (hnonzero : P.x25519.agree x y ≠ Block.replicate 32 0) :
    decapsulate P ⟨level, x, mlKemSk⟩ ⟨level, y, mlKemCt⟩ =
      .ok (.combine (P.x25519.agree x y) ((P.mlKem level).decapsulate mlKemSk mlKemCt)) := by
  exact (dif_pos rfl).trans (bind_ok_iff.mpr ⟨(), ensure_of hnonzero, rfl⟩)

theorem encapsulate_isOk {pk : HybridPublicKey} {coins : EncapsulateCoins} :
    (∃ secret ct, encapsulate P pk coins = .ok (secret, ct)) ↔
      P.x25519.agree coins.x25519 pk.x25519 ≠ Block.replicate 32 0 := by
  constructor
  · rintro ⟨secret, ct, h⟩
    obtain ⟨_, hnonzero, -⟩ := bind_ok_iff.mp h
    exact ensure_eq_ok.mp hnonzero
  · intro hnonzero
    exact ⟨_, _, bind_ok_iff.mpr ⟨(), ensure_of hnonzero, rfl⟩⟩

theorem encapsulate_level {pk : HybridPublicKey} {coins : EncapsulateCoins} {secret : HandshakeSecret}
    {ct : HybridCiphertext} (h : encapsulate P pk coins = .ok (secret, ct)) :
    ct.securityLevel = pk.securityLevel := by
  obtain ⟨_, -, heq⟩ := bind_ok_iff.mp h
  cases Except.ok.inj heq
  rfl

theorem decapsulate_encapsulate (level : SecurityLevel) (seed : KeypairCoins) (coins : EncapsulateCoins) :
    ∃ secret ct,
      encapsulate P (generateKeypairWithLevel P level seed).2 coins = .ok (secret, ct) ∧
      ct.securityLevel = level ∧
      decapsulate P (generateKeypairWithLevel P level seed).1 ct = .ok secret := by
  have hnonzero := P.x25519_contributory coins.x25519 seed.x25519
  have hdec : P.x25519.agree seed.x25519 (P.x25519.publicKey coins.x25519) ≠ Block.replicate 32 0 :=
    P.x25519_contributory seed.x25519 coins.x25519
  let sent := (P.mlKem level).encapsulate ((P.mlKem level).keypair seed.mlKem).2 coins.mlKem
  refine ⟨.combine (P.x25519.agree coins.x25519 (P.x25519.publicKey seed.x25519)) sent.1,
    ⟨level, P.x25519.publicKey coins.x25519, sent.2⟩, ?_, rfl, ?_⟩
  · exact bind_ok_iff.mpr ⟨(), ensure_of hnonzero, rfl⟩
  · refine (decapsulate_of_level_eq hdec).trans ?_
    rw [P.x25519.agree_comm seed.x25519 coins.x25519]
    exact congrArg (fun m => Except.ok (HandshakeSecret.combine _ m))
      ((P.mlKem level).decapsulate_encapsulate seed.mlKem coins.mlKem)

end HybridKem

/-! ### ML-DSA signatures -/

structure MlDsaPublicKey where
  bytes : Bytes
  size_eq : bytes.length = SecurityLevel.level3.mldsaPublicKeySize ∨
    bytes.length = SecurityLevel.level5.mldsaPublicKeySize
deriving DecidableEq

def MlDsaPublicKey.fromBytes (bytes : Bytes) : Except CryptoError MlDsaPublicKey :=
  if h : bytes.length = SecurityLevel.level3.mldsaPublicKeySize ∨
      bytes.length = SecurityLevel.level5.mldsaPublicKeySize then .ok ⟨bytes, h⟩
  else .error (.invalidKeyLength SecurityLevel.level3.mldsaPublicKeySize bytes.length)

@[simp] theorem MlDsaPublicKey.fromBytes_bytes (pk : MlDsaPublicKey) : fromBytes pk.bytes = .ok pk :=
  dif_pos pk.size_eq

/-- A signing key; its size is checked when it is used. -/
structure MlDsaSecretKey where
  bytes : Bytes
deriving DecidableEq

structure MlDsaSignature where
  securityLevel : SecurityLevel
  bytes : Block securityLevel.mldsaSignatureSize
deriving DecidableEq

structure MlDsaKeypair where
  publicKey : MlDsaPublicKey
  secretKey : MlDsaSecretKey
  securityLevel : SecurityLevel
deriving DecidableEq

namespace MlDsaSignature

def fromBytesWithLevel (bytes : Bytes) (level : SecurityLevel) : Option MlDsaSignature :=
  (Block.ofBytes level.mldsaSignatureSize bytes).map fun block => ⟨level, block⟩

@[simp] theorem fromBytesWithLevel_bytes (s : MlDsaSignature) :
    fromBytesWithLevel s.bytes.bytes s.securityLevel = some s := by
  simp [fromBytesWithLevel]

end MlDsaSignature

namespace MlDsaKeypair

def generateWithLevel (P : Primitives) (level : SecurityLevel) (seed : Block 32) : MlDsaKeypair where
  publicKey := ⟨((P.mlDsa level).keypair seed).2.bytes, by cases level <;> simp⟩
  secretKey := ⟨((P.mlDsa level).keypair seed).1.bytes⟩
  securityLevel := level

end MlDsaKeypair

namespace MlDsa

def sign (P : Primitives) (sk : MlDsaSecretKey) (message : Bytes) (level : SecurityLevel)
    (coins : Block 32) : Except CryptoError MlDsaSignature := do
  let sk ← okOr (Block.ofBytes level.mldsaSecretKeySize sk.bytes) .signatureGeneration
  return ⟨level, (P.mlDsa level).sign sk message coins⟩

def verify (P : Primitives) (pk : MlDsaPublicKey) (message : Bytes) (signature : MlDsaSignature)
    (level : SecurityLevel) : Except CryptoError Unit := do
  let pk ← okOr (Block.ofBytes level.mldsaPublicKeySize pk.bytes) .signatureVerification
  let sig ← okOr (Block.ofBytes level.mldsaSignatureSize signature.bytes.bytes) .signatureVerification
  ensure ((P.mlDsa level).verify pk message sig = true) .signatureVerification

variable {P : Primitives}

theorem sign_generated (level : SecurityLevel) (seed : Block 32) (message : Bytes) (coins : Block 32) :
    sign P (MlDsaKeypair.generateWithLevel P level seed).secretKey message level coins =
      .ok ⟨level, (P.mlDsa level).sign ((P.mlDsa level).keypair seed).1 message coins⟩ := by
  have hsk : Block.ofBytes level.mldsaSecretKeySize ((P.mlDsa level).keypair seed).1.bytes =
      some ((P.mlDsa level).keypair seed).1 := Block.ofBytes_bytes _
  simp only [sign, MlDsaKeypair.generateWithLevel, hsk, okOr_some, ok_bind]
  rfl

variable {message : Bytes} {level : SecurityLevel}

theorem sign_isOk {sk : MlDsaSecretKey} {coins : Block 32} :
    (∃ sig, sign P sk message level coins = .ok sig) ↔ sk.bytes.length = level.mldsaSecretKeySize := by
  constructor
  · rintro ⟨sig, hsig⟩
    obtain ⟨block, hblock, -⟩ := bind_ok_iff.mp hsig
    rw [Block.ofBytes_eq_some.mp (okOr_eq_ok.mp hblock), Block.length_bytes]
  · intro hlength
    refine ⟨_, bind_ok_iff.mpr ⟨⟨sk.bytes, hlength⟩, ?_, rfl⟩⟩
    exact okOr_eq_ok.mpr (dif_pos hlength)

theorem sign_level {sk : MlDsaSecretKey} {coins : Block 32}
    {sig : MlDsaSignature} (h : sign P sk message level coins = .ok sig) : sig.securityLevel = level := by
  obtain ⟨_, -, heq⟩ := bind_ok_iff.mp h
  cases heq
  rfl

theorem verify_eq_ok {pk : MlDsaPublicKey} {sig : MlDsaSignature} :
    verify P pk message sig level = .ok () ↔
      ∃ pkBlock sigBlock, pk.bytes = pkBlock.bytes ∧ sig.bytes.bytes = sigBlock.bytes ∧
        (P.mlDsa level).verify pkBlock message sigBlock = true := by
  simp only [verify, bind_ok_iff, okOr_eq_ok, ensure_eq_ok, Block.ofBytes_eq_some]
  constructor
  · rintro ⟨pkBlock, hpk, sigBlock, hsig, hverify⟩
    exact ⟨pkBlock, sigBlock, hpk, hsig, hverify⟩
  · rintro ⟨pkBlock, sigBlock, hpk, hsig, hverify⟩
    exact ⟨pkBlock, hpk, sigBlock, hsig, hverify⟩

theorem verify_sign (level : SecurityLevel) (seed : Block 32) (message : Bytes) (coins : Block 32) :
    ∃ sig, sign P (MlDsaKeypair.generateWithLevel P level seed).secretKey message level coins = .ok sig ∧
      sig.securityLevel = level ∧
      verify P (MlDsaKeypair.generateWithLevel P level seed).publicKey message sig level = .ok () :=
  ⟨_, sign_generated level seed message coins, rfl,
    verify_eq_ok.mpr ⟨_, _, rfl, rfl, (P.mlDsa level).verify_sign seed message coins⟩⟩

end MlDsa

def MlDsaKeypair.sign (P : Primitives) (kp : MlDsaKeypair) (message : Bytes) (coins : Block 32) :
    Except CryptoError MlDsaSignature :=
  MlDsa.sign P kp.secretKey message kp.securityLevel coins

/-! ### Key derivation -/

def handshakeSalt : Bytes := ascii "HPN-HYBRID-KEM-v1"
def trafficKeyInfo : Bytes := ascii "HPN-TRAFFIC-KEYS-v1"
def sendKeyInfo : Bytes := ascii "send-key"
def recvKeyInfo : Bytes := ascii "recv-key"
def sendNoncePrefixInfo : Bytes := ascii "send-nonce-prefix"
def recvNoncePrefixInfo : Bytes := ascii "recv-nonce-prefix"

/-- Traffic keys bound to the session id and the server's time; the client's view of them. -/
def deriveSessionKeysWithContext (P : Primitives) (secret : HandshakeSecret) (sessionId : SessionId)
    (timestamp : UInt64) : SessionKeys :=
  let context := (be64 sessionId).bytes ++ (be64 timestamp).bytes
  let expand (label : Bytes) (n : Nat) : Block n :=
    P.hkdfSha512 handshakeSalt secret.bytes (trafficKeyInfo ++ context ++ label) n
  { sendKey := expand sendKeyInfo 32
    recvKey := expand recvKeyInfo 32
    sendNoncePrefix := expand sendNoncePrefixInfo 4
    recvNoncePrefix := expand recvNoncePrefixInfo 4 }

def hkdfExpand (P : Primitives) (ikm info : Bytes) (n : Nat) : Block n :=
  P.hkdfSha256 (ascii "HPN-IDENTITY-HIDING") ikm info n

end HpnVpn
