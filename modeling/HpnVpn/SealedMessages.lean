import HpnVpn.Messages

/-! Messages sealed to the server's KEM key: credentials, and whole inits.  Both authenticate the ciphertext of one
encapsulation and nothing else around it. -/
namespace HpnVpn
open Wire AuthEnc

/-! ### Sealing to a KEM key -/

/-- What a sealed message is for: the domain of its key, and the words its refusals start with. -/
structure KemUse where
  domain : Bytes
  name : String

namespace KemUse

def key (P : Primitives) (u : KemUse) (secret : HandshakeSecret) : Block keySize :=
  hkdfExpand P secret.bytes u.domain keySize

/-- The nonce is the start of the ciphertext's hash; each key is used once. -/
def nonce (P : Primitives) (ciphertext : HybridCiphertext) : Block nonceSize :=
  ⟨(P.sha256 ciphertext.toBytes).bytes.take nonceSize, by
    rw [List.length_take, Block.length_bytes]
    rfl⟩

/-- Encapsulate to `pk` and seal `plaintext` under the derived key; the sealing call is returned too. -/
def sealTo (P : Primitives) (u : KemUse) (pk : HybridPublicKey) (aad : HybridCiphertext → Bytes)
    (plaintext : Bytes) (coins : HybridKem.EncapsulateCoins) :
    Except ProtocolError (SealCall × HybridCiphertext × Bytes) := do
  let (secret, ciphertext) ← (HybridKem.encapsulate P pk coins).mapError fun e =>
    .handshakeFailed s!"{u.name} encapsulation failed: {e.debug}"
  let call : SealCall := ⟨u.key P secret, nonce P ciphertext, aad ciphertext, plaintext⟩
  -- the buffer is made as long as the tag needs, so only the cipher itself can refuse
  let payload ← okOr (call.output P.aes256Gcm)
    (.handshakeFailed s!"{u.name} encryption failed: {CryptoError.encryption.debug}")
  return (call, ciphertext, payload)

def openFrom (P : Primitives) (u : KemUse) (sk : HybridSecretKey) (ciphertext : HybridCiphertext)
    (aad payload : Bytes) : Except ProtocolError Bytes := do
  let secret ← (HybridKem.decapsulate P sk ciphertext).mapError fun e =>
    ProtocolError.handshakeFailed s!"{u.name} decapsulation failed: {e.debug}"
  ((PrecomputedKey.new (u.key P secret)).decryptInPlace P.aes256Gcm (nonce P ciphertext) aad payload).mapError
    fun e => .handshakeFailed s!"{u.name} decryption failed: {e.debug}"

variable {P : Primitives} {u : KemUse}

variable {plaintext payload : Bytes} {ciphertext : HybridCiphertext}

theorem sealTo_eq_ok {pk : HybridPublicKey} {aad : HybridCiphertext → Bytes}
    {coins : HybridKem.EncapsulateCoins} {call : SealCall} :
    u.sealTo P pk aad plaintext coins = .ok (call, ciphertext, payload) ↔
      ∃ secret, HybridKem.encapsulate P pk coins = .ok (secret, ciphertext) ∧
        call = ⟨u.key P secret, nonce P ciphertext, aad ciphertext, plaintext⟩ ∧
        call.output P.aes256Gcm = some payload := by
  simp only [sealTo, bind_ok_iff, mapError_ok_iff, okOr_eq_ok]
  constructor
  · rintro ⟨⟨secret, ct⟩, henc, sealed, hsealed, heq⟩
    obtain ⟨rfl, hrest⟩ := Prod.mk.inj (Except.ok.inj heq)
    obtain ⟨rfl, rfl⟩ := Prod.mk.inj hrest
    exact ⟨secret, henc, rfl, hsealed⟩
  · rintro ⟨secret, henc, rfl, hsealed⟩
    exact ⟨(secret, ciphertext), henc, payload, hsealed, rfl⟩

theorem openFrom_eq_ok {sk : HybridSecretKey}
    {aad : Bytes} :
    u.openFrom P sk ciphertext aad payload = .ok plaintext ↔
      ∃ secret, HybridKem.decapsulate P sk ciphertext = .ok secret ∧
        P.aes256Gcm.decrypt (u.key P secret) (nonce P ciphertext) aad payload = some plaintext := by
  simp only [openFrom, bind_ok_iff, mapError_ok_iff, PrecomputedKey.decryptInPlace_eq_ok]
  rfl

theorem openFrom_sealTo {level : SecurityLevel} {seed : HybridKem.KeypairCoins}
    {aad : HybridCiphertext → Bytes} {coins : HybridKem.EncapsulateCoins}
    {call : SealCall}
    (h : u.sealTo P (HybridKem.generateKeypairWithLevel P level seed).2 aad plaintext coins =
      .ok (call, ciphertext, payload)) :
    u.openFrom P (HybridKem.generateKeypairWithLevel P level seed).1 ciphertext (aad ciphertext) payload =
      .ok plaintext := by
  obtain ⟨secret, henc, rfl, hsealed⟩ := sealTo_eq_ok.mp h
  obtain ⟨secret', ct, henc', -, hdec⟩ := HybridKem.decapsulate_encapsulate (P := P) level seed coins
  obtain ⟨rfl, rfl⟩ := Prod.mk.inj (Except.ok.inj (henc'.symm.trans henc))
  exact openFrom_eq_ok.mpr ⟨secret', hdec, P.aes256Gcm.decrypt_encrypt hsealed⟩

end KemUse

/-! ### Credentials -/

def maxUsernameLen : Nat := 64
def maxPasswordLen : Nat := 256

structure DecryptedCredentials where
  username : String
  password : String
deriving DecidableEq

/-- Split `username\0password` at its first zero byte. -/
def DecryptedCredentials.fromPlaintext (plaintext : Bytes) : Except ProtocolError DecryptedCredentials := do
  let nullPos ← okOr (plaintext.findIdx? (· == 0)) (.handshakeFailed "invalid credential format: missing separator")
  let username ← okOr (fromUtf8 (plaintext.take nullPos)) (.handshakeFailed "invalid credential format: bad username")
  let password ← okOr (fromUtf8 (plaintext.drop (nullPos + 1)))
    (.handshakeFailed "invalid credential format: bad password")
  ensure ((utf8 username).length ≤ maxUsernameLen ∧ (utf8 password).length ≤ maxPasswordLen)
    (.handshakeFailed "invalid credential format: fields too long")
  return ⟨username, password⟩

namespace EncryptedCredentials

def use : KemUse := ⟨ascii "HPN-CREDENTIALS-V1", "credential"⟩

def encrypt (P : Primitives) (username password : String) (serverKemPk : HybridPublicKey)
    (coins : HybridKem.EncapsulateCoins) : Except ProtocolError (SealCall × EncryptedCredentials) := do
  let usernameLen := (utf8 username).length
  let passwordLen := (utf8 password).length
  ensure (usernameLen ≤ maxUsernameLen) (.invalidData s!"username too long: {usernameLen} (max {maxUsernameLen})")
  ensure (passwordLen ≤ maxPasswordLen) (.invalidData s!"password too long: {passwordLen} (max {maxPasswordLen})")
  let (call, ciphertext, payload) ← use.sealTo P serverKemPk HybridPair.toBytes
    (utf8 username ++ 0 :: utf8 password) coins
  return (call, ⟨ciphertext, payload⟩)

def decrypt (P : Primitives) (c : EncryptedCredentials) (serverKemSk : HybridSecretKey) :
    Except ProtocolError DecryptedCredentials := do
  let plaintext ← use.openFrom P serverKemSk c.ciphertext c.ciphertext.toBytes c.encryptedPayload
  DecryptedCredentials.fromPlaintext plaintext

variable {P : Primitives}

/-- The associated data of a blob is its own KEM ciphertext, whatever init it is put in. -/
theorem encrypt_call {username password : String} {serverKemPk : HybridPublicKey}
    {coins : HybridKem.EncapsulateCoins} {call : SealCall} {c : EncryptedCredentials}
    (h : encrypt P username password serverKemPk coins = .ok (call, c)) :
    call.aad = c.ciphertext.toBytes ∧ call.output P.aes256Gcm = some c.encryptedPayload := by
  simp only [encrypt, bind_ok_iff] at h
  obtain ⟨-, -, -, -, ⟨call', ct, payload⟩, hsealed, heq⟩ := h
  obtain ⟨secret, -, rfl, hout⟩ := KemUse.sealTo_eq_ok.mp hsealed
  obtain ⟨rfl, rfl⟩ := Prod.mk.inj (Except.ok.inj heq)
  exact ⟨rfl, hout⟩

theorem decrypt_eq_ok {c : EncryptedCredentials} {serverKemSk : HybridSecretKey}
    {creds : DecryptedCredentials} :
    c.decrypt P serverKemSk = .ok creds ↔
      ∃ secret plaintext, HybridKem.decapsulate P serverKemSk c.ciphertext = .ok secret ∧
        P.aes256Gcm.decrypt (use.key P secret) (KemUse.nonce P c.ciphertext) c.ciphertext.toBytes
          c.encryptedPayload = some plaintext ∧
        DecryptedCredentials.fromPlaintext plaintext = .ok creds := by
  simp only [decrypt, bind_ok_iff, KemUse.openFrom_eq_ok]
  constructor
  · rintro ⟨plaintext, ⟨secret, hdec, hopen⟩, hparse⟩
    exact ⟨secret, plaintext, hdec, hopen, hparse⟩
  · rintro ⟨secret, plaintext, hdec, hopen, hparse⟩
    exact ⟨plaintext, ⟨secret, hdec, hopen⟩, hparse⟩

end EncryptedCredentials

namespace HandshakeInit

def addCredentials (P : Primitives) (init : HandshakeInit) (username password : String)
    (serverKemPk : HybridPublicKey) (coins : HybridKem.EncapsulateCoins) :
    Except ProtocolError (SealCall × HandshakeInit) := do
  let (call, credentials) ← EncryptedCredentials.encrypt P username password serverKemPk coins
  return (call, { init with credentials := some credentials })

end HandshakeInit

/-! ### Identity hiding -/

structure EncryptedHandshakeInit where
  securityLevel : SecurityLevel
  encapsulationCiphertext : HybridCiphertext
  encryptedPayload : Bytes
deriving DecidableEq

namespace EncryptedHandshakeInit

def use : KemUse := ⟨ascii "HPN-IDENTITY-HIDING-V1", "identity hiding"⟩

/-- The outer level, which travels in the clear, is authenticated with the ciphertext. -/
def aad (securityLevel : SecurityLevel) (ciphertext : HybridCiphertext) : Bytes :=
  securityLevel.asU8 :: ciphertext.toBytes

def encrypt (P : Primitives) (inner : HandshakeInit) (serverKemPk : HybridPublicKey)
    (coins : HybridKem.EncapsulateCoins) : Except ProtocolError (SealCall × EncryptedHandshakeInit) := do
  let (call, ciphertext, payload) ← use.sealTo P serverKemPk (aad inner.securityLevel) inner.toBytes coins
  return (call, ⟨inner.securityLevel, ciphertext, payload⟩)

def decrypt (P : Primitives) (e : EncryptedHandshakeInit) (serverKemSk : HybridSecretKey) :
    Except ProtocolError HandshakeInit := do
  let plaintext ← use.openFrom P serverKemSk e.encapsulationCiphertext
    (aad e.securityLevel e.encapsulationCiphertext) e.encryptedPayload
  HandshakeInit.fromBytes plaintext

def maxHybridCiphertextLen : Nat := 2048

def toBytes (e : EncryptedHandshakeInit) : Bytes :=
  let ctBytes := e.encapsulationCiphertext.toBytes
  let ctLen := min ctBytes.length (2 ^ 16 - 1)
  e.securityLevel.asU8 :: ((be16 (UInt16.ofNat ctLen)).bytes ++ (ctBytes.take ctLen ++ e.encryptedPayload))

def fromBytes (bytes : Bytes) : Except ProtocolError EncryptedHandshakeInit := do
  let available := bytes.length
  ensure (3 ≤ available) (.packetTooShort 3 available)
  let (levelByte, cursor) ← takeByte (.packetTooShort 3 available) bytes
  let securityLevel ← okOr (SecurityLevel.fromU8 levelByte)
    (.handshakeFailed s!"invalid security level: {levelByte.toNat}")
  let (ctLen, cursor) ← readBlock available 2 cursor
  let ctLen := (ofBe16 ctLen).toNat
  ensure (ctLen ≤ maxHybridCiphertextLen) (.handshakeFailed
    s!"ciphertext_len {ctLen} exceeds maximum {maxHybridCiphertextLen}")
  let (ctBytes, encryptedPayload) ← readBlock available ctLen cursor
  let encapsulationCiphertext ← (HybridPair.fromBytes ctBytes.bytes).mapError fun _ =>
    ProtocolError.handshakeFailed "invalid encapsulation ciphertext"
  ensure (tagSize ≤ encryptedPayload.length) (.packetTooShort tagSize encryptedPayload.length)
  return ⟨securityLevel, encapsulationCiphertext, encryptedPayload⟩

theorem fromBytes_toBytes {e : EncryptedHandshakeInit} (h : tagSize ≤ e.encryptedPayload.length) :
    fromBytes e.toBytes = .ok e := by
  have hct := EncryptedCredentials.ciphertext_toBytes_length e.encapsulationCiphertext
  have hctLen := EncryptedCredentials.toNat_ofBe16_be16_ofNat (n := e.encapsulationCiphertext.toBytes.length) (by omega)
  have hmin : min e.encapsulationCiphertext.toBytes.length (2 ^ 16 - 1) =
      e.encapsulationCiphertext.toBytes.length := Nat.min_eq_left (by omega)
  have hlen : 3 ≤ e.toBytes.length := by
    simp only [toBytes, List.length_cons, List.length_append, Block.length_bytes]
    omega
  have hdecode := HybridPair.fromBytes_toBytes e.encapsulationCiphertext []
  rw [List.append_nil] at hdecode
  unfold fromBytes
  dsimp only
  rw [ensure_of hlen, ok_bind]
  generalize e.toBytes.length = available
  simp only [toBytes, hmin, List.take_length, takeByte_cons, ok_bind, SecurityLevel.fromU8_asU8, okOr_some,
    readBlock_append]
  rw [ensure_of (hctLen.trans_le (hct.trans (by decide))), ok_bind, readBlock_of_length hctLen.symm, ok_bind]
  simp only [hdecode, Except.mapError, ok_bind]
  rw [ensure_of h]
  rfl

variable {P : Primitives} {inner : HandshakeInit} {call : SealCall} {e : EncryptedHandshakeInit}
  {coins : HybridKem.EncapsulateCoins}

theorem encrypt_eq_ok {serverKemPk : HybridPublicKey} :
    encrypt P inner serverKemPk coins = .ok (call, e) ↔
      e.securityLevel = inner.securityLevel ∧
        use.sealTo P serverKemPk (aad inner.securityLevel) inner.toBytes coins =
          .ok (call, e.encapsulationCiphertext, e.encryptedPayload) := by
  simp only [encrypt, bind_ok_iff]
  constructor
  · rintro ⟨⟨call', ct, payload⟩, hsealed, heq⟩
    obtain ⟨rfl, rfl⟩ := Prod.mk.inj (Except.ok.inj heq)
    exact ⟨rfl, hsealed⟩
  · rintro ⟨hlevel, hsealed⟩
    refine ⟨_, hsealed, ?_⟩
    rw [← hlevel]
    rfl

end EncryptedHandshakeInit

end HpnVpn
