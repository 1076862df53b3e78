import HpnVpn.Crypto
import HpnVpn.TunnelConfig

/-! Handshake and rekey messages.  Each decoder is the chain of reads of its source, with the offset and text of every
refusal. -/
namespace HpnVpn
open Wire

def readBlock (available n : Nat) (cursor : Bytes) : Except ProtocolError (Block n × Bytes) :=
  takeBlock (.packetTooShort (available - cursor.length + n) available) n cursor

variable {available : Nat}

@[simp] theorem readBlock_append {n : Nat} (b : Block n) (rest : Bytes) :
    readBlock available n (b.bytes ++ rest) = .ok (b, rest) := takeBlock_append b rest

@[simp] theorem readBlock_bytes {n : Nat} (b : Block n) :
    readBlock available n b.bytes = .ok (b, []) := takeBlock_bytes b

theorem readBlock_of_length {n : Nat} {bytes : Bytes} (h : bytes.length = n) (rest : Bytes) :
    readBlock available n (bytes ++ rest) = .ok (⟨bytes, h⟩, rest) := takeBlock_of_length h rest

/-! ### Credentials -/

@[ext] structure EncryptedCredentials where
  ciphertext : HybridCiphertext
  encryptedPayload : Bytes
deriving DecidableEq

namespace EncryptedCredentials

def maxCredentialsCiphertextLen : Nat := 2048
def maxCredentialsPayloadLen : Nat := 4096

def toBytes (c : EncryptedCredentials) : Bytes :=
  (be16 (UInt16.ofNat c.ciphertext.toBytes.length)).bytes ++ (c.ciphertext.toBytes ++
    ((be16 (UInt16.ofNat c.encryptedPayload.length)).bytes ++ c.encryptedPayload))

def fromBytes (bytes : Bytes) (_securityLevel : SecurityLevel) :
    Except ProtocolError EncryptedCredentials := do
  let available := bytes.length
  ensure (4 ≤ available) (.packetTooShort 4 available)
  let (ctLen, cursor) ← readBlock available 2 bytes
  let ctLen := (ofBe16 ctLen).toNat
  ensure (ctLen ≤ maxCredentialsCiphertextLen) (.handshakeFailed
    s!"credentials ciphertext_len {ctLen} exceeds maximum {maxCredentialsCiphertextLen}")
  ensure (2 + ctLen + 2 ≤ available) (.packetTooShort (2 + ctLen + 2) available)
  let (ctBytes, cursor) ← readBlock available ctLen cursor
  let ciphertext ← (HybridPair.fromBytes ctBytes.bytes).mapError fun e =>
    .handshakeFailed s!"invalid credential ciphertext: {e.debug}"
  let (payloadLen, cursor) ← readBlock available 2 cursor
  let payloadLen := (ofBe16 payloadLen).toNat
  ensure (payloadLen ≤ maxCredentialsPayloadLen) (.handshakeFailed
    s!"credentials payload_len {payloadLen} exceeds maximum {maxCredentialsPayloadLen}")
  let (payload, _) ← readBlock available payloadLen cursor
  return ⟨ciphertext, payload.bytes⟩

theorem toNat_ofBe16_be16_ofNat {n : Nat} (h : n < 2 ^ 16) : (ofBe16 (be16 (UInt16.ofNat n))).toNat = n := by
  rw [ofBe16_be16, UInt16.toNat_ofNat']
  exact Nat.mod_eq_of_lt h

theorem ciphertext_toBytes_length (c : HybridCiphertext) : c.toBytes.length ≤ 1601 := by
  obtain ⟨level, x, m⟩ := c
  cases level <;> simp [HybridPair.toBytes, HybridPair.toBytesRaw, SecurityLevel.mlkemCiphertextSize]

theorem fromBytes_toBytes {c : EncryptedCredentials} (level : SecurityLevel) (rest : Bytes)
    (h : c.encryptedPayload.length ≤ maxCredentialsPayloadLen) :
    fromBytes (c.toBytes ++ rest) level = .ok c := by
  have hct := ciphertext_toBytes_length c.ciphertext
  have hpayload : c.encryptedPayload.length ≤ 4096 := h
  have hctLen := toNat_ofBe16_be16_ofNat (n := c.ciphertext.toBytes.length) (by omega)
  have hpayloadLen := toNat_ofBe16_be16_ofNat (n := c.encryptedPayload.length) (by omega)
  have hlen : (c.toBytes ++ rest).length =
      2 + c.ciphertext.toBytes.length + 2 + c.encryptedPayload.length + rest.length := by
    simp only [toBytes, List.length_append, Block.length_bytes]
    omega
  have hdecode : HybridPair.fromBytes c.ciphertext.toBytes = .ok c.ciphertext := by
    have := HybridPair.fromBytes_toBytes c.ciphertext []
    rwa [List.append_nil] at this
  unfold fromBytes
  generalize (c.toBytes ++ rest).length = available at hlen ⊢
  dsimp only
  rw [ensure_of (by omega), ok_bind]
  simp only [toBytes, List.append_assoc, readBlock_append, ok_bind]
  rw [ensure_of (hctLen.trans_le (hct.trans (by decide))), ok_bind, ensure_of (by omega), ok_bind,
    readBlock_of_length hctLen.symm, ok_bind]
  simp only [hdecode, Except.mapError, ok_bind, readBlock_append]
  rw [ensure_of (hpayloadLen.trans_le h), ok_bind, readBlock_of_length hpayloadLen.symm]
  rfl

end EncryptedCredentials

/-! ### Handshake initiation -/

structure HandshakeInit where
  clientEphemeralPk : HybridPublicKey
  clientRandom : Block 32
  securityLevel : SecurityLevel
  credentials : Option EncryptedCredentials
deriving DecidableEq

namespace HandshakeInit

def credentialsBytes (credentials : Option EncryptedCredentials) : Bytes :=
  match credentials with
  | some c => 1 :: c.toBytes
  | none => [0]

def toBytes (i : HandshakeInit) : Bytes :=
  i.securityLevel.asU8 :: (i.clientEphemeralPk.toBytesRaw ++ (i.clientRandom.bytes ++ credentialsBytes i.credentials))

def credentialsFromBytes (level : SecurityLevel) (flagOffset available : Nat) (cursor : Bytes) :
    Except ProtocolError (Option EncryptedCredentials) :=
  match cursor with
  -- legacy format, without the flag
  | [] => .ok none
  | flag :: rest =>
    if flag ≠ 0 then do
      ensure (rest ≠ []) (.packetTooShort (flagOffset + 1 + 1) available)
      some <$> EncryptedCredentials.fromBytes rest level
    else .ok none

def fromBytes (bytes : Bytes) : Except ProtocolError HandshakeInit :=
  match bytes with
  | [] => .error (.packetTooShort 1 0)
  | levelByte :: cursor => do
    let available := 1 + cursor.length
    let level ← okOr (SecurityLevel.fromU8 levelByte) (.handshakeFailed s!"invalid security level: {levelByte}")
    let pkSize := HybridPair.sizeForLevel SecurityLevel.mlkemPublicKeySize level
    let minSize := 1 + pkSize + 32 + 1
    let (pkBytes, cursor) ← takeBlock (.packetTooShort minSize available) pkSize cursor
    let (clientRandom, cursor) ← takeBlock (.packetTooShort minSize available) 32 cursor
    let clientEphemeralPk ← (HybridPair.fromBytesWithLevel pkBytes.bytes level).mapError
      fun _ => .handshakeFailed "invalid public key"
    let credentials ← credentialsFromBytes level (1 + pkSize + 32) available cursor
    return ⟨clientEphemeralPk, clientRandom, level, credentials⟩

/-- What a client builds: one level throughout, and credentials of a length the decoder admits. -/
structure WellFormed (i : HandshakeInit) : Prop where
  level_eq : i.clientEphemeralPk.securityLevel = i.securityLevel
  payload_le : ∀ c, i.credentials = some c → c.encryptedPayload.length ≤ EncryptedCredentials.maxCredentialsPayloadLen

theorem credentialsFromBytes_credentialsBytes {credentials : Option EncryptedCredentials}
    {level : SecurityLevel} {flagOffset available : Nat}
    (h : ∀ c, credentials = some c → c.encryptedPayload.length ≤ EncryptedCredentials.maxCredentialsPayloadLen) :
    credentialsFromBytes level flagOffset available (credentialsBytes credentials) = .ok credentials := by
  cases credentials with
  | none => rfl
  | some c =>
    have hne : c.toBytes ≠ [] := by
      intro hnil
      have hlen := congrArg List.length hnil
      simp only [EncryptedCredentials.toBytes, List.length_append, Block.length_bytes, List.length_nil] at hlen
      omega
    have hdecode := EncryptedCredentials.fromBytes_toBytes level [] (h c rfl)
    rw [List.append_nil] at hdecode
    simp only [credentialsBytes, credentialsFromBytes]
    rw [if_pos (by decide), ensure_of hne, ok_bind, hdecode]
    rfl

theorem fromBytes_toBytes {i : HandshakeInit} (h : i.WellFormed) : fromBytes i.toBytes = .ok i := by
  obtain ⟨pk, random, level, credentials⟩ := i
  obtain ⟨hlevel, hcred⟩ := h
  simp only at hlevel hcred
  subst hlevel
  have hpk := HybridPair.fromBytesWithLevel_toBytesRaw pk []
  rw [List.append_nil] at hpk
  simp only [fromBytes, toBytes, SecurityLevel.fromU8_asU8, okOr_some, ok_bind]
  rw [takeBlock_of_length pk.toBytesRaw_length, ok_bind]
  simp only [takeBlock_append, ok_bind, hpk, Except.mapError]
  rw [credentialsFromBytes_credentialsBytes hcred]
  rfl

end HandshakeInit

/-! ### Handshake response -/

structure HandshakeResponse where
  sessionId : SessionId
  serverCiphertext : HybridCiphertext
  serverStaticPk : MlDsaPublicKey
  signature : MlDsaSignature
  serverRandom : Block 32
  config : TunnelConfig
  keyConfirmation : Block 32
  kdfTimestamp : UInt64
deriving DecidableEq

namespace HandshakeResponse

def maxConfigLen : Nat := 4096

def toBytes (r : HandshakeResponse) : Bytes :=
  let configLen := min r.config.toBytes.length (2 ^ 32 - 1)
  (be64 r.sessionId).bytes ++ (r.serverCiphertext.toBytesRaw ++ (r.serverStaticPk.bytes ++
    (r.signature.bytes.bytes ++ (r.serverRandom.bytes ++ ((be32 (UInt32.ofNat configLen)).bytes ++
      (r.config.toBytes.take configLen ++ (r.keyConfirmation.bytes ++ (be64 r.kdfTimestamp).bytes)))))))

def fromBytesWithLevel (bytes : Bytes) (level : SecurityLevel) :
    Except ProtocolError HandshakeResponse := do
  let available := bytes.length
  let (sessionId, cursor) ← readBlock available 8 bytes
  let (ctBytes, cursor) ← readBlock available (HybridPair.sizeForLevel SecurityLevel.mlkemCiphertextSize level) cursor
  let serverCiphertext ← (HybridPair.fromBytesWithLevel ctBytes.bytes level).mapError
    fun _ => ProtocolError.handshakeFailed "invalid ciphertext"
  let (pkBytes, cursor) ← readBlock available level.mldsaPublicKeySize cursor
  let serverStaticPk ← (MlDsaPublicKey.fromBytes pkBytes.bytes).mapError
    fun _ => ProtocolError.handshakeFailed "invalid server public key"
  let (sigBytes, cursor) ← readBlock available level.mldsaSignatureSize cursor
  let signature ← okOr (MlDsaSignature.fromBytesWithLevel sigBytes.bytes level)
    (.handshakeFailed s!"signature size mismatch for level {level.debug}")
  let (serverRandom, cursor) ← readBlock available 32 cursor
  let (configLen, cursor) ← readBlock available 4 cursor
  let configLen := (ofBe32 configLen).toNat
  ensure (configLen ≤ maxConfigLen) (.handshakeFailed s!"config_len {configLen} exceeds maximum {maxConfigLen}")
  let (configBytes, cursor) ← readBlock available configLen cursor
  let config ← TunnelConfig.fromBytes configBytes.bytes
  let (keyConfirmation, cursor) ← readBlock available 32 cursor
  let (kdfTimestamp, _) ← readBlock available 8 cursor
  return { sessionId := ofBe64 sessionId, serverCiphertext, serverStaticPk, signature, serverRandom,
           config, keyConfirmation, kdfTimestamp := ofBe64 kdfTimestamp }

theorem toBytes_length (r : HandshakeResponse) :
    r.toBytes.length = 8 + HybridPair.sizeForLevel SecurityLevel.mlkemCiphertextSize r.serverCiphertext.securityLevel +
      r.serverStaticPk.bytes.length + r.signature.securityLevel.mldsaSignatureSize + 32 + 4 +
      min r.config.toBytes.length (2 ^ 32 - 1) + 32 + 8 := by
  simp only [toBytes, List.length_append, Block.length_bytes, HybridPair.toBytesRaw_length, List.length_take]
  omega

/-- All parts of the response have this level. -/
structure AtLevel (r : HandshakeResponse) (level : SecurityLevel) : Prop where
  ciphertext : r.serverCiphertext.securityLevel = level
  publicKey : r.serverStaticPk.bytes.length = level.mldsaPublicKeySize
  signature : r.signature.securityLevel = level

/-- The other end reads back the response, with the defaults of its configuration filled in. -/
theorem fromBytesWithLevel_toBytes {r : HandshakeResponse} {level : SecurityLevel} (h : r.AtLevel level)
    (hdns : r.config.DnsWithinLimit) :
    fromBytesWithLevel r.toBytes level = .ok { r with config := r.config.normalized } := by
  obtain ⟨sessionId, ct, pk, sig, random, config, mac, timestamp⟩ := r
  obtain ⟨hct, hpk, hsig⟩ := h
  simp only at hct hpk hsig hdns
  subst hct
  obtain ⟨sigLevel, sigBytes⟩ := sig
  subst hsig
  have hconfig := hdns.toBytes_length_le
  have hmin : min config.toBytes.length (2 ^ 32 - 1) = config.toBytes.length := by omega
  have hlen : (ofBe32 (be32 (UInt32.ofNat config.toBytes.length))).toNat = config.toBytes.length := by
    rw [ofBe32_be32, UInt32.toNat_ofNat']
    omega
  have hctRead := HybridPair.fromBytesWithLevel_toBytesRaw ct []
  rw [List.append_nil] at hctRead
  unfold fromBytesWithLevel
  simp only [toBytes, hmin, List.take_length, readBlock_append, ok_bind]
  rw [readBlock_of_length ct.toBytesRaw_length, ok_bind]
  simp only [hctRead, Except.mapError, ok_bind]
  rw [readBlock_of_length hpk, ok_bind]
  have hsigRead := MlDsaSignature.fromBytesWithLevel_bytes ⟨ct.securityLevel, sigBytes⟩
  simp only [MlDsaPublicKey.fromBytes_bytes, ok_bind, readBlock_append, hsigRead, okOr_some]
  rw [ensure_of (hlen.trans_le (hconfig.trans (by decide))), ok_bind, readBlock_of_length hlen.symm, ok_bind]
  simp only [TunnelConfig.fromBytes_toBytes hdns, ok_bind, readBlock_append, readBlock_bytes, ofBe64_be64]
  rfl

end HandshakeResponse

/-! ### Rekey -/

structure RekeyMessage where
  clientEphemeralPk : HybridPublicKey
  clientRandom : Block 32
deriving DecidableEq

namespace RekeyMessage

def toBytes (m : RekeyMessage) : Bytes :=
  m.clientEphemeralPk.securityLevel.asU8 :: (m.clientEphemeralPk.toBytesRaw ++ m.clientRandom.bytes)

def fromBytesAt (offset available : Nat) (level : SecurityLevel) (cursor : Bytes) :
    Except ProtocolError RekeyMessage := do
  let pkSize := HybridPair.sizeForLevel SecurityLevel.mlkemPublicKeySize level
  let short := ProtocolError.packetTooShort (offset + pkSize + 32) available
  let (pkBytes, cursor) ← takeBlock short pkSize cursor
  let (clientRandom, _) ← takeBlock short 32 cursor
  let clientEphemeralPk ← (HybridPair.fromBytesWithLevel pkBytes.bytes level).mapError
    fun _ => ProtocolError.handshakeFailed "invalid public key"
  return ⟨clientEphemeralPk, clientRandom⟩

def fromBytes (bytes : Bytes) : Except ProtocolError RekeyMessage :=
  match bytes with
  | [] => .error (.packetTooShort 1 0)
  | first :: rest =>
    match SecurityLevel.fromU8 first with
    | some level => fromBytesAt 1 (1 + rest.length) level rest
    -- the old wire format has no level byte
    | none => fromBytesAt 0 (1 + rest.length) .level3 bytes

def legacyBytes (m : RekeyMessage) : Bytes := m.clientEphemeralPk.toBytesRaw ++ m.clientRandom.bytes

variable (m : RekeyMessage)

theorem fromBytesAt_legacyBytes (offset available : Nat) :
    fromBytesAt offset available m.clientEphemeralPk.securityLevel m.legacyBytes = .ok m := by
  have hpk := HybridPair.fromBytesWithLevel_toBytesRaw m.clientEphemeralPk []
  rw [List.append_nil] at hpk
  simp only [fromBytesAt, legacyBytes]
  rw [takeBlock_of_length m.clientEphemeralPk.toBytesRaw_length, ok_bind]
  simp only [takeBlock_bytes, ok_bind, hpk, Except.mapError]
  rfl

theorem fromBytes_toBytes : fromBytes m.toBytes = .ok m := by
  simp only [fromBytes, toBytes, SecurityLevel.fromU8_asU8]
  exact fromBytesAt_legacyBytes m 1 _

theorem le_sizeForLevel (level : SecurityLevel) :
    1216 ≤ HybridPair.sizeForLevel SecurityLevel.mlkemPublicKeySize level := by
  cases level <;> decide

theorem length_legacyBytes (hlevel : m.clientEphemeralPk.securityLevel = .level3) : m.legacyBytes.length = 1248 := by
  rw [legacyBytes, List.length_append, HybridPair.toBytesRaw_length, Block.length_bytes, hlevel]
  rfl

/-- A key of an old client that starts with a level is taken for a message too short for that level. -/
theorem fromBytes_legacyBytes_iff (hlevel : m.clientEphemeralPk.securityLevel = .level3) :
    fromBytes m.legacyBytes = .ok m ↔
      ∀ b ∈ m.clientEphemeralPk.x25519.bytes.head?, SecurityLevel.fromU8 b = none := by
  have hhead : m.legacyBytes.head? = m.clientEphemeralPk.x25519.bytes.head? := by
    rw [legacyBytes, HybridPair.toBytesRaw, List.append_assoc]
    exact List.head?_append_of_ne_nil _ (List.ne_nil_of_length_pos (by simp))
  have hlen := m.length_legacyBytes hlevel
  have hread := m.fromBytesAt_legacyBytes 0 m.legacyBytes.length
  rw [hlevel] at hread
  rw [← hhead]
  cases hbytes : m.legacyBytes with
  | nil => simp [hbytes] at hlen
  | cons first rest =>
    rw [hbytes, List.length_cons] at hlen
    rw [hbytes, List.length_cons, Nat.add_comm] at hread
    simp only [fromBytes, List.head?_cons, Option.mem_some_iff, forall_eq']
    cases hfirst : SecurityLevel.fromU8 first with
    | none => exact iff_of_true hread rfl
    | some level =>
      refine iff_of_false (fun hok => ?_) (Option.some_ne_none level)
      simp only [fromBytesAt, bind_ok_iff, Prod.exists, takeBlock_eq_ok] at hok
      obtain ⟨pk, tail, rfl, random, _, rfl, -⟩ := hok
      simp only [List.length_append, Block.length_bytes] at hlen
      have hsize := le_sizeForLevel level
      omega

/-- The two formats of a request cannot be taken for each other just if no key of the old one, which has no level byte,
starts with the byte of a level. -/
theorem rekey_formats_iff :
    (fromBytes m.toBytes = .ok m ∧
      (m.clientEphemeralPk.securityLevel = .level3 → fromBytes m.legacyBytes = .ok m) ∧
      ∀ old : RekeyMessage, old.clientEphemeralPk.securityLevel = .level3 → m.toBytes ≠ old.legacyBytes) ↔
    (m.clientEphemeralPk.securityLevel = .level3 →
      ∀ b ∈ m.clientEphemeralPk.x25519.bytes.head?, SecurityLevel.fromU8 b = none) := by
  constructor
  · rintro ⟨-, hlegacy, -⟩ hlevel
    exact (m.fromBytes_legacyBytes_iff hlevel).mp (hlegacy hlevel)
  · refine fun h => ⟨m.fromBytes_toBytes, fun hlevel => (m.fromBytes_legacyBytes_iff hlevel).mpr (h hlevel), ?_⟩
    intro old hold heq
    have hlen := congrArg List.length heq
    rw [old.length_legacyBytes hold, toBytes, List.length_cons, List.length_append, HybridPair.toBytesRaw_length,
      Block.length_bytes] at hlen
    have hsize := le_sizeForLevel m.clientEphemeralPk.securityLevel
    omega

/-- A request of an old client whose key starts with the byte 3. -/
def oldRequest : RekeyMessage := ⟨⟨.level3, Block.replicate 32 3, Block.replicate _ 0⟩, Block.replicate 32 0⟩

theorem oldRequest_refused : fromBytes oldRequest.legacyBytes ≠ .ok oldRequest := by
  intro h
  exact absurd ((oldRequest.fromBytes_legacyBytes_iff rfl).mp h 3 rfl) (by decide)

end RekeyMessage

structure RekeyResponse where
  serverCiphertext : HybridCiphertext
  signature : MlDsaSignature
  serverRandom : Block 32
  newKeyId : UInt32
  keyConfirmation : Block 32
  kdfTimestamp : UInt64
  sessionId : SessionId
deriving DecidableEq

namespace RekeyResponse

def toBytes (r : RekeyResponse) : Bytes :=
  r.serverCiphertext.toBytesRaw ++ (r.signature.bytes.bytes ++ (r.serverRandom.bytes ++
    ((be32 r.newKeyId).bytes ++ (r.keyConfirmation.bytes ++ ((be64 r.kdfTimestamp).bytes ++
      (be64 r.sessionId).bytes)))))

def fromBytesWithLevel (bytes : Bytes) (level : SecurityLevel) : Except ProtocolError RekeyResponse := do
  let ctSize := HybridPair.sizeForLevel SecurityLevel.mlkemCiphertextSize level
  let short := ProtocolError.packetTooShort (ctSize + level.mldsaSignatureSize + 32 + 4 + 32 + 8 + 8) bytes.length
  let (ctBytes, cursor) ← takeBlock short ctSize bytes
  let (sigBytes, cursor) ← takeBlock short level.mldsaSignatureSize cursor
  let (serverRandom, cursor) ← takeBlock short 32 cursor
  let (newKeyId, cursor) ← takeBlock short 4 cursor
  let (keyConfirmation, cursor) ← takeBlock short 32 cursor
  let (kdfTimestamp, cursor) ← takeBlock short 8 cursor
  let (sessionId, _) ← takeBlock short 8 cursor
  let serverCiphertext ← (HybridPair.fromBytesWithLevel ctBytes.bytes level).mapError
    fun _ => ProtocolError.handshakeFailed "invalid ciphertext"
  let signature ← okOr (MlDsaSignature.fromBytesWithLevel sigBytes.bytes level)
    (.handshakeFailed s!"rekey signature size mismatch for level {level.debug}")
  return { serverCiphertext, signature, serverRandom, newKeyId := ofBe32 newKeyId, keyConfirmation,
           kdfTimestamp := ofBe64 kdfTimestamp, sessionId := ofBe64 sessionId }

theorem fromBytesWithLevel_toBytes {r : RekeyResponse} {level : SecurityLevel}
    (hct : r.serverCiphertext.securityLevel = level) (hsig : r.signature.securityLevel = level) :
    fromBytesWithLevel r.toBytes level = .ok r := by
  obtain ⟨ct, ⟨sigLevel, sigBytes⟩, random, keyId, mac, timestamp, sessionId⟩ := r
  simp only at hct hsig
  subst hct
  subst hsig
  have hctRead := HybridPair.fromBytesWithLevel_toBytesRaw ct []
  rw [List.append_nil] at hctRead
  have hsigRead := MlDsaSignature.fromBytesWithLevel_bytes ⟨ct.securityLevel, sigBytes⟩
  unfold fromBytesWithLevel
  simp only [toBytes]
  rw [takeBlock_of_length ct.toBytesRaw_length, ok_bind]
  simp only [takeBlock_append, takeBlock_bytes, ok_bind, hctRead, Except.mapError, hsigRead, okOr_some,
    ofBe32_be32, ofBe64_be64]
  rfl

end RekeyResponse

end HpnVpn
