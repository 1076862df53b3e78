import HpnVpn.Header
import HpnVpn.SealedMessages
import HpnVpn.Slices

/-! The decoders of the handshake messages by position.  Each is the chain of reads of its message, so none reads
outside. -/
namespace HpnVpn
open Wire EncryptedCredentials

def sliceBlock (bytes : Bytes) (offset n : Nat) : ExceptT ProtocolError Option (Block n) := do
  check (offset + n ≤ bytes.length) (.packetTooShort (offset + n) bytes.length)
  slice bytes offset n

theorem sliceBlock_bind {β : Type} {bytes : Bytes} {offset n : Nat} {k : Block n → ExceptT ProtocolError Option β}
    {f : Block n × Bytes → Except ProtocolError β} (hle : offset ≤ bytes.length)
    (h : offset + n ≤ bytes.length → ∀ b, k b = inside (f (b, bytes.drop (offset + n)))) :
    sliceBlock bytes offset n >>= k = inside (readBlock bytes.length n (bytes.drop offset) >>= f) := by
  have hoffset : bytes.length - (bytes.drop offset).length = offset := by
    rw [List.length_drop]
    omega
  rw [sliceBlock, readBlock, bind_assoc, hoffset]
  refine check_bind (fun hn => slice_bind hn (h hn)) fun hn => takeBlock_bind_error fun hle' => ?_
  rw [List.length_drop] at hle'
  omega

namespace PacketHeader

def timestampFromSlice (flags : HeaderFlags) (buf : Bytes) : ExceptT ProtocolError Option (Option UInt64) :=
  if flags.contains HeaderFlags.hasTimestamp then do
    check (headerSizeWithTimestamp ≤ buf.length) (.packetTooShort headerSizeWithTimestamp buf.length)
    let ts ← slice buf 24 8
    return some (ofBe64 ts)
  else return none

def fromSlice (buf : Bytes) : ExceptT ProtocolError Option PacketHeader := do
  check (headerSize ≤ buf.length) (.packetTooShort headerSize buf.length)
  let version ← index buf 0
  check (version = protocolVersion) (.invalidVersion version)
  let msgType ← index buf 1
  let msgType ← inside (okOr (MessageType.fromU8 msgType) (.invalidMessageType msgType))
  let flags ← index buf 2
  let flags ← inside (okOr (HeaderFlags.fromBits flags) (.invalidHeaderFlags flags))
  let reserved ← index buf 3
  check (reserved = 0) (.invalidReservedByte reserved)
  let sessionId ← slice buf 4 8
  let keyId ← slice buf 12 4
  let counter ← slice buf 16 8
  let timestamp ← timestampFromSlice flags buf
  return { version, msgType, flags, reserved, sessionId := ofBe64 sessionId, keyId := ofBe32 keyId,
           counter := ofBe64 counter, timestamp }

theorem timestampFromSlice_eq (flags : HeaderFlags) {buf : Bytes} (h : headerSize ≤ buf.length) :
    timestampFromSlice flags buf = inside (decodeTimestamp flags buf.length (buf.drop headerSize)) := by
  unfold timestampFromSlice decodeTimestamp
  split
  · refine check_bind (fun hle => slice_bind hle fun _ => rfl) fun hshort => takeBlock_bind_error fun hle => ?_
    rw [List.length_drop] at hle
    exact absurd (Nat.add_le_of_le_sub' h hle) hshort
  · rfl

theorem fromSlice_eq (buf : Bytes) : fromSlice buf = inside (decode buf) := by
  refine inside_bind fun _ hfixed => ?_
  have hroom := ensure_eq_ok.mp hfixed
  have hts := fun flags => timestampFromSlice_eq flags hroom
  obtain _ | ⟨version, _ | ⟨msgType, _ | ⟨flags, _ | ⟨reserved, rest⟩⟩⟩⟩ := buf
  iterate 4 simp [headerSize] at hroom
  change check (version = protocolVersion) _ >>= _ = _
  refine inside_bind fun _ _ => ?_
  change inside (okOr (MessageType.fromU8 msgType) _) >>= _ = _
  refine inside_bind fun _ _ => ?_
  change inside (okOr (HeaderFlags.fromBits flags) _) >>= _ = _
  refine inside_bind fun flags _ => ?_
  change check (reserved = 0) _ >>= _ = _
  refine inside_bind fun _ _ => ?_
  rw [headerSize] at hroom
  rw [hts]
  exact slice_bind (by omega) fun _ => slice_bind (by omega) fun _ => slice_bind (by omega) fun _ =>
    inside_bind fun _ _ => rfl

/-- A header comes back from its encoding, and what is accepted starts with the encoding of its header. -/
theorem packetHeader_codec :
    (∀ msgType sessionId keyId counter (timestamp : Option UInt64) rest,
      let h := timestamp.elim (new msgType sessionId keyId counter) (new msgType sessionId keyId counter).withTimestamp
      fromSlice (h.toBytes ++ rest) = inside (.ok h) ∧ h.timestamp = timestamp ∧
        h.flags.contains HeaderFlags.hasTimestamp = timestamp.isSome) ∧
    ∀ buf, (∃ h, fromSlice buf = inside (.ok h) ∧ h.toBytes = buf.take h.encodedSize) ∨
      ∃ e, fromSlice buf = inside (.error e) := by
  simp only [fromSlice_eq]
  constructor
  · intro msgType sessionId keyId counter timestamp rest
    have hnew := new_wellFormed msgType sessionId keyId counter
    cases timestamp with
    | none => exact ⟨congrArg inside (decode_toBytes hnew rest), rfl, hnew.timestamp⟩
    | some ts =>
      have hwf : ((new msgType sessionId keyId counter).withTimestamp ts).WellFormed := by
        refine ⟨rfl, rfl, Eq.trans (b := true) ?_ rfl⟩
        simp only [new, withTimestamp]
        decide
      exact ⟨congrArg inside (decode_toBytes hwf rest), rfl, hwf.timestamp⟩
  · intro buf
    cases hdecode : decode buf with
    | error e => exact .inr ⟨e, rfl⟩
    | ok h =>
      obtain ⟨-, rest, rfl⟩ := decode_eq_ok.mp hdecode
      exact .inl ⟨h, rfl, by rw [← h.toBytes_length, List.take_left]⟩

end PacketHeader
namespace HybridPair
variable {size : SecurityLevel → Nat}

def halves (bytes : Bytes) (offset : Nat) (level : SecurityLevel) : ExceptT CryptoError Option (HybridPair size) := do
  let expectedSize := offset + sizeForLevel size level
  check (expectedSize ≤ bytes.length) (.invalidKeyLength expectedSize bytes.length)
  let x25519 ← slice bytes offset 32
  let mlKem ← slice bytes (offset + 32) (size level)
  return ⟨level, x25519, mlKem⟩

def fromSliceWithLevel (bytes : Bytes) (level : SecurityLevel) : ExceptT CryptoError Option (HybridPair size) :=
  halves bytes 0 level

def fromSlice (bytes : Bytes) : ExceptT CryptoError Option (HybridPair size) := do
  check (bytes ≠ []) (.invalidKeyLength 1 0)
  let levelByte ← index bytes 0
  let level ← inside (okOr (SecurityLevel.fromU8 levelByte) .invalidPublicKey)
  halves bytes 1 level

theorem halves_eq {bytes : Bytes} {offset : Nat} {level : SecurityLevel} (h : offset ≤ bytes.length) :
    (halves bytes offset level : ExceptT CryptoError Option (HybridPair size)) = inside (do
      let short := CryptoError.invalidKeyLength (offset + sizeForLevel size level) bytes.length
      let (x25519, rest) ← takeBlock short 32 (bytes.drop offset)
      let (mlKem, _) ← takeBlock short (size level) rest
      return ⟨level, x25519, mlKem⟩) := by
  refine check_bind (fun hle => ?_) fun hshort => ?_
  · rw [sizeForLevel] at hle
    exact slice_bind (by omega) fun _ => slice_bind (by omega) fun _ => rfl
  · refine takeBlock_bind_error fun h32 _ => takeBlock_bind_error fun hsize => ?_
    rw [sizeForLevel] at hshort
    simp only [List.length_drop] at h32 hsize
    omega

theorem fromSliceWithLevel_eq (bytes : Bytes) (level : SecurityLevel) :
    fromSliceWithLevel bytes level = inside (fromBytesWithLevel bytes level : Except CryptoError (HybridPair size)) := by
  rw [fromSliceWithLevel, halves_eq (Nat.zero_le _), Nat.zero_add]
  rfl

theorem fromSlice_eq (bytes : Bytes) :
    fromSlice bytes = inside (fromBytes bytes : Except CryptoError (HybridPair size)) := by
  cases bytes with
  | nil => rfl
  | cons levelByte rest =>
    change inside (okOr (SecurityLevel.fromU8 levelByte) .invalidPublicKey) >>= halves (levelByte :: rest) 1 = _
    refine inside_bind fun level _ => ?_
    rw [halves_eq (Nat.le_add_left ..), List.length_cons, Nat.add_comm rest.length]
    rfl

end HybridPair

namespace TunnelConfig

/-- The IPv6 section, and the offset behind it. -/
def ipv6FromSlice (bytes : Bytes) (offset : Nat) (hasIpv6 : Bool) :
    ExceptT ProtocolError Option (Ipv6Section × Nat) :=
  if hasIpv6 then do
    let short (needed : Nat) := ProtocolError.packetTooShort needed bytes.length
    let fixedEnd := offset + 16 + 1 + 16 + 1
    check (fixedEnd + 2 ≤ bytes.length) (short (fixedEnd + 2))
    let client ← slice bytes offset 16
    let prefixLen ← index bytes (offset + 16)
    let gateway ← slice bytes (offset + 16 + 1) 16
    let dnsCount ← index bytes (offset + 16 + 1 + 16)
    let n := dnsCount.toNat
    check (n ≤ maxDnsServers) (.invalidData s!"too many IPv6 DNS servers: {n} (max {maxDnsServers})")
    check (fixedEnd + n * 16 + 2 ≤ bytes.length) (short (fixedEnd + n * 16 + 2))
    let dns ← slices bytes 16 n fixedEnd
    return (⟨some client, some prefixLen, some gateway, dns⟩, fixedEnd + n * 16)
  else return (⟨none, none, none, []⟩, offset)

def fromSlice (bytes : Bytes) : ExceptT ProtocolError Option TunnelConfig := do
  let short (needed : Nat) := ProtocolError.packetTooShort needed bytes.length
  check (16 ≤ bytes.length) (short 16)
  let clientIpv4 ← slice bytes 0 4
  let netmaskIpv4 ← slice bytes 4 4
  let gatewayIpv4 ← slice bytes 8 4
  let dnsCount ← index bytes 12
  let n := dnsCount.toNat
  check (n ≤ maxDnsServers) (.invalidData s!"too many IPv4 DNS servers: {n} (max {maxDnsServers})")
  check (13 + n * 4 + 1 + 2 ≤ bytes.length) (short (13 + n * 4 + 1 + 2))
  let dnsIpv4 ← slices bytes 4 n 13
  let hasIpv6 ← index bytes (13 + n * 4)
  let (ipv6, offset) ← ipv6FromSlice bytes (13 + n * 4 + 1) (hasIpv6 != 0)
  let mtu ← sliceBlock bytes offset 2
  return { clientIpv4, netmaskIpv4, gatewayIpv4, dnsIpv4
           clientIpv6 := ipv6.client, prefixLenIpv6 := ipv6.prefixLen
           gatewayIpv6 := ipv6.gateway, dnsIpv6 := ipv6.dns, mtu := ofBe16 mtu }

theorem ipv6FromSlice_bind {β : Type} {bytes : Bytes} {offset : Nat} {hasIpv6 : Bool}
    {k : Ipv6Section × Nat → ExceptT ProtocolError Option β} {f : Ipv6Section × Bytes → Except ProtocolError β}
    (hle : offset ≤ bytes.length)
    (h : ∀ ipv6 offset, offset ≤ bytes.length → k (ipv6, offset) = inside (f (ipv6, bytes.drop offset))) :
    ipv6FromSlice bytes offset hasIpv6 >>= k =
      inside (ipv6FromBytes bytes.length offset hasIpv6 (bytes.drop offset) >>= f) := by
  cases hasIpv6 with
  | false => exact h _ _ hle
  | true =>
    simp only [ipv6FromSlice, ipv6FromBytes, if_true, bind_assoc]
    refine inside_bind fun _ hfixed => ?_
    have hroom := ensure_eq_ok.mp hfixed
    refine slice_bind (by omega) fun _ => index_bind (by omega) fun _ => slice_bind (by omega) fun _ =>
      index_bind (by omega) fun count => inside_bind fun _ _ => inside_bind fun _ hdns => ?_
    have hend := ensure_eq_ok.mp hdns
    exact slices_bind (by omega) fun _ => h _ _ (by omega)

theorem fromSlice_eq (bytes : Bytes) : fromSlice bytes = inside (fromBytes bytes) := by
  refine inside_bind fun _ hfixed => ?_
  have hroom := ensure_eq_ok.mp hfixed
  refine slice_bind (by omega) fun _ => slice_bind (by omega) fun _ => slice_bind (by omega) fun _ =>
    index_bind (by omega) fun count => inside_bind fun _ _ => inside_bind fun _ hdns => ?_
  have hend := ensure_eq_ok.mp hdns
  refine slices_bind (by omega) fun _ => index_bind (by omega) fun _ => ipv6FromSlice_bind (by omega) ?_
  exact fun _ _ hle => sliceBlock_bind hle fun _ _ => rfl

/-- A configuration with its IPv6 fields together comes back, only such are accepted, and no read is outside. -/
theorem tunnelConfig_codec :
    (∀ c : TunnelConfig, c.dnsIpv4.length ≤ 8 → c.dnsIpv6.length ≤ 8 →
      (c.prefixLenIpv6.isSome ↔ c.clientIpv6.isSome) → (c.gatewayIpv6.isSome ↔ c.clientIpv6.isSome) →
      (c.dnsIpv6 ≠ [] → c.clientIpv6.isSome) → fromSlice c.toBytes = inside (.ok c)) ∧
    (∀ bytes c, fromSlice bytes = inside (.ok c) → fromSlice c.toBytes = inside (.ok c)) ∧
    ∀ bytes, (fromSlice bytes).run.isSome := by
  simp only [fromSlice_eq]
  refine ⟨?_, ?_, fun _ => rfl⟩
  · intro c h4 h6 hlen hgateway hdns
    have hnormalized : c.normalized = c := by
      obtain ⟨_, _, _, _, client, prefixLen, gateway, dns, _⟩ := c
      cases client with
      | some client =>
        obtain ⟨prefixLen, rfl⟩ := Option.isSome_iff_exists.mp (hlen.mpr rfl)
        obtain ⟨gateway, rfl⟩ := Option.isSome_iff_exists.mp (hgateway.mpr rfl)
        rfl
      | none =>
        obtain rfl := Option.not_isSome_iff_eq_none.mp (mt hlen.mp Bool.false_ne_true)
        obtain rfl := Option.not_isSome_iff_eq_none.mp (mt hgateway.mp Bool.false_ne_true)
        obtain rfl := not_not.mp (mt hdns Bool.false_ne_true)
        rfl
    rw [fromBytes_toBytes_eq_iff.mpr ⟨⟨h4, h6⟩, hnormalized⟩]
  · intro bytes c h
    rw [fromBytes_toBytes_eq_iff.mpr (normalized_of_fromBytes (Option.some.inj h))]

end TunnelConfig

namespace EncryptedCredentials

def fromSlice (bytes : Bytes) (_securityLevel : SecurityLevel) : ExceptT ProtocolError Option EncryptedCredentials := do
  check (4 ≤ bytes.length) (.packetTooShort 4 bytes.length)
  let ctLen ← slice bytes 0 2
  let ctLen := (ofBe16 ctLen).toNat
  check (ctLen ≤ maxCredentialsCiphertextLen) (.handshakeFailed
    s!"credentials ciphertext_len {ctLen} exceeds maximum {maxCredentialsCiphertextLen}")
  check (2 + ctLen + 2 ≤ bytes.length) (.packetTooShort (2 + ctLen + 2) bytes.length)
  let ctBytes ← slice bytes 2 ctLen
  let ciphertext ← (HybridPair.fromSlice ctBytes.bytes).adapt fun e =>
    .handshakeFailed s!"invalid credential ciphertext: {e.debug}"
  let payloadLen ← slice bytes (2 + ctLen) 2
  let payloadLen := (ofBe16 payloadLen).toNat
  check (payloadLen ≤ maxCredentialsPayloadLen) (.handshakeFailed
    s!"credentials payload_len {payloadLen} exceeds maximum {maxCredentialsPayloadLen}")
  let payload ← sliceBlock bytes (2 + ctLen + 2) payloadLen
  return ⟨ciphertext, payload.bytes⟩

theorem fromSlice_eq (bytes : Bytes) (level : SecurityLevel) : fromSlice bytes level = inside (fromBytes bytes level) := by
  simp only [fromSlice, HybridPair.fromSlice_eq]
  refine inside_bind fun _ hmin => ?_
  have hroom := ensure_eq_ok.mp hmin
  refine slice_bind (by omega) fun ctLen => inside_bind fun _ _ => inside_bind fun _ hct => ?_
  have hend := ensure_eq_ok.mp hct
  exact slice_bind (by omega) fun _ => inside_bind fun _ _ => slice_bind (by omega) fun _ => inside_bind fun _ _ =>
    sliceBlock_bind (by omega) fun _ _ => rfl

end EncryptedCredentials

namespace HandshakeInit

def credentialsFromSlice (level : SecurityLevel) (bytes : Bytes) (flagOffset : Nat) :
    ExceptT ProtocolError Option (Option EncryptedCredentials) := do
  let flag ← index bytes flagOffset
  if flag ≠ 0 then do
    let credsOffset := flagOffset + 1
    check (credsOffset < bytes.length) (.packetTooShort (credsOffset + 1) bytes.length)
    let credentials ← sliceFrom bytes credsOffset
    some <$> EncryptedCredentials.fromSlice credentials level
  else return none

def fromSlice (bytes : Bytes) : ExceptT ProtocolError Option HandshakeInit := do
  check (bytes ≠ []) (.packetTooShort 1 0)
  let levelByte ← index bytes 0
  let level ← inside (okOr (SecurityLevel.fromU8 levelByte)
    (.handshakeFailed s!"invalid security level: {levelByte}"))
  let pkSize := HybridPair.sizeForLevel SecurityLevel.mlkemPublicKeySize level
  let minSize := 1 + pkSize + 32 + 1
  -- without the flag, the message is one of the legacy format
  let legacySize := 1 + pkSize + 32
  check (legacySize ≤ bytes.length) (.packetTooShort minSize bytes.length)
  let pkBytes ← slice bytes 1 pkSize
  let clientEphemeralPk ← (HybridPair.fromSliceWithLevel pkBytes.bytes level).adapt
    fun _ => .handshakeFailed "invalid public key"
  let clientRandom ← slice bytes (1 + pkSize) 32
  let credentials ←
    if bytes.length < minSize then pure none else credentialsFromSlice level bytes legacySize
  return ⟨clientEphemeralPk, clientRandom, level, credentials⟩

theorem credentialsFromSlice_eq (level : SecurityLevel) {bytes : Bytes} {flagOffset : Nat}
    (h : flagOffset < bytes.length) :
    credentialsFromSlice level bytes flagOffset =
      inside (credentialsFromBytes level flagOffset bytes.length (bytes.drop flagOffset)) := by
  have hrest : bytes.drop (flagOffset + 1) ≠ [] ↔ flagOffset + 1 < bytes.length := by
    rw [Ne, List.drop_eq_nil_iff, Nat.not_le]
  rw [credentialsFromSlice, index, List.getElem?_eq_getElem h, List.drop_eq_getElem_cons h, credentialsFromBytes]
  generalize bytes[flagOffset] = flag
  by_cases hflag : flag = 0
  · rw [hflag]
    rfl
  · rw [if_pos hflag]
    change (if flag ≠ 0 then _ else _) = _
    rw [if_pos hflag]
    refine check_bind (fun hlt => ?_) fun hend => ?_
    · rw [sliceFrom_eq hlt.le, ensure_of (hrest.mpr hlt), pure_bind, ok_bind, fromSlice_eq]
      cases EncryptedCredentials.fromBytes (bytes.drop (flagOffset + 1)) level <;> rfl
    · rw [ensure_of_not (mt hrest.mp hend)]
      rfl

/-- The encoding of clients that know no credentials. -/
def legacyBytes (i : HandshakeInit) : Bytes :=
  i.securityLevel.asU8 :: (i.clientEphemeralPk.toBytesRaw ++ i.clientRandom.bytes)

theorem fromBytes_legacyBytes {i : HandshakeInit} (h : i.WellFormed) (hnone : i.credentials = none) :
    fromBytes i.legacyBytes = .ok i := by
  obtain ⟨pk, random, level, credentials⟩ := i
  obtain rfl : pk.securityLevel = level := h.level_eq
  have hpk := HybridPair.fromBytesWithLevel_toBytesRaw pk []
  rw [List.append_nil] at hpk
  simp only [fromBytes, legacyBytes, SecurityLevel.fromU8_asU8, okOr_some, ok_bind]
  rw [takeBlock_of_length pk.toBytesRaw_length, ok_bind]
  simp only [takeBlock_bytes, ok_bind, hpk, Except.mapError]
  exact congrArg (fun c => Except.ok (HandshakeInit.mk pk random pk.securityLevel c)) hnone.symm

theorem fromSlice_eq (bytes : Bytes) : fromSlice bytes = inside (fromBytes bytes) := by
  cases bytes with
  | nil => rfl
  | cons levelByte cursor =>
    have hlen : (levelByte :: cursor).length = 1 + cursor.length := Nat.add_comm ..
    simp only [fromSlice, HybridPair.fromSliceWithLevel_eq, hlen]
    refine inside_bind fun level _ => check_bind (fun hle => slice_bind (by omega) fun _ => ?_) fun hshort => ?_
    · simp (disch := omega) only [slice_eq, takeBlock_drop, ok_bind, pure_bind]
      refine inside_bind fun _ _ => ?_
      split
      · next hlegacy =>
        have hend : (levelByte :: cursor).drop
            (1 + HybridPair.sizeForLevel SecurityLevel.mlkemPublicKeySize level + 32) = [] :=
          List.drop_eq_nil_of_le (by omega)
        rw [hend]
        rfl
      · next hflag =>
        rw [credentialsFromSlice_eq level (by omega), hlen]
        exact inside_bind fun _ _ => rfl
    · refine takeBlock_bind_error fun hpk _ => takeBlock_bind_error fun hrandom => ?_
      rw [List.length_drop] at hrandom
      omega

end HandshakeInit

namespace HandshakeResponse

def fromSliceWithLevel (bytes : Bytes) (level : SecurityLevel) : ExceptT ProtocolError Option HandshakeResponse := do
  let ctSize := HybridPair.sizeForLevel SecurityLevel.mlkemCiphertextSize level
  let sessionId ← sliceBlock bytes 0 8
  let ctBytes ← sliceBlock bytes 8 ctSize
  let serverCiphertext ← (HybridPair.fromSliceWithLevel ctBytes.bytes level).adapt
    fun _ => .handshakeFailed "invalid ciphertext"
  let offset := 8 + ctSize
  let pkBytes ← sliceBlock bytes offset level.mldsaPublicKeySize
  let serverStaticPk ← inside ((MlDsaPublicKey.fromBytes pkBytes.bytes).mapError
    fun _ => .handshakeFailed "invalid server public key")
  let offset := offset + level.mldsaPublicKeySize
  let sigBytes ← sliceBlock bytes offset level.mldsaSignatureSize
  let signature ← inside (okOr (MlDsaSignature.fromBytesWithLevel sigBytes.bytes level)
    (.handshakeFailed s!"signature size mismatch for level {level.debug}"))
  let offset := offset + level.mldsaSignatureSize
  let serverRandom ← sliceBlock bytes offset 32
  let configLen ← sliceBlock bytes (offset + 32) 4
  let configLen := (ofBe32 configLen).toNat
  check (configLen ≤ maxConfigLen)
    (.handshakeFailed s!"config_len {configLen} exceeds maximum {maxConfigLen}")
  let offset := offset + 32 + 4
  let configBytes ← sliceBlock bytes offset configLen
  let config ← TunnelConfig.fromSlice configBytes.bytes
  let keyConfirmation ← sliceBlock bytes (offset + configLen) 32
  let kdfTimestamp ← sliceBlock bytes (offset + configLen + 32) 8
  return { sessionId := ofBe64 sessionId, serverCiphertext, serverStaticPk, signature, serverRandom,
           config, keyConfirmation, kdfTimestamp := ofBe64 kdfTimestamp }

theorem fromSliceWithLevel_eq (bytes : Bytes) (level : SecurityLevel) :
    fromSliceWithLevel bytes level = inside (fromBytesWithLevel bytes level) := by
  simp only [fromSliceWithLevel, HybridPair.fromSliceWithLevel_eq, TunnelConfig.fromSlice_eq]
  exact sliceBlock_bind (by omega) fun h8 _ => sliceBlock_bind (by omega) fun hct _ => inside_bind fun _ _ =>
    sliceBlock_bind (by omega) fun hpk _ => inside_bind fun _ _ => sliceBlock_bind (by omega) fun hsig _ =>
    inside_bind fun _ _ => sliceBlock_bind (by omega) fun h32 _ => sliceBlock_bind (by omega) fun h4 _ =>
    inside_bind fun _ _ => sliceBlock_bind (by omega) fun hconfig _ => inside_bind fun _ _ =>
    sliceBlock_bind (by omega) fun hmac _ => sliceBlock_bind (by omega) fun _ _ => rfl

end HandshakeResponse

namespace RekeyResponse

def fromSliceWithLevel (bytes : Bytes) (level : SecurityLevel) : ExceptT ProtocolError Option RekeyResponse := do
  let ctSize := HybridPair.sizeForLevel SecurityLevel.mlkemCiphertextSize level
  let sigSize := level.mldsaSignatureSize
  let minSize := ctSize + sigSize + 32 + 4 + 32 + 8 + 8
  check (minSize ≤ bytes.length) (.packetTooShort minSize bytes.length)
  let ctBytes ← slice bytes 0 ctSize
  let serverCiphertext ← (HybridPair.fromSliceWithLevel ctBytes.bytes level).adapt
    fun _ => .handshakeFailed "invalid ciphertext"
  let sigBytes ← slice bytes ctSize sigSize
  let signature ← inside (okOr (MlDsaSignature.fromBytesWithLevel sigBytes.bytes level)
    (.handshakeFailed s!"rekey signature size mismatch for level {level.debug}"))
  let offset := ctSize + sigSize
  let serverRandom ← slice bytes offset 32
  let newKeyId ← slice bytes (offset + 32) 4
  let keyConfirmation ← slice bytes (offset + 32 + 4) 32
  let kdfTimestamp ← slice bytes (offset + 32 + 4 + 32) 8
  let sessionId ← slice bytes (offset + 32 + 4 + 32 + 8) 8
  return { serverCiphertext, signature, serverRandom, newKeyId := ofBe32 newKeyId, keyConfirmation,
           kdfTimestamp := ofBe64 kdfTimestamp, sessionId := ofBe64 sessionId }

theorem fromSliceWithLevel_eq (bytes : Bytes) (level : SecurityLevel) :
    fromSliceWithLevel bytes level = inside (fromBytesWithLevel bytes level) := by
  simp only [fromSliceWithLevel, HybridPair.fromSliceWithLevel_eq]
  refine check_bind (fun hle => slice_bind (by omega) fun ct => ?_) fun hshort => ?_
  · simp (disch := omega) only [slice_eq, takeBlock_drop, ok_bind, pure_bind, Nat.zero_add]
    exact inside_bind fun _ _ => inside_bind fun _ _ => rfl
  · refine takeBlock_bind_error fun hct _ => takeBlock_bind_error fun hsig _ => takeBlock_bind_error fun h32 _ =>
      takeBlock_bind_error fun h4 _ => takeBlock_bind_error fun hmac _ => takeBlock_bind_error fun h8 _ =>
      takeBlock_bind_error fun hid _ => ?_
    simp only [List.length_drop] at hct hsig h32 h4 hmac h8 hid
    omega

end RekeyResponse

namespace EncryptedHandshakeInit

def fromSlice (bytes : Bytes) : ExceptT ProtocolError Option EncryptedHandshakeInit := do
  check (3 ≤ bytes.length) (.packetTooShort 3 bytes.length)
  let levelByte ← index bytes 0
  let securityLevel ← inside (okOr (SecurityLevel.fromU8 levelByte)
    (.handshakeFailed s!"invalid security level: {levelByte.toNat}"))
  let ctLen ← slice bytes 1 2
  let ctLen := (ofBe16 ctLen).toNat
  check (ctLen ≤ maxHybridCiphertextLen) (.handshakeFailed
    s!"ciphertext_len {ctLen} exceeds maximum {maxHybridCiphertextLen}")
  let ctBytes ← sliceBlock bytes 3 ctLen
  let encapsulationCiphertext ← (HybridPair.fromSlice ctBytes.bytes).adapt
    fun _ => .handshakeFailed "invalid encapsulation ciphertext"
  let encryptedPayload ← sliceFrom bytes (3 + ctLen)
  check (tagSize ≤ encryptedPayload.length) (.packetTooShort tagSize encryptedPayload.length)
  return ⟨securityLevel, encapsulationCiphertext, encryptedPayload⟩

theorem fromSlice_eq (bytes : Bytes) : fromSlice bytes = inside (fromBytes bytes) := by
  simp only [fromSlice, HybridPair.fromSlice_eq]
  refine inside_bind fun _ hmin => ?_
  have hroom := ensure_eq_ok.mp hmin
  refine index_bind (by omega) fun _ => inside_bind fun _ _ => slice_bind (by omega) fun ctLen => inside_bind fun _ _ =>
    sliceBlock_bind (by omega) fun hct _ => inside_bind fun _ _ => ?_
  rw [sliceFrom_eq hct]
  exact inside_bind fun _ _ => rfl

end EncryptedHandshakeInit

/-- Messages that their decoders admit come back, and no byte string makes a decoder read outside of it. -/
theorem messages_survive_wire :
    (∀ i : HandshakeInit, i.WellFormed → HandshakeInit.fromSlice i.toBytes = inside (.ok i) ∧
      (i.credentials = none → HandshakeInit.fromSlice i.legacyBytes = inside (.ok i))) ∧
    (∀ (r : HandshakeResponse) (level : SecurityLevel), r.AtLevel level →
      TunnelConfig.fromBytes r.config.toBytes = .ok r.config →
      HandshakeResponse.fromSliceWithLevel r.toBytes level = inside (.ok r)) ∧
    (∀ (r : RekeyResponse) (level : SecurityLevel), r.serverCiphertext.securityLevel = level →
      r.signature.securityLevel = level → RekeyResponse.fromSliceWithLevel r.toBytes level = inside (.ok r)) ∧
    (∀ (c : EncryptedCredentials) (level : SecurityLevel),
      c.encryptedPayload.length ≤ EncryptedCredentials.maxCredentialsPayloadLen →
      EncryptedCredentials.fromSlice c.toBytes level = inside (.ok c)) ∧
    (∀ e : EncryptedHandshakeInit, tagSize ≤ e.encryptedPayload.length →
      EncryptedHandshakeInit.fromSlice e.toBytes = inside (.ok e)) ∧
    (∀ (bytes : Bytes) (level : SecurityLevel), (HandshakeInit.fromSlice bytes).run.isSome ∧
      (HandshakeResponse.fromSliceWithLevel bytes level).run.isSome ∧
      (RekeyResponse.fromSliceWithLevel bytes level).run.isSome ∧
      (EncryptedCredentials.fromSlice bytes level).run.isSome ∧
      (EncryptedHandshakeInit.fromSlice bytes).run.isSome) ∧
    (∀ k : HybridPublicKey, k.toBytesRaw.length = 32 + k.securityLevel.mlkemPublicKeySize) ∧
    (∀ c : HybridCiphertext, c.toBytesRaw.length = 32 + c.securityLevel.mlkemCiphertextSize) ∧
    ∀ s : MlDsaSignature, s.bytes.bytes.length = s.securityLevel.mldsaSignatureSize := by
  simp only [HandshakeInit.fromSlice_eq, HandshakeResponse.fromSliceWithLevel_eq, RekeyResponse.fromSliceWithLevel_eq,
    fromSlice_eq, EncryptedHandshakeInit.fromSlice_eq]
  refine ⟨?_, ?_, ?_, ?_, ?_, fun _ _ => ⟨rfl, rfl, rfl, rfl, rfl⟩, HybridPair.toBytesRaw_length,
    HybridPair.toBytesRaw_length, fun s => s.bytes.length_bytes⟩
  · intro i hi
    rw [HandshakeInit.fromBytes_toBytes hi]
    refine ⟨rfl, fun hnone => ?_⟩
    rw [HandshakeInit.fromBytes_legacyBytes hi hnone]
  · intro r level hlevel hconfig
    obtain ⟨hdns, hnormalized⟩ := TunnelConfig.fromBytes_toBytes_eq_iff.mp hconfig
    rw [HandshakeResponse.fromBytesWithLevel_toBytes hlevel hdns, hnormalized]
  · intro r level hct hsig
    rw [RekeyResponse.fromBytesWithLevel_toBytes hct hsig]
  · intro c level hle
    rw [← List.append_nil c.toBytes, fromBytes_toBytes level [] hle]
  · intro e hle
    rw [EncryptedHandshakeInit.fromBytes_toBytes hle]

namespace WireSample

def ciphertext : HybridCiphertext := ⟨.level3, default, default⟩
def init : HandshakeInit := ⟨⟨.level3, default, default⟩, default, .level3, some ⟨ciphertext, [7]⟩⟩
def hidden : EncryptedHandshakeInit := ⟨.level3, ciphertext, List.replicate 16 0⟩
def rekey : RekeyResponse := ⟨ciphertext, ⟨.level3, default⟩, default, 1, default, 0, 1⟩
def response : HandshakeResponse :=
  ⟨1, ciphertext, ⟨List.replicate 1952 0, by decide +kernel⟩, ⟨.level3, default⟩, default,
    ⟨default, default, default, [], none, none, none, [], 1420⟩, default, 0⟩

theorem messages_survive_wire_plain : HandshakeInit.fromSlice init.toBytes = inside (.ok init) ∧
    HandshakeResponse.fromSliceWithLevel response.toBytes .level3 = inside (.ok response) ∧
    RekeyResponse.fromSliceWithLevel rekey.toBytes .level3 = inside (.ok rekey) ∧
    EncryptedCredentials.fromSlice (EncryptedCredentials.mk ciphertext [7]).toBytes .level3 =
      inside (.ok ⟨ciphertext, [7]⟩) ∧
    EncryptedHandshakeInit.fromSlice hidden.toBytes = inside (.ok hidden) := by
  obtain ⟨hinit, hresponse, hrekey, hcredentials, hhidden, -⟩ := messages_survive_wire
  refine ⟨(hinit _ ⟨rfl, ?_⟩).1, hresponse _ _ ⟨rfl, ?_, rfl⟩ ?_, hrekey _ _ rfl rfl, hcredentials _ _ ?_, hhidden _ ?_⟩
  · rintro c ⟨⟩
    decide
  all_goals decide +kernel

theorem long_credentials_refused : ∃ c : EncryptedCredentials, EncryptedCredentials.fromSlice c.toBytes .level3 =
    inside (.error (.handshakeFailed "credentials payload_len 4097 exceeds maximum 4096")) := by
  refine ⟨⟨ciphertext, List.replicate 4097 0⟩, ?_⟩
  rw [fromSlice_eq]
  exact congrArg inside (by decide +kernel)

end WireSample

end HpnVpn
