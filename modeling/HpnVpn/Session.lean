import HpnVpn.Aead
import HpnVpn.AntiReplay
import HpnVpn.Header

/-! One end of a VPN session: encryption under an increasing counter, decryption behind the window, and the switch to
new keys. -/
namespace HpnVpn
open Wire PacketHeader

inductive SessionState
  | handshaking
  | active
  | rekeying
  | closed
deriving DecidableEq

/-- Session state.  Times are milliseconds of one clock; the precomputed keys are those of `keys`. -/
structure Session where
  sessionId : SessionId
  keyId : KeyId
  state : SessionState
  keys : SessionKeys
  sendKey : PrecomputedKey
  recvKey : PrecomputedKey
  sendCounter : UInt64
  recvWindow : AntiReplayWindow
  lastActivity : Nat
  createdAt : Nat
  bytesSent : UInt64
  bytesReceived : UInt64
  sendKey_eq : sendKey = PrecomputedKey.new keys.sendKey
  recvKey_eq : recvKey = PrecomputedKey.new keys.recvKey
deriving DecidableEq

namespace Session

def new (sessionId : SessionId) (keys : SessionKeys) (now : Nat) : Session where
  sessionId := sessionId
  keyId := 0
  state := .active
  keys := keys
  sendKey := PrecomputedKey.new keys.sendKey
  recvKey := PrecomputedKey.new keys.recvKey
  sendCounter := 0
  recvWindow := AntiReplayWindow.new
  lastActivity := now
  createdAt := now
  bytesSent := 0
  bytesReceived := 0
  sendKey_eq := rfl
  recvKey_eq := rfl

def nextSendCounter (s : Session) : Session × Except SessionError Counter :=
  if s.sendCounter ≥ Counter.maxSafe then (s, .error .counterExhausted)
  else ({ s with sendCounter := s.sendCounter + 1 }, .ok s.sendCounter)

def touch (s : Session) (now : Nat) : Session := { s with lastActivity := now }

def addBytesSent (s : Session) (bytes : UInt64) : Session :=
  { s with bytesSent := s.bytesSent + bytes }

def addBytesReceived (s : Session) (bytes : UInt64) : Session :=
  { s with bytesReceived := s.bytesReceived + bytes }

def updateRecvCounter (s : Session) (counter : Counter) : Session × Bool :=
  let (w, ok) := s.recvWindow.checkAndUpdate counter
  ({ s with recvWindow := w }, ok)

def updateKeys (s : Session) (newKeys : SessionKeys) : Session :=
  { s with
    keys := newKeys
    sendKey := PrecomputedKey.new newKeys.sendKey
    recvKey := PrecomputedKey.new newKeys.recvKey
    keyId := s.keyId.next
    sendCounter := 0
    recvWindow := s.recvWindow.reset
    bytesSent := 0
    bytesReceived := 0
    sendKey_eq := rfl
    recvKey_eq := rfl }

def close (s : Session) : Session := { s with state := .closed }

/-- Encrypt a packet into a buffer of `outputLen` bytes; returns the session, the calls of the cipher and
the packet. -/
def encryptPacket (A : Aes256Gcm) (s : Session) (msgType : MessageType) (payload : Bytes)
    (outputLen : Nat) : Session × List SealCall × Except CryptoError Bytes :=
  match s.nextSendCounter with
  | (s, .error _) => (s, [], .error .encryption)
  | (s, .ok counter) =>
    let header := PacketHeader.new msgType s.sessionId s.keyId counter
    let headerSize := header.encodedSize
    let totalSize := headerSize + payload.length + tagSize
    -- the counter is spent even when the buffer turns out to be too small
    if outputLen < totalSize then (s, [], .error (.bufferTooSmall totalSize outputLen))
    else
      match header.encode headerSize with
      | .error _ => (s, [], .error .encryption)
      | .ok aad =>
        let nonce := buildNonce s.keys.sendNoncePrefix counter
        match s.sendKey.encryptInPlace A nonce aad (totalSize - headerSize) payload with
        | (calls, .error e) => (s, calls, .error e)
        | (calls, .ok ciphertext) =>
          (s.addBytesSent (UInt64.ofNat (headerSize + ciphertext.length)), calls, .ok (aad ++ ciphertext))

/-- The checks of `decrypt_packet` that come before the anti-replay state is touched, ending with the
decryption itself. -/
def openPacket (A : Aes256Gcm) (s : Session) (packet : Bytes) (outputLen : Nat) :
    Except ProtocolError (PacketHeader × Bytes) := do
  ensure (headerSize + tagSize ≤ packet.length) (.packetTooShort (headerSize + tagSize) packet.length)
  let header ← PacketHeader.decode packet
  ensure (header.sessionId = s.sessionId) (.handshakeFailed "session ID mismatch")
  let expected := s.keyId
  let got := header.keyId
  ensure (got = expected) (.handshakeFailed s!"key ID mismatch: expected {expected}, got {got}")
  let ciphertext := packet.drop header.encodedSize
  ensure (ciphertext.length ≤ outputLen) (.packetTooShort ciphertext.length outputLen)
  let nonce := buildNonce s.keys.recvNoncePrefix header.counter
  match s.recvKey.decryptInPlace A nonce (packet.take header.encodedSize) ciphertext with
  | .error _ => .error (.handshakeFailed "decryption failed")
  | .ok payload => .ok (header, payload)

def decryptPacket (A : Aes256Gcm) (s : Session) (now : Nat) (packet : Bytes) (outputLen : Nat) :
    Session × Except ProtocolError (PacketHeader × Bytes) :=
  match s.openPacket A packet outputLen with
  | .error e => (s, .error e)
  | .ok (header, payload) =>
    -- the counter is marked only after the packet has authenticated
    match s.updateRecvCounter header.counter with
    | (s, false) => (s, .error (.replayDetected header.counter))
    | (s, true) =>
      ((s.addBytesReceived (UInt64.ofNat packet.length)).touch now, .ok (header, payload))

/-! ### What one call can do -/

def nextHeader (s : Session) (msgType : MessageType) : PacketHeader :=
  PacketHeader.new msgType s.sessionId s.keyId s.sendCounter

def nextCall (s : Session) (msgType : MessageType) (payload : Bytes) : SealCall where
  key := s.keys.sendKey
  nonce := buildNonce s.keys.sendNoncePrefix s.sendCounter
  aad := (s.nextHeader msgType).toBytes
  plaintext := payload

def takeCounter (s : Session) : Session := { s with sendCounter := s.sendCounter + 1 }

def packetSize (payload : Bytes) : Nat := headerSize + payload.length + tagSize

/-- `encrypt_packet` refuses at the counter limit or for a small buffer, or makes one cipher call. -/
theorem encryptPacket_cases (A : Aes256Gcm) (s : Session) (msgType : MessageType) (payload : Bytes) (outputLen : Nat) :
    (Counter.maxSafe ≤ s.sendCounter ∧
        s.encryptPacket A msgType payload outputLen = (s, [], .error .encryption)) ∨
      (s.sendCounter < Counter.maxSafe ∧ outputLen < packetSize payload ∧
        s.encryptPacket A msgType payload outputLen =
          (s.takeCounter, [], .error (.bufferTooSmall (packetSize payload) outputLen))) ∨
      (s.sendCounter < Counter.maxSafe ∧ packetSize payload ≤ outputLen ∧
        (s.nextCall msgType payload).output A = none ∧
        s.encryptPacket A msgType payload outputLen =
          (s.takeCounter, [s.nextCall msgType payload], .error .encryption)) ∨
      (s.sendCounter < Counter.maxSafe ∧ packetSize payload ≤ outputLen ∧
        ∃ ciphertext, (s.nextCall msgType payload).output A = some ciphertext ∧
          s.encryptPacket A msgType payload outputLen =
            (s.takeCounter.addBytesSent (UInt64.ofNat (headerSize + ciphertext.length)),
              [s.nextCall msgType payload],
              .ok ((s.nextHeader msgType).toBytes ++ ciphertext))) := by
  by_cases hlimit : s.sendCounter ≥ Counter.maxSafe
  · left
    refine ⟨hlimit, ?_⟩
    rw [encryptPacket, nextSendCounter, if_pos hlimit]
  · right
    have hlt : s.sendCounter < Counter.maxSafe := UInt64.not_le.mp hlimit
    have hnext : s.nextSendCounter = (s.takeCounter, .ok s.sendCounter) := by
      rw [nextSendCounter, if_neg hlimit, takeCounter]
    rw [encryptPacket, hnext]
    dsimp only
    by_cases hsmall : outputLen < packetSize payload
    · left
      refine ⟨hlt, hsmall, ?_⟩
      exact if_pos hsmall
    · right
      have hencode : ∀ h : PacketHeader, h.encode h.encodedSize = .ok h.toBytes := fun h => by
        rw [PacketHeader.encode, ensure_of le_rfl, ok_bind]
      have hbig : packetSize payload ≤ outputLen := Nat.le_of_not_lt hsmall
      have hheader : PacketHeader.new msgType s.takeCounter.sessionId s.takeCounter.keyId s.sendCounter =
          s.nextHeader msgType := rfl
      have hsize : (s.nextHeader msgType).encodedSize + payload.length + tagSize = packetSize payload := rfl
      have hspace : ¬packetSize payload - (s.nextHeader msgType).encodedSize < payload.length + tagSize := by
        rw [show (s.nextHeader msgType).encodedSize = headerSize from rfl, packetSize]
        omega
      have hkey : s.takeCounter.sendKey.key = s.keys.sendKey := congrArg PrecomputedKey.key s.sendKey_eq
      rw [hheader, hsize, if_neg hsmall, hencode]
      dsimp only
      rw [PrecomputedKey.encryptInPlace, if_neg hspace, hkey]
      cases hout : (s.nextCall msgType payload).output A with
      | none =>
        left
        refine ⟨hlt, hbig, rfl, ?_⟩
        have hcall : A.encrypt s.keys.sendKey (buildNonce s.keys.sendNoncePrefix s.sendCounter)
          (s.nextHeader msgType).toBytes payload = none := hout
        rw [show s.takeCounter.keys = s.keys from rfl, hcall]
        rfl
      | some ciphertext =>
        right
        refine ⟨hlt, hbig, ciphertext, rfl, ?_⟩
        have hcall : A.encrypt s.keys.sendKey (buildNonce s.keys.sendNoncePrefix s.sendCounter)
          (s.nextHeader msgType).toBytes payload = some ciphertext := hout
        rw [show s.takeCounter.keys = s.keys from rfl, hcall]
        rfl

theorem counter_lt_succ {c : UInt64} (h : c < Counter.maxSafe) : c < c + 1 ∧ c + 1 ≤ Counter.maxSafe := by
  have hmax := Counter.maxSafe_toNat
  rw [UInt64.lt_iff_toNat_lt] at h
  have hadd : (c + 1).toNat = c.toNat + 1 := by
    rw [UInt64.toNat_add]
    have : (1 : UInt64).toNat = 1 := by decide
    omega
  rw [UInt64.lt_iff_toNat_lt, UInt64.le_iff_toNat_le, hadd]
  omega

variable {A : Aes256Gcm} {s : Session} {packet : Bytes} {outputLen : Nat}

/-- A well-formed header for this session and key, and a ciphertext that opens under it. -/
theorem openPacket_eq_ok
    {header : PacketHeader} {payload : Bytes} :
    s.openPacket A packet outputLen = .ok (header, payload) ↔
      header.WellFormed ∧ header.sessionId = s.sessionId ∧ header.keyId = s.keyId ∧
        ∃ ciphertext, packet = header.toBytes ++ ciphertext ∧ ciphertext.length ≤ outputLen ∧
          A.decrypt s.keys.recvKey (buildNonce s.keys.recvNoncePrefix header.counter) header.toBytes
            ciphertext = some payload := by
  have hkey : s.recvKey.key = s.keys.recvKey := congrArg PrecomputedKey.key s.recvKey_eq
  constructor
  · intro h
    simp only [openPacket, bind_ok_iff, ensure_eq_ok] at h
    obtain ⟨-, -, h', hdecode, -, hsid, -, hkid, -, hroom, h⟩ := h
    obtain ⟨hwf, ciphertext, rfl⟩ := decode_eq_ok.mp hdecode
    rw [← toBytes_length, List.drop_left, List.take_left] at *
    split at h
    · cases h
    case h_2 payload' hdecrypt =>
      cases h
      rw [PrecomputedKey.decryptInPlace_eq_ok, hkey] at hdecrypt
      exact ⟨hwf, hsid, hkid, ciphertext, rfl, hroom, hdecrypt⟩
  · rintro ⟨hwf, hsid, hkid, ciphertext, rfl, hroom, hdecrypt⟩
    have hlen : headerSize + tagSize ≤ (header.toBytes ++ ciphertext).length := by
      have htag := A.decrypt_length hdecrypt
      have hsize := header.headerSize_le_encodedSize
      rw [List.length_append, toBytes_length]
      omega
    have hopen : s.recvKey.decryptInPlace A (buildNonce s.keys.recvNoncePrefix header.counter)
        header.toBytes ciphertext = .ok payload := by
      rw [PrecomputedKey.decryptInPlace_eq_ok, hkey]
      exact hdecrypt
    have hdrop : (header.toBytes ++ ciphertext).drop header.encodedSize = ciphertext := by
      rw [← toBytes_length, List.drop_left]
    have htake : (header.toBytes ++ ciphertext).take header.encodedSize = header.toBytes := by
      rw [← toBytes_length, List.take_left]
    simp only [openPacket, ensure_of hlen, ok_bind, decode_toBytes hwf, ensure_of hsid,
      ensure_of hkid, hdrop, htake, ensure_of hroom, hopen]

def acceptPacket (s : Session) (now : Nat) (counter : Counter) (size : Nat) : Session :=
  { s with
    recvWindow := (s.recvWindow.checkAndUpdate counter).1
    bytesReceived := s.bytesReceived + UInt64.ofNat size
    lastActivity := now }

/-- `decrypt_packet` fails before the window, is refused by it, or accepts; only the last changes the
session. -/
theorem decryptPacket_cases (A : Aes256Gcm) (s : Session) (now : Nat) (packet : Bytes) (outputLen : Nat) :
    (∃ e, s.openPacket A packet outputLen = .error e ∧
        s.decryptPacket A now packet outputLen = (s, .error e)) ∨
      (∃ header payload, s.openPacket A packet outputLen = .ok (header, payload) ∧
        s.recvWindow.check header.counter = false ∧
        s.decryptPacket A now packet outputLen = (s, .error (.replayDetected header.counter))) ∨
      (∃ header payload, s.openPacket A packet outputLen = .ok (header, payload) ∧
        s.recvWindow.check header.counter = true ∧
        s.decryptPacket A now packet outputLen =
          (s.acceptPacket now header.counter packet.length, .ok (header, payload))) := by
  rw [decryptPacket]
  cases hopen : s.openPacket A packet outputLen with
  | error e => exact .inl ⟨e, rfl, rfl⟩
  | ok result =>
    obtain ⟨header, payload⟩ := result
    right
    have hcheck := s.recvWindow.check_eq header.counter
    have hupdate : s.updateRecvCounter header.counter =
        ({ s with recvWindow := (s.recvWindow.checkAndUpdate header.counter).1 },
          s.recvWindow.check header.counter) := by
      rw [hcheck]
      rfl
    dsimp only
    rw [hupdate]
    cases hok : s.recvWindow.check header.counter with
    | false =>
      left
      have hsame := AntiReplayWindow.checkAndUpdate_refused (hcheck.symm.trans hok)
      refine ⟨header, payload, rfl, hok, ?_⟩
      rw [hsame]
    | true =>
      right
      exact ⟨header, payload, rfl, hok, rfl⟩

theorem decryptPacket_rejected {s' : Session} {now : Nat}
    {e : ProtocolError}
    (h : s.decryptPacket A now packet outputLen = (s', .error e)) : s' = s := by
  rcases decryptPacket_cases A s now packet outputLen with
    ⟨e', -, heq⟩ | ⟨header, payload, -, -, heq⟩ | ⟨header, payload, -, -, heq⟩
  all_goals
    rw [heq] at h
    cases h
  · rfl
  · rfl

theorem decryptPacket_eq_ok {s' : Session} {now : Nat}
    {header : PacketHeader} {payload : Bytes} :
    s.decryptPacket A now packet outputLen = (s', .ok (header, payload)) ↔
      s.openPacket A packet outputLen = .ok (header, payload) ∧
        s.recvWindow.check header.counter = true ∧
        s' = s.acceptPacket now header.counter packet.length := by
  rcases decryptPacket_cases A s now packet outputLen with
    ⟨e', hopen, heq⟩ | ⟨header', payload', hopen, hcheck, heq⟩ | ⟨header', payload', hopen, hcheck, heq⟩
  · simp [hopen, heq]
  · rw [heq, hopen]
    constructor
    · intro h
      cases h
    · rintro ⟨h, hcheck', -⟩
      cases h
      rw [hcheck] at hcheck'
      cases hcheck'
  · rw [heq, hopen]
    constructor
    · intro h
      cases h
      exact ⟨rfl, hcheck, rfl⟩
    · rintro ⟨h, -, rfl⟩
      cases h
      rfl

end Session
end HpnVpn
