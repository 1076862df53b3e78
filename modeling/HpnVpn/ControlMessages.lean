import HpnVpn.Handshake

/-! Keep-alives and their replies, and control messages with the signed acknowledgement of a new endpoint. -/
namespace HpnVpn
open Wire

/-! ### Keep-alive -/

structure KeepaliveMessage where
  sequence : UInt32
deriving DecidableEq

namespace KeepaliveMessage

def size : Nat := 4

def toBytes (m : KeepaliveMessage) : Bytes := (be32 m.sequence).bytes

def fromBytes (bytes : Bytes) : Except ProtocolError KeepaliveMessage := do
  let (sequence, _) ← takeBlock (.packetTooShort size bytes.length) 4 bytes
  return ⟨ofBe32 sequence⟩

end KeepaliveMessage

structure KeepaliveReplyMessage where
  sequence : UInt32
  serverTimestamp : UInt64
deriving DecidableEq

namespace KeepaliveReplyMessage

def size : Nat := 12

def toBytes (m : KeepaliveReplyMessage) : Bytes :=
  (be32 m.sequence).bytes ++ (be64 m.serverTimestamp).bytes

def fromBytes (bytes : Bytes) : Except ProtocolError KeepaliveReplyMessage := do
  let short := ProtocolError.packetTooShort size bytes.length
  let (sequence, rest) ← takeBlock short 4 bytes
  let (serverTimestamp, _) ← takeBlock short 8 rest
  return ⟨ofBe32 sequence, ofBe64 serverTimestamp⟩

end KeepaliveReplyMessage

/-! ### Signed rebind acknowledgement -/

structure SignedRebindAckPayload where
  securityLevel : SecurityLevel
  timestamp : UInt64
  endpoint : SocketAddr
  signature : MlDsaSignature
deriving DecidableEq

namespace SignedRebindAckPayload

/-- Sign the endpoint a session is bound to; `timestamp` is the server's clock in seconds. -/
def sign (P : Primitives) (keypair : MlDsaKeypair) (sessionId : SessionId) (endpoint : SocketAddr)
    (timestamp : UInt64) (coins : Block 32) : Except ProtocolError SignedRebindAckPayload := do
  let signature ← (keypair.sign P (buildRebindAckTranscript sessionId timestamp endpoint) coins).mapError
    fun e => .handshakeFailed ("rebind-ack signing failed: " ++ e.debug)
  return ⟨keypair.securityLevel, timestamp, endpoint, signature⟩

def maxRebindAckAgeSecs : UInt64 := 300

def maxRebindAckFutureSkewSecs : UInt64 := 60

/-- Check the age and then the signature, for the session the client has; `now` is its clock in
seconds. -/
def verify (P : Primitives) (p : SignedRebindAckPayload) (serverStaticPk : MlDsaPublicKey)
    (expectedSessionId : SessionId) (now : UInt64) : Except ProtocolError Unit := do
  let timestamp := p.timestamp
  let ahead := timestamp - now
  let age := now - timestamp
  ensure (timestamp ≤ now ∨ ahead ≤ maxRebindAckFutureSkewSecs) (.invalidData
    s!"rebind-ack timestamp {timestamp} is {ahead} s in the future (max {maxRebindAckFutureSkewSecs} s)")
  ensure (now < timestamp ∨ age ≤ maxRebindAckAgeSecs) (.invalidData
    s!"rebind-ack timestamp {timestamp} is {age} s old (max {maxRebindAckAgeSecs} s)")
  (MlDsa.verify P serverStaticPk (buildRebindAckTranscript expectedSessionId timestamp p.endpoint)
    p.signature p.securityLevel).mapError
    fun e => .handshakeFailed ("rebind-ack signature verification failed: " ++ e.debug)

def endpointBytes : SocketAddr → Bytes
  | .v4 ip port => 4 :: (ip.bytes ++ (be16 port).bytes)
  | .v6 ip port _ _ => 6 :: (ip.bytes ++ (be16 port).bytes)

variable (p : SignedRebindAckPayload)

def toBytes : Bytes :=
  p.securityLevel.asU8 :: ((be64 p.timestamp).bytes ++ (endpointBytes p.endpoint ++ p.signature.bytes.bytes))

def minPayloadSize : Nat := 1 + 8 + 1 + 4 + 2 + SecurityLevel.level3.mldsaSignatureSize

/-- The endpoint at `cursor`, ten bytes into the payload, and how far it reaches. -/
def endpointFromBytes (available : Nat) (family : UInt8) (cursor : Bytes) :
    Except ProtocolError (SocketAddr × Nat × Bytes) :=
  if family = 4 then do
    let short := ProtocolError.packetTooShort (10 + 4 + 2) available
    let (ip, cursor) ← takeBlock short 4 cursor
    let (port, cursor) ← takeBlock short 2 cursor
    return (.v4 ip (ofBe16 port), 16, cursor)
  else if family = 6 then do
    let short := ProtocolError.packetTooShort (10 + 16 + 2) available
    let (ip, cursor) ← takeBlock short 16 cursor
    let (port, cursor) ← takeBlock short 2 cursor
    return (.v6 ip (ofBe16 port) 0 0, 28, cursor)
  else .error (.invalidData s!"invalid address family in rebind-ack: {family}")

def fromBytes (bytes : Bytes) : Except ProtocolError SignedRebindAckPayload := do
  let available := bytes.length
  let short := ProtocolError.packetTooShort minPayloadSize available
  ensure (minPayloadSize ≤ available) short
  let (levelByte, cursor) ← takeByte short bytes
  let level ← okOr (SecurityLevel.fromU8 levelByte) (.invalidData s!"invalid security level in rebind-ack: {levelByte}")
  let (timestamp, cursor) ← takeBlock short 8 cursor
  let (family, cursor) ← takeByte short cursor
  let (endpoint, offset, cursor) ← endpointFromBytes available family cursor
  let (sigBytes, _) ← takeBlock (.packetTooShort (offset + level.mldsaSignatureSize) available)
    level.mldsaSignatureSize cursor
  let signature ← okOr (MlDsaSignature.fromBytesWithLevel sigBytes.bytes level)
    (.handshakeFailed s!"rebind-ack signature size mismatch for level {level.debug}")
  return ⟨level, ofBe64 timestamp, endpoint, signature⟩

/-- The codec keeps everything but the flow label and the scope of the endpoint. -/
theorem fromBytes_toBytes (hlevel : p.signature.securityLevel = p.securityLevel) :
    ∃ endpoint : SocketAddr, endpoint.ip = p.endpoint.ip ∧ endpoint.port = p.endpoint.port ∧
      fromBytes p.toBytes = .ok { p with endpoint } := by
  obtain ⟨_, timestamp, endpoint, level, sig⟩ := p
  obtain rfl : level = _ := hlevel
  have hsig := MlDsaSignature.fromBytesWithLevel_bytes ⟨level, sig⟩
  have hmin : minPayloadSize ≤ (toBytes ⟨level, timestamp, endpoint, level, sig⟩).length := by
    cases endpoint <;> cases level <;> simp [toBytes, endpointBytes, minPayloadSize] <;> decide
  unfold fromBytes
  dsimp only
  rw [ensure_of hmin, ok_bind]
  cases endpoint with
  | v4 ip port => exact ⟨.v4 ip port, rfl, rfl, by simp [toBytes, endpointBytes, endpointFromBytes, hsig]⟩
  | v6 ip port => exact ⟨.v6 ip port 0 0, rfl, rfl, by simp [toBytes, endpointBytes, endpointFromBytes, hsig]⟩

end SignedRebindAckPayload

/-! ### Control messages -/

inductive ControlType
  | error
  | rebind
  | rebindAck
  | config
  | close
deriving DecidableEq

namespace ControlType

def asU8 : ControlType → UInt8
  | error => 1
  | rebind => 2
  | rebindAck => 3
  | config => 4
  | close => 5

def fromU8 (value : UInt8) : Option ControlType :=
  if value = 1 then some error
  else if value = 2 then some rebind
  else if value = 3 then some rebindAck
  else if value = 4 then some config
  else if value = 5 then some close
  else none

end ControlType

def maxControlMessageLen : Nat := 1024

/-- The text is kept as its bytes. -/
structure ControlMessage where
  controlType : ControlType
  errorCode : Option UInt16
  message : Option Bytes
  signedPayload : Option SignedRebindAckPayload
deriving DecidableEq

namespace ControlMessage

def close : ControlMessage := ⟨.close, none, none, none⟩

def rebindAckSigned (payload : SignedRebindAckPayload) : ControlMessage :=
  ⟨.rebindAck, none, none, some payload⟩

def sizedBytes (cap : Nat) (bytes : Bytes) : Bytes :=
  (be16 (UInt16.ofNat (min bytes.length cap))).bytes ++ bytes.take cap

def toBytes (m : ControlMessage) : Bytes :=
  m.controlType.asU8 :: ((be16 (m.errorCode.getD 0)).bytes ++
    (sizedBytes maxControlMessageLen (m.message.getD []) ++
      match m.signedPayload with
      | none => []
      | some payload => sizedBytes 65535 payload.toBytes))

def signedPayloadFromBytes (offset available : Nat) (cursor : Bytes) :
    Except ProtocolError (Option SignedRebindAckPayload) :=
  if cursor.length < 2 then .ok none
  else do
    let (sigLen, cursor) ← takeBlock (.packetTooShort (offset + 2) available) 2 cursor
    let sigLen := (ofBe16 sigLen).toNat
    if sigLen = 0 then return none
    let (sigBlock, _) ← takeBlock (.packetTooShort (offset + 2 + sigLen) available) sigLen cursor
    some <$> SignedRebindAckPayload.fromBytes sigBlock.bytes

def fromBytes (bytes : Bytes) : Except ProtocolError ControlMessage := do
  let available := bytes.length
  let short := ProtocolError.packetTooShort 5 available
  ensure (5 ≤ available) short
  let (typeByte, cursor) ← takeByte short bytes
  let controlType ← okOr (ControlType.fromU8 typeByte) .invalidHeader
  let (errorCode, cursor) ← takeBlock short 2 cursor
  let (msgLen, cursor) ← takeBlock short 2 cursor
  let errorCode := ofBe16 errorCode
  let msgLen := (ofBe16 msgLen).toNat
  ensure (msgLen ≤ maxControlMessageLen)
    (.invalidData s!"control message too long: {msgLen} bytes (max {maxControlMessageLen})")
  let (message, cursor) ← takeBlock (.packetTooShort (5 + msgLen) available) msgLen cursor
  let signedPayload ← signedPayloadFromBytes (5 + msgLen) available cursor
  return { controlType
           errorCode := if errorCode > 0 then some errorCode else none
           message := if msgLen > 0 then some message.bytes else none
           signedPayload }

end ControlMessage

end HpnVpn
