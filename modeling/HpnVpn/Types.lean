import HpnVpn.Bytes

/-! Identifiers, message types and errors shared by the packet, session and handshake layers. -/
namespace HpnVpn
open Wire

def protocolVersion : UInt8 := 1

abbrev SessionId := UInt64

abbrev KeyId := UInt32

/-- Increment the key ID for rekeying; it wraps at `2 ^ 32`. -/
def KeyId.next (k : KeyId) : KeyId := k + 1

abbrev Counter := UInt64

def Counter.maxSafe : UInt64 := (1 : UInt64) <<< (60 : UInt64)

theorem Counter.maxSafe_toNat : Counter.maxSafe.toNat = 2 ^ 60 := by decide

inductive MessageType
  | handshakeInit
  | handshakeResponse
  | data
  | keepalive
  | keepaliveReply
  | control
  | rekey
  | rekeyResponse
  | cookieRequest
  | cookieReply
  | encryptedHandshakeInit
  | handshakeFragment
deriving DecidableEq

namespace MessageType

def asU8 : MessageType → UInt8
  | handshakeInit => 1
  | handshakeResponse => 2
  | data => 3
  | keepalive => 4
  | keepaliveReply => 5
  | control => 6
  | rekey => 7
  | rekeyResponse => 8
  | cookieRequest => 9
  | cookieReply => 10
  | encryptedHandshakeInit => 11
  | handshakeFragment => 12

def fromU8 (value : UInt8) : Option MessageType :=
  match value.toNat with
  | 1 => some handshakeInit
  | 2 => some handshakeResponse
  | 3 => some data
  | 4 => some keepalive
  | 5 => some keepaliveReply
  | 6 => some control
  | 7 => some rekey
  | 8 => some rekeyResponse
  | 9 => some cookieRequest
  | 10 => some cookieReply
  | 11 => some encryptedHandshakeInit
  | 12 => some handshakeFragment
  | _ => none

def debug : MessageType → String
  | handshakeInit => "HandshakeInit"
  | handshakeResponse => "HandshakeResponse"
  | data => "Data"
  | keepalive => "Keepalive"
  | keepaliveReply => "KeepaliveReply"
  | control => "Control"
  | rekey => "Rekey"
  | rekeyResponse => "RekeyResponse"
  | cookieRequest => "CookieRequest"
  | cookieReply => "CookieReply"
  | encryptedHandshakeInit => "EncryptedHandshakeInit"
  | handshakeFragment => "HandshakeFragment"

@[simp] theorem fromU8_asU8 (t : MessageType) : fromU8 t.asU8 = some t := by
  cases t <;> rfl

theorem fromU8_eq_some {value : UInt8} {t : MessageType} : fromU8 value = some t ↔ value = t.asU8 := by
  constructor
  · intro h
    unfold fromU8 at h
    split at h <;> cases h <;> exact UInt8.toNat_inj.mp (by assumption)
  · rintro rfl
    exact fromU8_asU8 t

end MessageType

inductive SocketAddr
  | v4 (ip : Block 4) (port : UInt16)
  | v6 (ip : Block 16) (port : UInt16) (flowinfo scopeId : UInt32)
deriving DecidableEq

def ipv4 (a b c d : UInt8) : Block 4 := ⟨[a, b, c, d], rfl⟩

def ipv6 (a b : UInt8) : Block 16 := ⟨a :: b :: List.replicate 14 0, rfl⟩

inductive IpAddr
  | v4 (octets : Block 4)
  | v6 (octets : Block 16)
deriving DecidableEq

def SocketAddr.ip : SocketAddr → IpAddr
  | v4 ip _ => .v4 ip
  | v6 ip _ _ _ => .v6 ip

def SocketAddr.port : SocketAddr → UInt16
  | v4 _ port => port
  | v6 _ port _ _ => port

inductive CryptoError
  | keyGeneration
  | encapsulation
  | decapsulation
  | signatureGeneration
  | signatureVerification
  | encryption
  | decryption
  | keyDerivation
  | invalidKeyLength (expected actual : Nat)
  | invalidNonce
  | bufferTooSmall (needed available : Nat)
  | counterExhausted
  | invalidPublicKey
deriving DecidableEq

def CryptoError.debug : CryptoError → String
  | keyGeneration => "KeyGeneration"
  | encapsulation => "Encapsulation"
  | decapsulation => "Decapsulation"
  | signatureGeneration => "SignatureGeneration"
  | signatureVerification => "SignatureVerification"
  | encryption => "Encryption"
  | decryption => "Decryption"
  | keyDerivation => "KeyDerivation"
  | invalidKeyLength expected actual =>
    s!"InvalidKeyLength \x7b expected: {expected}, actual: {actual} \x7d"
  | invalidNonce => "InvalidNonce"
  | bufferTooSmall needed available =>
    s!"BufferTooSmall \x7b needed: {needed}, available: {available} \x7d"
  | counterExhausted => "CounterExhausted"
  | invalidPublicKey => "InvalidPublicKey"

inductive ProtocolError
  | invalidVersion (version : UInt8)
  | invalidMessageType (value : UInt8)
  | invalidLength (length : Nat)
  | packetTooShort (needed available : Nat)
  | invalidHeader
  | invalidHeaderFlags (flags : UInt8)
  | invalidReservedByte (reserved : UInt8)
  | unexpectedMessageType (expected actual : MessageType)
  | handshakeFailed (reason : String)
  | invalidStateTransition
  | replayDetected (counter : UInt64)
  | serialization (reason : String)
  | invalidData (reason : String)
deriving DecidableEq

def hexByte (b : UInt8) : String := String.ofList [Nat.digitChar (b.toNat / 16), Nat.digitChar (b.toNat % 16)]

def ProtocolError.display : ProtocolError → String
  | .invalidVersion version => s!"invalid protocol version: {version.toNat}"
  | .invalidMessageType value => s!"invalid message type: {value.toNat}"
  | .invalidLength length => s!"invalid packet length: {length}"
  | .packetTooShort needed available => s!"packet too short: need {needed}, have {available}"
  | .invalidHeader => "invalid header"
  | .invalidHeaderFlags flags => s!"invalid header flags byte: 0x{hexByte flags} contains undefined bits"
  | .invalidReservedByte reserved => s!"invalid header reserved byte: 0x{hexByte reserved} (must be 0)"
  | .unexpectedMessageType expected actual =>
    s!"unexpected message type: expected {expected.debug}, got {actual.debug}"
  | .handshakeFailed reason => s!"handshake failed: {reason}"
  | .invalidStateTransition => "invalid state transition"
  | .replayDetected counter => s!"replay attack detected: counter {counter.toNat}"
  | .serialization reason => s!"serialization error: {reason}"
  | .invalidData reason => s!"invalid data: {reason}"

inductive SessionError
  | notFound (sessionId : SessionId)
  | expired
  | limitReached
  | invalidState
  | keyIdMismatch (expected actual : UInt32)
  | ipPoolExhausted
  | counterExhausted
deriving DecidableEq

end HpnVpn
