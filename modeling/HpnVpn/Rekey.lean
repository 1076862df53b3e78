import HpnVpn.ClientSession
import HpnVpn.Handshake

/-! Rekeying a session: the client's request, response and timeout, and the server's handler, which switches keys once
it has sealed its response. -/
namespace HpnVpn
open Wire

def maxPacketSize : Nat := 65535

/-! ### Client -/

inductive ClientError
  | config (reason : String)
  | invalidState (reason : String)
  | crypto (e : CryptoError)
  | protocol (e : ProtocolError)
  | connectionIo
  | connection (reason : String)
  | keepaliveTimeout (reason : String)
  | notConnected
  | handshake (reason : String)
  | shutdown
  | auth (reason : String)
  | timeout (reason : String)
  | reconnectionDisabled
  | reconnectionFailed (attempts : UInt32) (last : ClientError)
deriving DecidableEq

/-- The settings the client's rekey path reads; the timeout is in milliseconds. -/
structure RekeySettings where
  serverPublicKey : MlDsaPublicKey
  securityLevel : SecurityLevel
  connectionTimeout : Nat

/-- A connected client: its session and the rekey it has pending. -/
structure VpnClient where
  session : Session
  rekeyHandler : Option ClientRekey
  rekeyInProgress : Bool
  rekeyStartedAt : Option Nat
deriving DecidableEq

namespace VpnClient

variable (P : Primitives) (settings : RekeySettings) (c : VpnClient)

def clearRekeyState : VpnClient :=
  { c with rekeyHandler := none, rekeyInProgress := false, rekeyStartedAt := none }

/-- Start a rekey; `sendOk` is whether the socket takes the packet.  Returns the packet sent. -/
def initiateRekey (coins : HybridKem.KeypairCoins) (clientRandom : Block 32) (now : Nat) (sendOk : Bool) :
    VpnClient × Except ClientError Bytes :=
  if c.rekeyInProgress then (c, .error (.invalidState "rekey already in progress"))
  else
    let (handler, request) := (ClientRekey.withSecurityLevel settings.serverPublicKey
      c.session.sessionId settings.securityLevel).createRequest P coins clientRandom
    let payload := request.toBytes
    match c.session.encryptPacket P.aes256Gcm .rekey payload
        (headerSize + payload.length + tagSize + 32) with
    | (session, _, .error e) => ({ c with session }, .error (.crypto e))
    | (session, _, .ok packet) =>
      let c := { c with session, rekeyHandler := some handler, rekeyInProgress := true
                        rekeyStartedAt := some now }
      if sendOk then (c, .ok packet) else (c.clearRekeyState, .error .connectionIo)

def processRekeyResponse (payload : Bytes) :
    VpnClient × Except ClientError Unit :=
  match RekeyResponse.fromBytesWithLevel payload settings.securityLevel with
  | .error e => (c, .error (.protocol e))
  | .ok response =>
    match c.rekeyHandler with
    | none => (c, .error (.invalidState "received rekey response without pending rekey"))
    | some handler =>
      match handler.processResponse P response with
      | (handler, .error e) => ({ c with rekeyHandler := some handler }, .error (.protocol e))
      | (_, .ok newKeys) =>
        (({ c with session := c.session.updateKeys newKeys } : VpnClient).clearRekeyState, .ok ())

/-- A rekey response off the socket: decrypt, process, and clear the pending rekey if either fails. -/
def receiveRekeyResponse (now : Nat) (packet : Bytes) : VpnClient :=
  match c.session.decryptPacket P.aes256Gcm now packet maxPacketSize with
  | (session, .error _) => ({ c with session } : VpnClient).clearRekeyState
  | (session, .ok (_, payload)) =>
    match processRekeyResponse P settings { c with session } payload with
    | (c, .ok ()) => c
    | (c, .error _) => c.clearRekeyState

def RekeyTimedOut (now : Nat) : Prop :=
  ∃ startedAt ∈ c.rekeyStartedAt, settings.connectionTimeout < now - startedAt

instance (settings : RekeySettings) (c : VpnClient) (now : Nat) : Decidable (RekeyTimedOut settings c now) := by
  unfold RekeyTimedOut
  infer_instance

def rekeyTimeoutTick (now : Nat) : VpnClient :=
  if RekeyTimedOut settings c now then c.clearRekeyState else c

end VpnClient

/-! ### Server -/

abbrev ServerKeypairs := SecurityLevel → MlDsaKeypair

namespace ClientSession

/-- Answer a rekey request from `addr`.  The session keeps the new keys even if the queue is full. -/
def answerRekey (P : Primitives) (keypairFor : ServerKeypairs) (c : ClientSession) (payload : Bytes)
    (addr : SocketAddr) (draws : ServerHandshake.Draws) (now : UInt64) (queueHasRoom : Bool) :
    ClientSession × Option Bytes :=
  match RekeyMessage.fromBytes payload with
  | .error _ => (c, none)
  | .ok rekey =>
    if c.clientAddr ≠ addr then (c, none)
    else if rekey.clientEphemeralPk.securityLevel ≠ c.securityLevel then (c, none)
    else
      match (ServerHandshake.mk (keypairFor rekey.clientEphemeralPk.securityLevel) none).processRekey P
          rekey c.session.keyId c.session.sessionId draws with
      | .error _ => (c, none)
      | .ok (response, newKeys) =>
        let payload := response.toBytes
        match c.session.encryptPacket P.aes256Gcm .rekeyResponse payload
            (headerSize + payload.length + tagSize + 32) with
        | (session, _, .error _) => ({ c with session }, none)
        | (session, _, .ok packet) =>
          (({ c with session := session.updateKeys newKeys } : ClientSession).touch now,
            if queueHasRoom then some packet else none)

/-- Handle a rekey datagram; the response goes to the registered address. -/
def handleRekey (P : Primitives) (keypairFor : ServerKeypairs) (c : ClientSession) (data : Bytes)
    (addr : SocketAddr) (draws : ServerHandshake.Draws) (now : UInt64) (queueHasRoom : Bool) :
    ClientSession × Option Bytes :=
  match c.session.decryptPacket P.aes256Gcm (millis now) data data.length with
  | (session, .error _) => ({ c with session }, none)
  | (session, .ok (_, payload)) =>
    answerRekey P keypairFor { c with session } payload addr draws now queueHasRoom

end ClientSession

end HpnVpn
