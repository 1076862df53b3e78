import HpnVpn.AccountLogin
import HpnVpn.Cookies
import HpnVpn.RekeyDue

/-! The client between its calls: `connect`, `disconnect` and `attempt_reconnect` wait, and meanwhile other calls and
the receive loop run.  Each writes state and session on its own. -/
namespace HpnVpn
open Wire Runs

namespace Client

/-! ### Calls on the session -/

variable (P : Primitives) (settings : ClientSettings) (D : AddrDisplay) (c : Client)

def sendData (payload : Bytes) (sendOk : Bool) : Client × Except ClientError Bytes :=
  match c.sendPacket P .data payload maxPacketSize with
  | (c, .error e) => (c, .error e)
  | (c, .ok packet) => (c, if sendOk then .ok packet else .error .connectionIo)

def initiateRekey (P : Primitives) (settings : RekeySettings) (c : Client) (coins : HybridKem.KeypairCoins)
    (clientRandom : Block 32) (now : Nat) (sendOk : Bool) : Client × Except ClientError Bytes :=
  match c.session with
  | none => (c, .error (if c.rekeyInProgress then .invalidState "rekey already in progress" else .notConnected))
  | some session =>
    let (v, result) := (c.connected session).initiateRekey P settings coins clientRandom now sendOk
    (c.setConnected v, result)

def sealRebind (newEndpoint : SocketAddr) :
    Client × Except ClientError Bytes :=
  if c.rebindPending then (c, .error (.invalidState "rebind already pending"))
  else
    let payload := ControlMessage.toBytes ⟨.rebind, none, some (D.toText newEndpoint), none⟩
    c.sendPacket P .control payload (headerSize + payload.length + tagSize + 32)

def markRebind (newEndpoint : SocketAddr) : Client × List ClientEvent :=
  ({ c with rebindPending := true }, [.rebindRequested newEndpoint])

def sendRebind (newEndpoint : SocketAddr) (sendOk : Bool) :
    Handled Bytes :=
  match c.sealRebind P D newEndpoint with
  | (c, .error e) => (c, [], .error e)
  | (c, .ok packet) =>
    if sendOk then
      let (c, events) := c.markRebind newEndpoint
      (c, events, .ok packet)
    else (c, [], .error .connectionIo)

def resetKeepaliveState : Client :=
  { c with lastKeepaliveSent := none, lastKeepaliveReceived := none, pendingKeepaliveSeq := none
           missedKeepalives := 0, keepaliveSeq := 0 }

def resetForReconnect : Client := c.resetKeepaliveState.clearRekeyState

end Client

/-! ### Calls that wait -/

structure ConnectSettings extends ClientSettings where
  autoReconnect : Bool
  maxReconnectAttempts : UInt32

/-- Where a call waits: `connect` for the handshake (with the attempt's number under `attempt_reconnect`),
`attempt_reconnect` for its delay or socket, `disconnect` for the socket. -/
inductive WaitingCall
  | handshake (attempt : Option UInt32)
  | backoff (attempt : UInt32)
  | transportRebind (attempt : UInt32)
  | closing
deriving DecidableEq

/-- The client and the calls that are waiting.  `sent` are the packets sealed under a session so far. -/
structure ClientWorld where
  client : Client
  tunnelInfo : Option TunnelConfig
  reconnectAttempts : UInt32
  connectInProgress : Bool
  waiting : List WaitingCall
  events : List ClientEvent
  sent : List Bytes
deriving DecidableEq

abbrev HandshakeOutcome := Except ClientError (SessionId × SessionKeys × TunnelConfig)

abbrev Returned := Option (Except ClientError TunnelConfig)

namespace ClientWorld

def new : ClientWorld where
  client := ⟨.disconnected, none, false, none, none, 0, none, 0, none, false, none, false⟩
  tunnelInfo := none
  reconnectAttempts := 0
  connectInProgress := false
  waiting := []
  events := []
  sent := []

def setState (w : ClientWorld) (state : ClientState) : ClientWorld :=
  let (client, events) := w.client.setState state
  { w with client, events := w.events ++ events }

variable (P : Primitives) (D : AddrDisplay) (settings : ConnectSettings) (w : ClientWorld)

def emit (event : ClientEvent) : ClientWorld := { w with events := w.events ++ [event] }

def wait (call : WaitingCall) : ClientWorld := { w with waiting := w.waiting ++ [call] }

def connectWithCredentials (credentials : Option Credentials) (attempt : Option UInt32) :
    ClientWorld × Returned :=
  if w.client.state = .connected then (w, some (okOr w.tunnelInfo (.invalidState "already connected")))
  else if w.connectInProgress then (w, some (.error (.invalidState "connection already in progress")))
  else
    match credentials.map Credentials.validate with
    | some (.error e) => (w, some (.error e))
    | _ => ((({ w with connectInProgress := true } : ClientWorld).setState .connecting).wait (.handshake attempt), none)

def finishConnect (now : Nat) : HandshakeOutcome → ClientWorld × Except ClientError TunnelConfig
  | .ok (sessionId, keys, config) =>
    let w := { w with client := { w.client with session := some (Session.new sessionId keys now) }
                      tunnelInfo := some config }
    let w := { w.setState .connected with connectInProgress := false }
    (w.emit (.connected config), .ok config)
  | .error e =>
    let w := ({ w with connectInProgress := false } : ClientWorld).setState .disconnected
    match e with
    | .auth _ => (w.emit (.error (.authenticationFailed e)), .error e)
    | _ => (w.emit (.error (.handshakeFailed e)), .error e)

def finishDisconnect : ClientWorld :=
  let w := { w with client := { w.client.clearRekeyState with session := none }, tunnelInfo := none }
  (w.setState .disconnected).emit (.disconnected (ascii "user requested"))

def disconnect : ClientWorld :=
  if w.client.state = .disconnected then w
  else
    let w := w.setState .disconnecting
    let payload := ControlMessage.close.toBytes
    let (client, packetData) := w.client.sendPacket P .control payload (headerSize + payload.length + tagSize + 32)
    let w := { w with client := { client with session := client.session.map Session.close } }
    match packetData with
    | .ok data => ({ w with sent := w.sent ++ [data] } : ClientWorld).wait .closing
    | .error _ => w.finishDisconnect

/-! ### Reconnecting -/

def shouldReconnect : Bool :=
  settings.autoReconnect && (settings.maxReconnectAttempts == 0 || w.reconnectAttempts < settings.maxReconnectAttempts)

def nextAttempt : ClientWorld :=
  let attempt := w.reconnectAttempts + 1
  (({ w with reconnectAttempts := attempt } : ClientWorld).emit
    (.reconnecting attempt settings.maxReconnectAttempts)).wait (.backoff attempt)

def attemptReconnect : ClientWorld × Returned :=
  if w.shouldReconnect settings then ((w.setState .reconnecting).nextAttempt settings, none)
  else (w, some (.error .reconnectionDisabled))

def beginAttempt (attempt : UInt32) : ClientWorld × Returned :=
  if w.client.shutdown then (w, some (.error .shutdown))
  else
    let w := { w with client := { w.client.resetForReconnect with session := none }, tunnelInfo := none }
    (w.wait (.transportRebind attempt), none)

def endAttempt (attempt : UInt32) :
    Except ClientError TunnelConfig → ClientWorld × Returned
  | .ok tunnelInfo => ({ w with reconnectAttempts := 0 }, some (.ok tunnelInfo))
  | .error e =>
    if w.shouldReconnect settings then (w.nextAttempt settings, none)
    else
      ((w.setState .disconnected).emit (.reconnectionFailed attempt e), some (.error (.reconnectionFailed attempt e)))

def reconnect (attempt : UInt32) : ClientWorld × Returned :=
  match w.connectWithCredentials none (some attempt) with
  | (w, none) => (w, none)
  | (w, some result) => w.endAttempt settings attempt result

def resume (now : Nat) (outcome : HandshakeOutcome) :
    WaitingCall → ClientWorld × Returned
  | .handshake attempt =>
    let (w, result) := w.finishConnect now outcome
    match attempt with
    | none => (w, some result)
    | some attempt => w.endAttempt settings attempt result
  | .backoff attempt => w.beginAttempt attempt
  | .transportRebind attempt => w.reconnect settings attempt
  | .closing => (w.finishDisconnect, none)

/-! ### Runs -/

/-- A call, a branch of the receive loop, or a waiting call that goes on.  The calls on the session are one step. -/
inductive ClientCall
  | connect (credentials : Option Credentials)
  | disconnect
  | attemptReconnect
  | shutdown
  | sendData (payload : Bytes) (sendOk : Bool)
  | sendKeepalive (now : Nat) (sendOk : Bool)
  | initiateRekey (coins : HybridKem.KeypairCoins) (clientRandom : Block 32) (now : Nat) (sendOk : Bool)
  | sendRebind (newEndpoint : SocketAddr) (sendOk : Bool)
  | loop (now : Nat) (wallClock : UInt64) (event : Client.LoopEvent)
  | resume (i : Nat) (now : Nat) (outcome : HandshakeOutcome)

def carry (r : Client × Except ClientError Bytes) : ClientWorld :=
  { w with client := r.1, sent := w.sent ++ r.2.toOption.toList }

def step : ClientCall → ClientWorld
  | .connect credentials => (w.connectWithCredentials credentials none).1
  | .disconnect => w.disconnect P
  | .attemptReconnect => (w.attemptReconnect settings).1
  | .shutdown => { w with client := { w.client with shutdown := true } }
  | .sendData payload sendOk => w.carry (w.client.sendData P payload sendOk)
  | .sendKeepalive now sendOk => w.carry (w.client.sendKeepalive P now sendOk)
  | .initiateRekey coins clientRandom now sendOk =>
    w.carry (w.client.initiateRekey P settings.toRekeySettings coins clientRandom now sendOk)
  | .sendRebind newEndpoint sendOk =>
    let (client, events, result) := w.client.sendRebind P D newEndpoint sendOk
    ({ w with events := w.events ++ events } : ClientWorld).carry (client, result)
  | .loop now wallClock event =>
    let pass := w.client.branch P settings.toClientSettings now wallClock event
    { w with client := pass.client, events := w.events ++ pass.events, sent := w.sent ++ pass.sent.toList }
  | .resume i now outcome =>
    match w.waiting[i]? with
    | none => w
    | some call => (({ w with waiting := w.waiting.eraseIdx i } : ClientWorld).resume settings now outcome call).1

end ClientWorld

end HpnVpn
