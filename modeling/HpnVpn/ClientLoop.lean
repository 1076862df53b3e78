import HpnVpn.ControlMessages
import HpnVpn.Rekey

/-! The client's receive loop.  The type of a datagram is read before anything is authenticated, and the error
handling depends on it. -/
namespace HpnVpn
open Wire AuthEnc

inductive ClientState
  | disconnected
  | connecting
  | connected
  | reconnecting
  | disconnecting
deriving DecidableEq

/-- What an error event says; the text around it is left out. -/
inductive ErrorReport
  | serverError (message : Bytes)
  | rebindAckInvalid (e : ProtocolError)
  | rebindAckUnsigned
  | handshakeFailed (e : ClientError)
  | authenticationFailed (e : ClientError)
deriving DecidableEq

inductive ClientEvent
  | stateChanged (state : ClientState)
  | disconnected (reason : Bytes)
  | keepalive (sequence : UInt32) (rttMs : UInt64)
  | error (report : ErrorReport)
  | rekeyComplete (newKeyId : UInt32)
  | controlReceived (controlType : ControlType) (message : Option Bytes)
  | keepaliveTimeout (missedCount : UInt32)
  | rebindAcknowledged
  | rebindRequested (newEndpoint : SocketAddr)
  | connected (info : TunnelConfig)
  | reconnecting (attempt maxAttempts : UInt32)
  | reconnectionFailed (attempts : UInt32) (last : ClientError)
deriving DecidableEq

/-- The settings the receive loop reads; times are milliseconds. -/
structure ClientSettings extends RekeySettings where
  keepaliveInterval : Nat
  keepaliveTimeout : Nat
  keepaliveTimeoutCount : UInt32
  rekeyAfterBytes : UInt64
  rekeyInterval : Nat
  requireSignedRebindAck : Bool

/-- The client's state.  While a session is live, `VpnClient` is what rekeying sees of it. -/
structure Client where
  state : ClientState
  session : Option Session
  shutdown : Bool
  lastKeepaliveSent : Option Nat
  lastKeepaliveReceived : Option Nat
  keepaliveSeq : UInt32
  pendingKeepaliveSeq : Option UInt32
  missedKeepalives : UInt32
  rekeyHandler : Option ClientRekey
  rekeyInProgress : Bool
  rekeyStartedAt : Option Nat
  rebindPending : Bool
deriving DecidableEq

def Session.needsRekey (s : Session) (maxBytes : UInt64) (maxDuration now : Nat) : Bool :=
  maxBytes ≤ saturatingAdd s.bytesSent s.bytesReceived ∨ maxDuration ≤ now - s.createdAt

abbrev Handled (α : Type) := Client × List ClientEvent × Except ClientError α

namespace Client

variable (A : Aes256Gcm) (P : Primitives) (settings : ClientSettings) (c : Client)

def connected (session : Session) : VpnClient :=
  ⟨session, c.rekeyHandler, c.rekeyInProgress, c.rekeyStartedAt⟩

def setConnected (v : VpnClient) : Client :=
  { c with session := some v.session, rekeyHandler := v.rekeyHandler
           rekeyInProgress := v.rekeyInProgress, rekeyStartedAt := v.rekeyStartedAt }

def clearRekeyState : Client :=
  { c with rekeyHandler := none, rekeyInProgress := false, rekeyStartedAt := none }

def setState (state : ClientState) : Client × List ClientEvent :=
  if c.state = state then (c, []) else ({ c with state }, [.stateChanged state])

/-! ### Packets -/

def processRebindAck (wallClock : UInt64)
    (signedPayload : Option SignedRebindAckPayload) : Client × List ClientEvent :=
  match c.session with
  | none => (c, [])
  | some session =>
    match signedPayload with
    | some signed =>
      match signed.verify P settings.serverPublicKey session.sessionId wallClock with
      | .ok () => ({ c with rebindPending := false }, [.rebindAcknowledged])
      | .error e => (c, [.error (.rebindAckInvalid e)])
    | none =>
      if settings.requireSignedRebindAck then (c, [.error .rebindAckUnsigned])
      else ({ c with rebindPending := false }, [.rebindAcknowledged])

def processControlMessage (wallClock : UInt64) (payload : Bytes) : Handled Bytes :=
  match ControlMessage.fromBytes payload with
  | .error e => (c, [], .error (.protocol e))
  | .ok control =>
    let received := ClientEvent.controlReceived control.controlType control.message
    match control.controlType with
    | .close =>
      let (c, events) := c.setState .disconnected
      (c, received :: events ++ [.disconnected (control.message.getD (ascii "server closed connection"))], .ok [])
    | .error =>
      (c, [received, .error (.serverError (control.message.getD (ascii "unknown error")))], .ok [])
    | .rebindAck =>
      let (c, events) := c.processRebindAck P settings wallClock control.signedPayload
      (c, received :: events, .ok [])
    | .rebind => (c, [received], .ok [])
    | .config => (c, [received], .ok [])

def processRekeyResponse (payload : Bytes) : Handled Bytes :=
  match RekeyResponse.fromBytesWithLevel payload settings.securityLevel with
  | .error e => (c, [], .error (.protocol e))
  | .ok response =>
    match c.rekeyHandler with
    | none => (c, [], .error (.invalidState "received rekey response without pending rekey"))
    | some handler =>
      match handler.processResponse P response with
      | (handler, .error e) => ({ c with rekeyHandler := some handler }, [], .error (.protocol e))
      | (handler, .ok newKeys) =>
        match c.session with
        | none => ({ c with rekeyHandler := some handler }, [], .error .notConnected)
        | some session =>
          (({ c with session := some (session.updateKeys newKeys) } : Client).clearRekeyState,
            [.rekeyComplete response.newKeyId], .ok [])

/-- Process a keep-alive reply; one that answers an older keep-alive counts as well. -/
def processKeepaliveReply (now : Nat) (payload : Bytes) : Handled Bytes :=
  match KeepaliveReplyMessage.fromBytes payload with
  | .error e => (c, [], .error (.protocol e))
  | .ok reply =>
    let rttMs := (c.lastKeepaliveSent.map fun sent => UInt64.ofNat (now - sent)).getD 0
    ({ c with pendingKeepaliveSeq := none, missedKeepalives := 0, lastKeepaliveReceived := some now },
      [.keepalive reply.sequence rttMs], .ok [])

def processSealed (now : Nat) (data : Bytes) (process : Client → Bytes → Handled Bytes) : Handled Bytes :=
  match c.session with
  | none => (c, [], .error .notConnected)
  | some session =>
    match session.decryptPacket A now data maxPacketSize with
    | (session, .error e) => ({ c with session := some session }, [], .error (.protocol e))
    | (session, .ok (_, payload)) => process { c with session := some session } payload

/-- Process a received packet: the client, its events, and the message type with the bytes for the
tunnel. -/
def processPacket (now : Nat) (wallClock : UInt64) (data : Bytes) : Handled (Option (MessageType × Bytes)) :=
  if data.length < headerSize then (c, [], .ok none)
  else
    match PacketHeader.decode data with
    | .error e => (c, [], .error (.protocol e))
    | .ok header =>
      let handled := fun process =>
        let (c, events, result) := c.processSealed P.aes256Gcm now data process
        (c, events, result.map fun bytes => some (header.msgType, bytes))
      match header.msgType with
      | .data => handled fun c payload => (c, [], .ok payload)
      | .keepaliveReply => handled fun c payload => c.processKeepaliveReply now payload
      | .control => handled fun c payload => c.processControlMessage P settings wallClock payload
      | .rekeyResponse => handled fun c payload => c.processRekeyResponse P settings payload
      | _ => (c, [], .ok none)

/-! ### The loop -/

inductive TrySend
  | sent
  | full
  | closed
deriving DecidableEq

inductive Flow
  | next
  | exit (result : Except ClientError Unit)

/-- One pass of the loop: the client after it, the events, a packet for the tunnel device, a datagram for
the server. -/
structure Pass where
  client : Client
  events : List ClientEvent := []
  delivered : Option Bytes := none
  sent : Option Bytes := none
  flow : Flow := .next

def inboundMsgType (data : Bytes) : Option MessageType :=
  match PacketHeader.decode data with
  | .ok header => some header.msgType
  | .error _ => none

def onDatagram (now : Nat) (wallClock : UInt64) (data : Bytes) (outbound : TrySend) : Pass :=
  if data = [] then { client := c }
  else
    match c.processPacket P settings now wallClock data with
    | (c, events, .ok (some (.data, bytes))) =>
      if bytes = [] then { client := c, events }
      else
        match outbound with
        | .sent => { client := c, events, delivered := some bytes }
        | .full => { client := c, events }
        | .closed => { client := c, events, flow := .exit (.error (.connection "outbound channel closed")) }
    | (c, events, .ok _) => { client := c, events }
    | (c, events, .error _) =>
      if inboundMsgType data = some .rekeyResponse then { client := c.clearRekeyState, events }
      else { client := c, events }

def shouldSendKeepalive (now : Nat) : Bool :=
  match c.lastKeepaliveSent with
  | none => true
  | some sent => settings.keepaliveInterval ≤ now - sent

/-- Send a keep-alive; one that is still unanswered counts as missed. -/
def sendKeepalive (now : Nat) (sendOk : Bool) : Client × Except ClientError Bytes :=
  let c := if c.pendingKeepaliveSeq.isSome then { c with missedKeepalives := c.missedKeepalives + 1 } else c
  let sequence := c.keepaliveSeq
  let c := { c with keepaliveSeq := c.keepaliveSeq + 1 }
  match c.session with
  | none => (c, .error .notConnected)
  | some session =>
    match session.encryptPacket P.aes256Gcm .keepalive (KeepaliveMessage.mk sequence).toBytes
        maxPacketSize with
    | (session, _, .error e) => ({ c with session := some session }, .error (.crypto e))
    | (session, _, .ok packet) =>
      let c := { c with session := some session }
      if sendOk then
        ({ c with pendingKeepaliveSeq := some sequence, lastKeepaliveSent := some now }, .ok packet)
      else (c, .error .connectionIo)

/-- The missed count, once the last reply (or, before the first one, the last keep-alive) is too old. -/
def checkKeepaliveTimeout (now : Nat) : Option UInt32 :=
  match c.lastKeepaliveSent with
  | none => none
  | some sent =>
    if settings.keepaliveTimeout < now - c.lastKeepaliveReceived.getD sent then some c.missedKeepalives
    else none

def isConnectionDead : Bool :=
  settings.keepaliveTimeoutCount ≤ c.missedKeepalives

def clearStuckRekey (now : Nat) : Client :=
  match c.rekeyStartedAt with
  | none => c
  | some startedAt => if settings.connectionTimeout < now - startedAt then c.clearRekeyState else c

def onTimeoutTick (now : Nat) : Pass :=
  match c.checkKeepaliveTimeout settings now with
  | none => { client := c.clearStuckRekey settings now }
  | some missed =>
    let events := if missed > 0 then [.keepaliveTimeout missed] else []
    if c.isConnectionDead settings then
      { client := c, events
        flow := .exit (.error (.keepaliveTimeout s!"no keepalive reply after {missed} attempts")) }
    else { client := c.clearStuckRekey settings now, events }

def needsRekey (settings : ClientSettings) (c : Client) (now : Nat) : Bool :=
  !c.rekeyInProgress &&
    match c.session with
    | none => false
    | some session => session.needsRekey settings.rekeyAfterBytes settings.rekeyInterval now

def onRekeyTick (now : Nat) (coins : HybridKem.KeypairCoins) (clientRandom : Block 32) (sendOk : Bool) : Pass :=
  if c.needsRekey settings now then
    match c.session with
    | none => { client := c }
    | some session =>
      let (v, result) := (c.connected session).initiateRekey P settings.toRekeySettings coins clientRandom now sendOk
      { client := c.setConnected v, sent := result.toOption }
  else { client := c }

inductive LoopEvent
  | received (data : Bytes) (outbound : TrySend)
  | receiveFailed
  | keepaliveTick (sendOk : Bool)
  | timeoutTick
  | rekeyTick (coins : HybridKem.KeypairCoins) (clientRandom : Block 32) (sendOk : Bool)

/-- The branch of the receive loop that an event takes. -/
def branch (now : Nat) (wallClock : UInt64) : LoopEvent → Pass
  | .received data outbound => c.onDatagram P settings now wallClock data outbound
  | .receiveFailed => { client := c, flow := .exit (.error (.connection "recv error")) }
  | .keepaliveTick sendOk =>
    if c.shouldSendKeepalive settings now then
      let (c, result) := c.sendKeepalive P now sendOk
      { client := c, sent := result.toOption }
    else { client := c }
  | .timeoutTick => c.onTimeoutTick settings now
  | .rekeyTick coins clientRandom sendOk => c.onRekeyTick P settings now coins clientRandom sendOk

/-- One pass of the loop: the state is looked at before the loop waits for an event. -/
def iteration (now : Nat) (wallClock : UInt64) (event : LoopEvent) : Pass :=
  if c.shutdown ∨ c.state = .disconnected then { client := c, flow := .exit (.ok ()) }
  else c.branch P settings now wallClock event

end Client

/-! ### Foreign datagrams -/

/-- The datagram is the output of none of these calls. -/
def Foreign (A : Aes256Gcm) (calls : List SealCall) (data : Bytes) : Prop :=
  ∀ call ∈ calls, ∀ ciphertext, call.output A = some ciphertext → data ≠ call.aad ++ ciphertext

theorem Session.openPacket_foreign {A : Aes256Gcm} {s : Session} {calls : List SealCall} {data : Bytes}
    (hideal : Unforged A s.keys.recvKey calls {data}) (hforeign : Foreign A calls data) (outputLen : Nat) :
    ∃ e, s.openPacket A data outputLen = .error e := by
  cases hopen : s.openPacket A data outputLen with
  | error e => exact ⟨e, rfl⟩
  | ok result =>
    obtain ⟨header, payload⟩ := result
    obtain ⟨-, -, -, ciphertext, hdata, -, hdecrypt⟩ := openPacket_eq_ok.mp hopen
    obtain ⟨call, hcall, -, -, haad, hout⟩ := hideal _ _ _ _ hdata.symm hdecrypt
    rw [← haad] at hdata
    exact absurd hdata (hforeign call hcall ciphertext hout)

namespace Client
variable {P : Primitives} {settings : ClientSettings} {c : Client} {session : Session} {data : Bytes}

variable {e : ProtocolError}

theorem processSealed_of_error {A : Aes256Gcm} (hlive : c.session = some session)
    (hopen : session.openPacket A data maxPacketSize = .error e) (now : Nat)
    (process : Client → Bytes → Handled Bytes) :
    c.processSealed A now data process = (c, [], .error (.protocol e)) := by
  have hsame : ({ c with session := some session } : Client) = c := by rw [← hlive]
  simp only [processSealed, hlive, Session.decryptPacket, hopen, hsame]

/-- A packet that does not open changes nothing, is not handed on, and is an error if it calls itself a rekey
response. -/
theorem processPacket_of_error (hlive : c.session = some session)
    (hopen : session.openPacket P.aes256Gcm data maxPacketSize = .error e) (now : Nat)
    (wallClock : UInt64) :
    (c.processPacket P settings now wallClock data = (c, [], .ok none) ∧
        inboundMsgType data ≠ some .rekeyResponse) ∨
      ∃ e', c.processPacket P settings now wallClock data = (c, [], .error e') := by
  unfold processPacket inboundMsgType
  by_cases hshort : data.length < headerSize
  · left
    refine ⟨if_pos hshort, ?_⟩
    cases hdecode : PacketHeader.decode data with
    | error e' => nofun
    | ok header => exact absurd (PacketHeader.headerSize_le_of_decode hdecode) (Nat.not_le.mpr hshort)
  · rw [if_neg hshort]
    cases PacketHeader.decode data with
    | error e' => exact .inr ⟨_, rfl⟩
    | ok header =>
      simp only [processSealed_of_error hlive hopen]
      cases header.msgType
      case data | keepaliveReply | control | rekeyResponse => exact .inr ⟨_, rfl⟩
      all_goals exact .inl ⟨rfl, nofun⟩

/-- A datagram that does not open can only make the loop forget a pending rekey, by calling itself a rekey response.
-/
theorem onDatagram_of_error (hlive : c.session = some session)
    (hopen : session.openPacket P.aes256Gcm data maxPacketSize = .error e) (now : Nat)
    (wallClock : UInt64) (outbound : TrySend) :
    c.onDatagram P settings now wallClock data outbound =
      { client := if inboundMsgType data = some .rekeyResponse then c.clearRekeyState else c } := by
  unfold onDatagram
  split
  case isTrue hnil =>
      subst hnil
      rfl
  case isFalse =>
      rcases processPacket_of_error hlive hopen now wallClock with ⟨heq, hother⟩ | ⟨e', heq⟩
      · rw [heq, if_neg hother]
      · rw [heq]
        dsimp only
        split <;> rfl

/-! ### The frame of a foreign datagram -/

/-- The state a datagram may change only if the server sent it. -/
structure SameConnection (c c' : Client) : Prop where
  keys : c'.session.map Session.keys = c.session.map Session.keys
  recvWindow : c'.session.map Session.recvWindow = c.session.map Session.recvWindow
  rekeyHandler : c'.rekeyHandler = c.rekeyHandler
  rekeyInProgress : c'.rekeyInProgress = c.rekeyInProgress
  state : c'.state = c.state

theorem SameConnection.refl (c : Client) : SameConnection c c := ⟨rfl, rfl, rfl, rfl, rfl⟩

/-- No rekey is pending. -/
def NoRekey (c : Client) : Prop := c.rekeyHandler = none ∧ c.rekeyInProgress = false

theorem sameConnection_clearRekeyState_iff : SameConnection c c.clearRekeyState ↔ c.NoRekey := by
  constructor
  · intro h
    exact ⟨h.rekeyHandler.symm, h.rekeyInProgress.symm⟩
  · rintro ⟨hhandler, hprogress⟩
    exact ⟨rfl, rfl, hhandler.symm, hprogress.symm, rfl⟩

end Client

/-- A datagram the server did not seal leaves the client alone exactly if the loop is about to stop, it does not call
itself a rekey response, or no rekey is pending. -/
theorem foreign_datagram_frame_iff (P : Primitives) (settings : ClientSettings) (c : Client)
    (session : Session) (hlive : c.session = some session) (calls : List SealCall) (data : Bytes)
    (hideal : Unforged P.aes256Gcm session.keys.recvKey calls {data})
    (hforeign : Foreign P.aes256Gcm calls data) (now : Nat) (wallClock : UInt64)
    (outbound : Client.TrySend) :
    Client.SameConnection c (c.iteration P settings now wallClock (.received data outbound)).client ↔
      (c.shutdown = true ∨ c.state = .disconnected) ∨ Client.inboundMsgType data ≠ some .rekeyResponse ∨ c.NoRekey := by
  obtain ⟨e, hopen⟩ := Session.openPacket_foreign hideal hforeign maxPacketSize
  unfold Client.iteration
  by_cases hstop : c.shutdown = true ∨ c.state = .disconnected
  · rw [if_pos hstop]
    exact ⟨fun _ => .inl hstop, fun _ => .refl c⟩
  · rw [if_neg hstop, Client.branch]
    rw [Client.onDatagram_of_error hlive hopen, or_iff_right hstop]
    by_cases htype : Client.inboundMsgType data = some .rekeyResponse
    · rw [if_pos htype, Client.sameConnection_clearRekeyState_iff, or_iff_right (not_not_intro htype)]
    · rw [if_neg htype]
      exact ⟨fun _ => .inl htype, fun _ => .refl c⟩

/-! A client with a rekey pending, a server that has sealed a keep-alive reply, and datagrams from somebody else. -/

namespace ForgedSample

def primitives : Primitives := .transparent fun _ => 0

def keypair : MlDsaKeypair := MlDsaKeypair.generateWithLevel primitives .level3 (Block.replicate 32 7)

def settings : ClientSettings :=
  ⟨⟨keypair.publicKey, .level3, 10000⟩, 25000, 90000, 3, 1073741824, 3600000, true⟩

def session : Session :=
  (Session.new 42 ⟨Block.replicate 32 1, Block.replicate 32 2, Block.replicate 4 3, Block.replicate 4 4⟩ 0).takeCounter

def handler : ClientRekey :=
  ((ClientRekey.withSecurityLevel keypair.publicKey 42 .level3).createRequest primitives
    ⟨Block.replicate 32 1, Block.replicate 64 2⟩ (Block.replicate 32 3)).1

def client : Client :=
  ⟨.connected, some session, false, none, none, 0, none, 0, some handler, true, some 5, false⟩

def calls : List SealCall :=
  [(Session.new 42 session.keys.swap 0).nextCall .keepaliveReply (KeepaliveReplyMessage.mk 0 9).toBytes]

def forged (msgType : MessageType) : Bytes :=
  ((PacketHeader.new msgType 42 0 7).toBytes ++ List.replicate 12 0) ++ (be32 0xffffffff).bytes

variable (msgType : MessageType)

theorem forged_unforged :
    Unforged primitives.aes256Gcm session.keys.recvKey calls {forged msgType} := by
  apply Cipher.labelled_unforged_of_label
  rw [List.length_append, PacketHeader.toBytes_length, List.length_replicate]
  exact show headerSize + 12 + 4 < _ by decide

theorem forged_foreign : Foreign primitives.aes256Gcm calls (forged msgType) := by
  intro call hcall ciphertext hout heq
  obtain rfl := List.mem_singleton.mp hcall
  have hlen := congrArg List.length heq
  rw [List.length_append, primitives.aes256Gcm.encrypt_length hout] at hlen
  cases msgType <;> exact absurd hlen (by decide)

/-- A datagram that only says it is a rekey response makes the client forget its rekey. -/
theorem forged_rekey_response_clears_rekey :
    Unforged primitives.aes256Gcm session.keys.recvKey calls {forged .rekeyResponse} ∧
      Foreign primitives.aes256Gcm calls (forged .rekeyResponse) ∧
      ¬Client.SameConnection client
        (client.iteration primitives settings 9 1700000000 (.received (forged .rekeyResponse) .sent)).client := by
  refine ⟨forged_unforged _, forged_foreign _, fun h => ?_⟩
  have hcleared : (client.iteration primitives settings 9 1700000000
      (.received (forged .rekeyResponse) .sent)).client.rekeyInProgress = false := by decide +kernel
  exact absurd (hcleared.symm.trans h.rekeyInProgress) (by decide)

theorem foreign_datagram_frame_iff_data :
    Client.SameConnection client
      (client.iteration primitives settings 9 1700000000 (.received (forged .data) .sent)).client :=
  (foreign_datagram_frame_iff primitives settings client session rfl calls (forged .data)
    (forged_unforged .data) (forged_foreign .data) 9 1700000000 .sent).mpr (.inr (.inl (by decide)))

end ForgedSample

end HpnVpn
