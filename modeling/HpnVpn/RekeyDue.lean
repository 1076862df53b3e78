import HpnVpn.ClientLoop
import HpnVpn.RekeySync

/-! When the client rekeys: bytes are counted per keys, but the age from the creation of the session. -/
namespace HpnVpn
open Wire Runs

def Session.traffic (s : Session) : Nat := s.bytesSent.toNat + s.bytesReceived.toNat

def bytesOf (packet : Option Bytes) : Nat := (packet.map List.length).getD 0

theorem toNat_add_ofNat_le (a : UInt64) (n : Nat) : (a + UInt64.ofNat n).toNat ≤ a.toNat + n := by
  calc (a.toNat + n % 2 ^ 64) % 2 ^ 64 ≤ a.toNat + n % 2 ^ 64 := Nat.mod_le _ _
    _ ≤ a.toNat + n := Nat.add_le_add_left (Nat.mod_le _ _) _

namespace Session

theorem traffic_encryptPacket (A : Aes256Gcm) (s : Session) (msgType : MessageType) (payload : Bytes)
    (outputLen : Nat) :
    (s.encryptPacket A msgType payload outputLen).1.traffic ≤
      s.traffic + bytesOf (s.encryptPacket A msgType payload outputLen).2.2.toOption := by
  obtain ⟨-, heq⟩ | ⟨-, -, heq⟩ | ⟨-, -, -, heq⟩ | ⟨-, -, ciphertext, -, heq⟩ :=
    s.encryptPacket_cases A msgType payload outputLen
  · rw [heq]
    exact Nat.le_add_right _ _
  · rw [heq]
    exact Nat.le_add_right _ _
  · rw [heq]
    exact Nat.le_add_right _ _
  · rw [heq]
    have hlength : ((s.nextHeader msgType).toBytes ++ ciphertext).length = headerSize + ciphertext.length := by
      rw [List.length_append]
      rfl
    have hle := toNat_add_ofNat_le s.bytesSent (headerSize + ciphertext.length)
    show (s.bytesSent + UInt64.ofNat (headerSize + ciphertext.length)).toNat + s.bytesReceived.toNat ≤
      s.bytesSent.toNat + s.bytesReceived.toNat + ((s.nextHeader msgType).toBytes ++ ciphertext).length
    omega

variable {s : Session}

end Session

namespace Client
variable {P : Primitives} {settings : ClientSettings} {c : Client} {session : Session} {data : Bytes}

def Stopped (c : Client) : Prop := c.shutdown = true ∨ c.state = .disconnected

instance (c : Client) : Decidable c.Stopped := inferInstanceAs (Decidable (_ ∨ _))

def rekeyed (events : List ClientEvent) : Bool :=
  events.any fun
    | .rekeyComplete _ => true
    | _ => false

def opened (A : Aes256Gcm) (c : Client) (now : Nat) (data : Bytes) : Bool :=
  match inboundMsgType data with
  | some .data | some .keepaliveReply | some .control | some .rekeyResponse =>
    c.session.any fun session => (session.decryptPacket A now data maxPacketSize).2.isOk
  | _ => false

def payloadHandler (P : Primitives) (settings : ClientSettings) (now : Nat) (wallClock : UInt64) :
    MessageType → Option (Client → Bytes → Handled Bytes)
  | .data => some fun c payload => (c, [], .ok payload)
  | .keepaliveReply => some fun c payload => c.processKeepaliveReply now payload
  | .control => some fun c payload => c.processControlMessage P settings wallClock payload
  | .rekeyResponse => some fun c payload => c.processRekeyResponse P settings payload
  | _ => none

/-- What a packet does to the client: nothing if it does not open, and otherwise what its payload does. -/
inductive PacketOutcome (P : Primitives) (settings : ClientSettings) (c : Client) (now : Nat) (wallClock : UInt64)
    (data : Bytes) : Client → List ClientEvent → Prop
  | ignored (hnot : c.opened P.aes256Gcm now data = false) : PacketOutcome P settings c now wallClock data c []
  | processed {msgType : MessageType} {process : Client → Bytes → Handled Bytes} {session session' : Session}
      {header : PacketHeader} {payload : Bytes} (htype : inboundMsgType data = some msgType)
      (hprocess : payloadHandler P settings now wallClock msgType = some process) (hlive : c.session = some session)
      (hdecrypt : session.decryptPacket P.aes256Gcm now data maxPacketSize = (session', .ok (header, payload))) :
      PacketOutcome P settings c now wallClock data (process { c with session := some session' } payload).1
        (process { c with session := some session' } payload).2.1

theorem opened_of_processed {now : Nat} {wallClock : UInt64} {data : Bytes} {msgType : MessageType}
    {process : Client → Bytes → Handled Bytes} {session session' : Session} {opened' : PacketHeader × Bytes}
    (htype : inboundMsgType data = some msgType)
    (hprocess : payloadHandler P settings now wallClock msgType = some process) (hlive : c.session = some session)
    (hdecrypt : session.decryptPacket P.aes256Gcm now data maxPacketSize = (session', .ok opened')) :
    c.opened P.aes256Gcm now data = true := by
  have hopens : (c.session.any fun session => (session.decryptPacket P.aes256Gcm now data maxPacketSize).2.isOk) =
      true := by
    rw [hlive, Option.any_some, hdecrypt]
    rfl
  unfold opened
  rw [htype, hopens]
  cases msgType with
  | data | keepaliveReply | control | rekeyResponse => rfl
  | _ => cases hprocess

theorem processSealed_outcome {now : Nat} {wallClock : UInt64} {data : Bytes} {msgType : MessageType}
    {process : Client → Bytes → Handled Bytes} (htype : inboundMsgType data = some msgType)
    (hprocess : payloadHandler P settings now wallClock msgType = some process) :
    PacketOutcome P settings c now wallClock data (c.processSealed P.aes256Gcm now data process).1
      (c.processSealed P.aes256Gcm now data process).2.1 := by
  have hnone : (c.session.any fun session => (session.decryptPacket P.aes256Gcm now data maxPacketSize).2.isOk) = false →
      c.opened P.aes256Gcm now data = false := by
    intro hnot
    unfold opened
    rw [hnot]
    split <;> rfl
  unfold processSealed
  cases hlive : c.session with
  | none => exact .ignored (hnone (by rw [hlive]; rfl))
  | some session =>
    rw [hlive, Option.any_some] at hnone
    dsimp only
    rcases hdecrypt : session.decryptPacket P.aes256Gcm now data maxPacketSize with ⟨session', e | ⟨header, payload⟩⟩
    · obtain rfl := Session.decryptPacket_rejected hdecrypt
      have hsame : ({ c with session := some session' } : Client) = c := by rw [← hlive]
      dsimp only
      rw [hsame]
      exact .ignored (hnone (by rw [hdecrypt]; rfl))
    · exact .processed htype hprocess hlive hdecrypt

theorem processPacket_outcome (now : Nat) (wallClock : UInt64) (data : Bytes) :
    PacketOutcome P settings c now wallClock data (c.processPacket P settings now wallClock data).1
      (c.processPacket P settings now wallClock data).2.1 := by
  unfold processPacket
  cases hdecode : PacketHeader.decode data with
  | error e =>
    have hignored : c.opened P.aes256Gcm now data = false := by
      rw [opened, inboundMsgType, hdecode]
    split
    all_goals exact .ignored hignored
  | ok header =>
    have htype : inboundMsgType data = some header.msgType := by rw [inboundMsgType, hdecode]
    rw [if_neg (not_lt.mpr (PacketHeader.headerSize_le_of_decode hdecode))]
    dsimp only
    cases hmsg : header.msgType with
    | data | keepaliveReply | control | rekeyResponse => exact processSealed_outcome (htype.trans (congrArg some hmsg)) rfl
    | _ => exact .ignored (by rw [opened, htype, hmsg])

/-- The bytes a pass of the loop carries under the session's keys: the datagram it opens or the packet it
seals, sent or not. -/
def carries (P : Primitives) (settings : ClientSettings) (c : Client) (now : Nat) (wallClock : UInt64) : LoopEvent → Nat
  | .received data _ =>
    if c.Stopped then 0 else bif c.opened P.aes256Gcm now data then data.length else 0
  | .keepaliveTick _ => bytesOf (c.iteration P settings now wallClock (.keepaliveTick true)).sent
  | .rekeyTick coins clientRandom _ =>
    bytesOf (c.iteration P settings now wallClock (.rekeyTick coins clientRandom true)).sent
  | .receiveFailed | .timeoutTick => 0

theorem rekeyed_keepaliveReply (c : Client) (now : Nat) (payload : Bytes) :
    (c.processKeepaliveReply now payload).1.session = c.session ∧
      rekeyed (c.processKeepaliveReply now payload).2.1 = false := by
  unfold processKeepaliveReply
  cases KeepaliveReplyMessage.fromBytes payload with
  | error e => exact ⟨rfl, rfl⟩
  | ok reply => exact ⟨rfl, rfl⟩

theorem rekeyed_setState (c : Client) (state : ClientState) :
    (c.setState state).1.session = c.session ∧ rekeyed (c.setState state).2 = false := by
  unfold setState
  split
  all_goals exact ⟨rfl, rfl⟩

theorem rekeyed_rebindAck (P : Primitives) (settings : ClientSettings) (c : Client) (wallClock : UInt64)
    (signedPayload : Option SignedRebindAckPayload) :
    (c.processRebindAck P settings wallClock signedPayload).1.session = c.session ∧
      rekeyed (c.processRebindAck P settings wallClock signedPayload).2 = false := by
  unfold processRebindAck
  cases hsession : c.session with
  | none => exact ⟨hsession, rfl⟩
  | some session =>
    cases signedPayload with
    | none =>
      dsimp only
      split
      · exact ⟨hsession, rfl⟩
      · exact ⟨rfl, rfl⟩
    | some signed =>
      dsimp only
      split
      · exact ⟨rfl, rfl⟩
      · exact ⟨hsession, rfl⟩

theorem rekeyed_controlMessage (P : Primitives) (settings : ClientSettings) (c : Client) (wallClock : UInt64)
    (payload : Bytes) :
    (c.processControlMessage P settings wallClock payload).1.session = c.session ∧
      rekeyed (c.processControlMessage P settings wallClock payload).2.1 = false := by
  unfold processControlMessage
  cases ControlMessage.fromBytes payload with
  | error e => exact ⟨rfl, rfl⟩
  | ok control =>
    dsimp only
    cases control.controlType with
    | close =>
      have hstate := c.rekeyed_setState .disconnected
      refine ⟨hstate.1, ?_⟩
      rw [rekeyed, List.any_append, Bool.or_eq_false_iff]
      exact ⟨hstate.2, rfl⟩
    | rebindAck => exact c.rekeyed_rebindAck P settings wallClock control.signedPayload
    | error => exact ⟨rfl, rfl⟩
    | rebind => exact ⟨rfl, rfl⟩
    | config => exact ⟨rfl, rfl⟩

def Shows (c : Client) (carried : Nat) : Prop := ∀ session, c.session = some session → session.traffic ≤ carried

variable {carried : Nat}

theorem Shows.of_session {c' : Client} {carried' : Nat} (h : c.Shows carried) (hsession : c'.session = c.session)
    (hle : carried ≤ carried') : c'.Shows carried' :=
  fun session hlive => (h session (hsession ▸ hlive)).trans hle

theorem Shows.encryptPacket (h : c.Shows carried) (hlive : c.session = some session) (A : Aes256Gcm)
    (msgType : MessageType) (payload : Bytes) (outputLen : Nat) :
    ∀ c' : Client, c'.session = some (session.encryptPacket A msgType payload outputLen).1 →
      c'.Shows (carried + bytesOf (session.encryptPacket A msgType payload outputLen).2.2.toOption) := by
  intro c' hsession session' hlive'
  cases hsession.symm.trans hlive'
  exact (session.traffic_encryptPacket A msgType payload outputLen).trans (Nat.add_le_add_right (h session hlive) _)

/-- Send a packet of the tunnel or a control message, from outside the loop. -/
def sendPacket (P : Primitives) (c : Client) (msgType : MessageType) (payload : Bytes) (outputLen : Nat) :
    Client × Except ClientError Bytes :=
  match c.session with
  | none => (c, .error .notConnected)
  | some session =>
    match session.encryptPacket P.aes256Gcm msgType payload outputLen with
    | (session, _, .error e) => ({ c with session := some session }, .error (.crypto e))
    | (session, _, .ok packet) => ({ c with session := some session }, .ok packet)

end Client

/-! ### Runs -/

/-- The client, when it last rekeyed, and the bytes carried since. -/
structure RekeyHistory where
  client : Client
  rekeyedAt : Option Nat
  carried : Nat

/-- A pass of the receive loop, or a packet that another task sends. -/
inductive ClientStep
  | loop (now : Nat) (wallClock : UInt64) (event : Client.LoopEvent)
  | send (msgType : MessageType) (payload : Bytes) (outputLen : Nat)

namespace RekeyHistory
variable {P : Primitives} {settings : ClientSettings}

def start (c : Client) (session : Session) : RekeyHistory := ⟨{ c with session := some session }, none, session.traffic⟩

def step (P : Primitives) (settings : ClientSettings) (r : RekeyHistory) : ClientStep → RekeyHistory
  | .loop now wallClock event =>
    let pass := r.client.iteration P settings now wallClock event
    bif Client.rekeyed pass.events then ⟨pass.client, some now, 0⟩
    else ⟨pass.client, r.rekeyedAt, r.carried + r.client.carries P settings now wallClock event⟩
  | .send msgType payload outputLen =>
    let (client, result) := r.client.sendPacket P msgType payload outputLen
    ⟨client, r.rekeyedAt, r.carried + bytesOf result.toOption⟩

/-- When the loop asks whether a rekey is needed, a session that is as old as the interval has had none for as
long. -/
def Settled (settings : ClientSettings) (r : RekeyHistory) : ClientStep → Prop
  | .loop now _ (.rekeyTick ..) => ∀ session last, r.client.session = some session → r.rekeyedAt = some last →
      settings.rekeyInterval ≤ now - session.createdAt → settings.rekeyInterval ≤ now - last
  | _ => True

end RekeyHistory

theorem RekeySetup.Completes.onDatagram {w : RekeySetup} {settings : ClientSettings} {v : VpnClient} {packet : Bytes}
    {counter : Counter} {response : RekeyResponse} {newKeys : SessionKeys}
    (h : w.Completes v packet counter response newKeys) (hsettings : settings.toRekeySettings = w.settings) (c : Client)
    (now : Nat) (wallClock : UInt64) (outbound : Client.TrySend) :
    (c.setConnected v).onDatagram w.P settings now wallClock packet outbound =
      { client := (c.setConnected
          { v with session := (v.session.acceptPacket now counter packet.length).updateKeys newKeys }).clearRekeyState
        events := [.rekeyComplete response.newKeyId] } := by
  obtain ⟨ciphertext, -, hpacket⟩ := h.carries.packet_eq
  have hdecode : PacketHeader.decode packet =
      .ok (PacketHeader.new .rekeyResponse v.session.sessionId v.session.keyId counter) := by
    rw [hpacket]
    exact PacketHeader.decode_toBytes (PacketHeader.new_wellFormed ..) _
  have hlong := PacketHeader.headerSize_le_of_decode hdecode
  have hne : packet ≠ [] := by
    rintro rfl
    exact absurd hlong (by decide)
  have hprocess : (c.setConnected { v with session := v.session.acceptPacket now counter packet.length }
      ).processRekeyResponse w.P settings response.toBytes =
      ((c.setConnected
        { v with session := (v.session.acceptPacket now counter packet.length).updateKeys newKeys }).clearRekeyState,
        [.rekeyComplete response.newKeyId], .ok []) := by
    obtain ⟨handler, hhandler, haccept⟩ := h.accepted
    have hpair : handler.processResponse w.P response = ((handler.processResponse w.P response).1, .ok newKeys) :=
      Prod.ext rfl haccept
    rw [Client.processRekeyResponse, hsettings, h.parsed]
    dsimp only [Client.setConnected]
    rw [hhandler]
    dsimp only
    rw [hpair]
  rw [Client.onDatagram, if_neg hne, Client.processPacket, if_neg (not_lt.mpr hlong), hdecode]
  dsimp only [PacketHeader.new, Client.processSealed, Client.setConnected] at hprocess ⊢
  rw [h.decryptPacket]
  dsimp only
  rw [hprocess]
  rfl

namespace RekeyDueSample
open RekeySample

def settings : ClientSettings := ⟨setup.settings, 25000, 90000, 3, 64 * 1024 * 1024 * 1024, 3600000, true⟩

def client : Client := ⟨.connected, none, false, none, none, 0, none, 0, none, false, none, false⟩

def session : Session := Session.new 42 keys 0

def coins : HybridKem.KeypairCoins := ⟨Block.replicate 32 1, Block.replicate 64 2⟩

def tick (now : Nat) : ClientStep := .loop now 1700000000 (.rekeyTick coins (Block.replicate 32 3) true)

def answered : RekeyRun :=
  exec setup.step RekeySample.start
    [.start coins (Block.replicate 32 3) 3600000 true, .deliverRequest 0 addr draws 1000 true]

def response : Bytes := answered.responses.headD []

def rekey : List ClientStep := [tick 3600000, .loop 3600050 1700000000 (.received response .sent)]

end RekeyDueSample

end HpnVpn
