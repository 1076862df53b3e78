import HpnVpn.ControlMessages
import HpnVpn.DataPath
import HpnVpn.SessionManager

/-! The server's handlers for established sessions, and what they do with packets from another address than the
session's. -/
namespace HpnVpn
open Wire Tables

/-- What the handlers read besides their messages: cryptography, token accrual and signing keys. -/
structure ServerContext where
  P : Primitives
  accrue : Accrual
  keypairFor : ServerKeypairs

/-- What a handler draws and meets: the clocks, randomness, and whether the outbound queue has room. -/
structure Occasion where
  now : UInt64
  unixMillis : UInt64
  unixSecs : UInt64
  draws : ServerHandshake.Draws
  signCoins : Block 32
  queueHasRoom : Bool

structure OutboundResponse where
  addr : SocketAddr
  data : Bytes
deriving DecidableEq

namespace ClientSession

variable (A : Aes256Gcm) (S : ServerContext) (c : ClientSession)

def sendMessage (msgType : MessageType) (payload : Bytes)
    (queueHasRoom : Bool) : ClientSession × Option OutboundResponse :=
  match c.session.encryptPacket A msgType payload (headerSize + payload.length + tagSize + 32) with
  | (session, _, .error _) => ({ c with session }, none)
  | (session, _, .ok packet) =>
    ({ c with session }, if queueHasRoom then some ⟨c.clientAddr, packet⟩ else none)

def answerKeepalive (addr : SocketAddr) (o : Occasion) (c : ClientSession)
    (payload : Bytes) : ClientSession × Option OutboundResponse :=
  match KeepaliveMessage.fromBytes payload with
  | .error _ => (c, none)
  | .ok keepalive =>
    if c.clientAddr ≠ addr then (c, none)
    else
      (c.touch o.now).sendMessage S.P.aes256Gcm .keepaliveReply
        (KeepaliveReplyMessage.toBytes ⟨keepalive.sequence, o.unixMillis⟩) o.queueHasRoom

def handleKeepalive (data : Bytes) (addr : SocketAddr) (o : Occasion) : ClientSession × Option OutboundResponse :=
  c.onPacket S.P.aes256Gcm data data.length o.now (answerKeepalive S addr o)

/-- `handleRekey` with the response addressed to the registered client. -/
def handleRekeyMessage (data : Bytes) (addr : SocketAddr) (o : Occasion) : ClientSession × Option OutboundResponse :=
  let (c, response) := c.handleRekey S.P S.keypairFor data addr o.draws o.now o.queueHasRoom
  (c, response.map fun packet => ⟨c.clientAddr, packet⟩)

def receiveControl (data : Bytes) (o : Occasion) :
    ClientSession × Option ControlType :=
  c.onPacket S.P.aes256Gcm data data.length o.now fun c payload =>
    match ControlMessage.fromBytes payload with
    | .error _ => (c, none)
    | .ok control => (c.touch o.now, some control.controlType)

/-- Acknowledge the endpoint the session is now bound to; unsigned if signing fails. -/
def sendRebindAck (sessionId : SessionId) (c : ClientSession) (o : Occasion) :
    ClientSession × Option OutboundResponse :=
  let ack := match SignedRebindAckPayload.sign S.P (S.keypairFor c.securityLevel) sessionId
      c.clientAddr o.unixSecs o.signCoins with
    | .ok signed => ControlMessage.rebindAckSigned signed
    | .error _ => ⟨.rebindAck, none, none, none⟩
  c.sendMessage S.P.aes256Gcm .control ack.toBytes o.queueHasRoom

end ClientSession

inductive WorkerControl
  | handshakeInit (data : Bytes) (addr : SocketAddr)
  | handshakeFragment (data : Bytes) (addr : SocketAddr)
  | keepalive (sessionId : SessionId) (data : Bytes) (addr : SocketAddr)
  | control (sessionId : SessionId) (data : Bytes) (addr : SocketAddr)
  | rekey (sessionId : SessionId) (data : Bytes) (addr : SocketAddr)
deriving DecidableEq

inductive WorkerAction
  | drop
  | toTun (packet : Bytes)
  | forward (message : WorkerControl)
deriving DecidableEq

def WorkerAction.ofHanded : Option Bytes → WorkerAction
  | some packet => .toTun packet
  | none => .drop

namespace SessionManager

variable (S : ServerContext) (m : SessionManager)

/-- The recvmmsg worker on a datagram. -/
def processPacket (data : Bytes) (addr : SocketAddr) (now : UInt64) : SessionManager × WorkerAction :=
  if data.length < headerSize then (m, .drop)
  else
    match PacketHeader.decode data with
    | .error _ => (m, .drop)
    | .ok header =>
      match header.msgType with
      | .data =>
        let (m, handed) := m.onSession header.sessionId
          (fun c => c.processPacketData S.P.aes256Gcm S.accrue data addr now) none
        (m, .ofHanded handed)
      | .handshakeInit | .encryptedHandshakeInit => (m, .forward (.handshakeInit data addr))
      | .handshakeFragment => (m, .forward (.handshakeFragment data addr))
      | .keepalive => (m, .forward (.keepalive header.sessionId data addr))
      | .control => (m, .forward (.control header.sessionId data addr))
      | .rekey => (m, .forward (.rekey header.sessionId data addr))
      | _ => (m, .drop)

/-- The io_uring worker on a datagram. -/
def processIoUringSegment (data : Bytes) (addr : SocketAddr) (now : UInt64) : SessionManager × WorkerAction :=
  if data.length < headerSize then (m, .drop)
  else
    match PacketHeader.decode data with
    | .error _ => (m, .drop)
    | .ok header =>
      match header.msgType with
      | .data =>
        let (m, handed) := m.onSession header.sessionId
          (fun c => c.processDataPacketIoUring S.P.aes256Gcm S.accrue data addr now) none
        (m, .ofHanded handed)
      | .handshakeInit | .encryptedHandshakeInit => (m, .forward (.handshakeInit data addr))
      | .handshakeFragment => (m, .forward (.handshakeFragment data addr))
      | .keepalive => (m, .forward (.keepalive header.sessionId data addr))
      | .control => (m, .forward (.control header.sessionId data addr))
      | .rekey => (m, .forward (.rekey header.sessionId data addr))
      | _ => (m, .drop)

/-- The same dispatch with any data handler; that of the other platforms is `handle_packet`. -/
def route (onData : ClientSession → Bytes → SocketAddr → ClientSession × Option Bytes) (m : SessionManager)
    (data : Bytes) (addr : SocketAddr) : SessionManager × WorkerAction :=
  if data.length < headerSize then (m, .drop)
  else
    match PacketHeader.decode data with
    | .error _ => (m, .drop)
    | .ok header =>
      match header.msgType with
      | .data =>
        let (m, handed) := m.onSession header.sessionId (fun c => onData c data addr) none
        (m, .ofHanded handed)
      | .handshakeInit | .encryptedHandshakeInit => (m, .forward (.handshakeInit data addr))
      | .handshakeFragment => (m, .forward (.handshakeFragment data addr))
      | .keepalive => (m, .forward (.keepalive header.sessionId data addr))
      | .control => (m, .forward (.control header.sessionId data addr))
      | .rekey => (m, .forward (.rekey header.sessionId data addr))
      | _ => (m, .drop)

theorem processPacket_eq_route (data : Bytes) (addr : SocketAddr) (now : UInt64) : m.processPacket S data addr now =
    m.route (fun c data addr => c.processPacketData S.P.aes256Gcm S.accrue data addr now) data addr :=
  rfl

theorem processIoUringSegment_eq_route (data : Bytes) (addr : SocketAddr) (now : UInt64) :
    m.processIoUringSegment S data addr now =
      m.route (fun c data addr => c.processDataPacketIoUring S.P.aes256Gcm S.accrue data addr now) data addr :=
  rfl

/-- A closing client loses its session, a rebinding one gets its new address. -/
def handleControl (sessionId : SessionId) (data : Bytes)
    (addr : SocketAddr) (o : Occasion) : SessionManager × Option OutboundResponse :=
  let (m, request) := m.onSession sessionId (fun c => c.receiveControl S data o) none
  match request with
  | some .close => ((m.removeSession sessionId).1, none)
  | some .rebind =>
    (m.updateClientAddr sessionId addr).onSession sessionId (fun c => c.sendRebindAck S sessionId o) none
  | _ => (m, none)

/-- The control task on a message of an established session; handshakes are not its business. -/
def handleSessionMessage (message : WorkerControl) (o : Occasion) :
    SessionManager × Option OutboundResponse :=
  match message with
  | .keepalive sessionId data addr => m.onSession sessionId (fun c => c.handleKeepalive S data addr o) none
  | .rekey sessionId data addr => m.onSession sessionId (fun c => c.handleRekeyMessage S data addr o) none
  | .control sessionId data addr => m.handleControl S sessionId data addr o
  | .handshakeInit _ _ | .handshakeFragment _ _ => (m, none)

/-- What a datagram causes besides a change of the manager. -/
structure Outcome where
  handed : Option Bytes
  response : Option OutboundResponse
deriving DecidableEq

/-- One datagram from the recvmmsg worker to the end of its handling. -/
def receive (data : Bytes) (addr : SocketAddr) (o : Occasion) :
    SessionManager × Outcome :=
  match m.processPacket S data addr o.now with
  | (m, .drop) => (m, ⟨none, none⟩)
  | (m, .toTun packet) => (m, ⟨some packet, none⟩)
  | (m, .forward message) =>
    let (m, response) := m.handleSessionMessage S message o
    (m, ⟨none, response⟩)

end SessionManager

/-! ### Packets from another address -/

namespace ClientSession

variable {S : ServerContext} {c : ClientSession} {data : Bytes} {addr : SocketAddr}

theorem onPacket_dropped {β : Type} {A : Aes256Gcm} {outputLen : Nat} {now : UInt64}
    {next : ClientSession → Bytes → ClientSession × Option β}
    (hnext : ∀ counter size payload, next (c.accepted now counter size) payload = (c.accepted now counter size, none)) :
    ((c.onPacket A data outputLen now next).1 = c ↔ ¬c.session.Accepts A data outputLen) ∧
      (c.onPacket A data outputLen now next).2 = none := by
  rcases c.onPacket_cases A data outputLen now next with ⟨hno, heq⟩ | ⟨header, payload, hopen, hcheck, heq⟩
  · rw [heq]
    exact ⟨iff_of_true rfl hno, rfl⟩
  · rw [heq, hnext]
    refine ⟨iff_of_false ?_ (not_not_intro ⟨header, payload, hopen, hcheck⟩), rfl⟩
    intro hsame
    exact Session.acceptPacket_ne hcheck (congrArg ClientSession.session hsame)

theorem processPacketData_foreign (haddr : c.clientAddr ≠ addr) (now : UInt64) :
    ((c.processPacketData S.P.aes256Gcm S.accrue data addr now).1 = c ↔
        ¬c.session.Accepts S.P.aes256Gcm data maxPacketSize) ∧
      (c.processPacketData S.P.aes256Gcm S.accrue data addr now).2 = none := by
  rw [processPacketData_eq]
  apply onPacket_dropped
  intro counter size payload
  exact if_pos haddr

theorem handleKeepalive_foreign (haddr : c.clientAddr ≠ addr) (o : Occasion) :
    ((c.handleKeepalive S data addr o).1 = c ↔ ¬c.session.Accepts S.P.aes256Gcm data data.length) ∧
      (c.handleKeepalive S data addr o).2 = none := by
  apply onPacket_dropped
  intro counter size payload
  unfold answerKeepalive
  split
  · rfl
  · exact if_pos haddr

theorem handleRekey_foreign (haddr : c.clientAddr ≠ addr) (o : Occasion) :
    ((c.handleRekeyMessage S data addr o).1 = c ↔ ¬c.session.Accepts S.P.aes256Gcm data data.length) ∧
      (c.handleRekeyMessage S data addr o).2 = none := by
  let result := c.onPacket S.P.aes256Gcm data data.length o.now fun c payload =>
    c.answerRekey S.P S.keypairFor payload addr o.draws o.now o.queueHasRoom
  have hdrop : (result.1 = c ↔ ¬c.session.Accepts S.P.aes256Gcm data data.length) ∧ result.2 = none := by
    apply onPacket_dropped
    intro counter size payload
    unfold answerRekey
    split
    · rfl
    · exact if_pos haddr
  exact ⟨hdrop.1, congrArg (Option.map _) hdrop.2⟩

end ClientSession

/-- The buffer a session message is decrypted into: pooled for data, as long as the datagram
otherwise. -/
def receiveBufferLen (msgType : MessageType) (data : Bytes) : Nat :=
  if msgType = .data then maxPacketSize else data.length

namespace SessionManager

theorem onSession_foreign {β : Type} {m : SessionManager} {sessionId : SessionId} {c : ClientSession}
    {f : ClientSession → ClientSession × Option β} {cond : Prop}
    (hsession : m.sessions.lookup sessionId = some c) (hf : ((f c).1 = c ↔ cond) ∧ (f c).2 = none) :
    ((m.onSession sessionId f none).1 = m ↔ cond) ∧ (m.onSession sessionId f none).2 = none :=
  ⟨(onSession_eq_self hsession).trans hf.1, (onSession_answer hsession).trans hf.2⟩

/-- A datagram from another address than the session's has no effect exactly when the session would not accept it; it
is never answered or handed on. -/
theorem foreign_packet_no_effect_iff (S : ServerContext) (m : SessionManager) (data : Bytes)
    (addr : SocketAddr) (o : Occasion) (header : PacketHeader) (c : ClientSession)
    (hdecode : PacketHeader.decode data = .ok header)
    (htype : header.msgType = .data ∨ header.msgType = .keepalive ∨ header.msgType = .rekey)
    (hsession : m.sessions.lookup header.sessionId = some c) (haddr : c.clientAddr ≠ addr) :
    ((m.receive S data addr o).1 = m ↔
        ¬c.session.Accepts S.P.aes256Gcm data (receiveBufferLen header.msgType data)) ∧
      (m.receive S data addr o).2 = ⟨none, none⟩ := by
  have hlong : ¬data.length < headerSize := Nat.not_lt.mpr (PacketHeader.headerSize_le_of_decode hdecode)
  unfold receive processPacket
  rw [if_neg hlong, hdecode]
  rcases htype with htype | htype | htype
  all_goals simp only [htype, handleSessionMessage]
  · have h := onSession_foreign hsession
      (f := fun c => c.processPacketData S.P.aes256Gcm S.accrue data addr o.now)
      (ClientSession.processPacketData_foreign haddr o.now)
    rw [h.2]
    exact ⟨h.1, rfl⟩
  · have h := onSession_foreign hsession (f := fun c => c.handleKeepalive S data addr o)
      (ClientSession.handleKeepalive_foreign haddr o)
    rw [h.2]
    exact ⟨h.1, rfl⟩
  · have h := onSession_foreign hsession (f := fun c => c.handleRekeyMessage S data addr o)
      (ClientSession.handleRekey_foreign haddr o)
    rw [h.2]
    exact ⟨h.1, rfl⟩

end SessionManager

namespace ForeignSample

def context : ServerContext where
  P := .transparent fun _ => 0
  accrue _ _ := 0
  keypairFor level := .generateWithLevel (.transparent fun _ => 0) level (Block.replicate 32 7)

def clientKeys : SessionKeys :=
  ⟨Block.replicate 32 1, Block.replicate 32 2, Block.replicate 4 3, Block.replicate 4 4⟩

def home : SocketAddr := .v4 (Block.replicate 4 9) 4433

def elsewhere : SocketAddr := .v4 (Block.replicate 4 8) 4433

def manager : SessionManager :=
  ((SessionManager.new (ipv4 10 0 0 0) 24 (ipv4 10 0 0 1) 60000 10).createSessionDualStackWithLevel
    Picker.least Picker.least (Session.new 42 clientKeys.swap 0) home .level3 0).1

def payload : Bytes := [69, 0, 0, 20, 0, 0, 0, 0, 64, 17, 0, 0, 10, 0, 0, 2, 1, 1, 1, 1]

def packet : Bytes :=
  match (((Session.new 42 clientKeys 0).encryptPacket context.P.aes256Gcm .data payload 100).2).2 with
  | .ok packet => packet
  | .error _ => []

def forged : Bytes := packet.take headerSize ++ List.replicate 36 0

def occasion : Occasion where
  now := 5000000
  unixMillis := 0
  unixSecs := 0
  draws := ⟨Block.replicate 32 4, ⟨Block.replicate 32 5, Block.replicate 32 6⟩, Block.replicate 32 8, 0⟩
  signCoins := Block.replicate 32 0
  queueHasRoom := true

def record (m : SessionManager) : Option (AntiReplayWindow × UInt64 × Nat) :=
  (m.sessions.lookup 42).map fun c => (c.session.recvWindow, c.session.bytesReceived, c.session.lastActivity)

/-- A captured packet re-sent from another address marks its counter, and the original is then taken for a replay. -/
theorem captured_packet_consumed :
    let m := (manager.receive context packet elsewhere occasion).1
    (manager.receive context packet home occasion).2 = ⟨some payload, none⟩ ∧
      record manager = some (.new, 0, 0) ∧
      record m = some ((AntiReplayWindow.new.checkAndUpdate 0).1, 60, 5000) ∧
      (AntiReplayWindow.new.checkAndUpdate 0).1 ≠ .new ∧
      (m.receive context packet home occasion).2 = ⟨none, none⟩ := by
  decide +kernel

theorem foreign_packet_no_effect_forged : (manager.receive context forged elsewhere occasion).1 = manager := by
  have hheader : PacketHeader.decode forged = .ok (PacketHeader.new .data 42 0 0) := by decide +kernel
  have hopen : (Session.new 42 clientKeys.swap 0).openPacket context.P.aes256Gcm forged maxPacketSize =
      .error (.handshakeFailed "decryption failed") := by decide +kernel
  refine (SessionManager.foreign_packet_no_effect_iff context manager forged elsewhere occasion
    (.new .data 42 0 0) (.withRateLimit (Session.new 42 clientKeys.swap 0) home (ipv4 10 0 0 2) none
      .level3 defaultSessionRateLimitPps defaultSessionRateLimitBps 0)
    hheader (.inl rfl) (by decide +kernel) (by decide)).1.mpr ?_
  rintro ⟨header, payload, hok, -⟩
  cases hopen.symm.trans hok

end ForeignSample

end HpnVpn
