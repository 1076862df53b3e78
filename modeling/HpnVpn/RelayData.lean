import HpnVpn.Downlink
import HpnVpn.RelayHandshake
import HpnVpn.UplinkAdmission

/-! The data of a session set up through the relay.  The server registers it under the socket of its handshake's task;
data travels through the shared socket. -/
namespace HpnVpn
open Wire Tables Runs ClientSession PacketHeader

/-! ### The registered address -/

namespace ClientSession
variable {S : ServerContext} {c : ClientSession}

theorem clientAddr_onPacket {β : Type} {A : Aes256Gcm} {data : Bytes} {outputLen : Nat} {now : UInt64}
    {next : ClientSession → Bytes → ClientSession × Option β}
    (hnext : ∀ c payload, (next c payload).1.clientAddr = c.clientAddr) :
    (c.onPacket A data outputLen now next).1.clientAddr = c.clientAddr := by
  unfold onPacket
  split
  · rfl
  · exact hnext _ _

theorem clientAddr_sendMessage (A : Aes256Gcm) (msgType : MessageType) (payload : Bytes) (room : Bool) :
    (c.sendMessage A msgType payload room).1.clientAddr = c.clientAddr := by
  unfold sendMessage
  split
  · rfl
  · rfl

variable (data : Bytes) (addr : SocketAddr) (o : Occasion)

theorem clientAddr_handleKeepalive :
    (c.handleKeepalive S data addr o).1.clientAddr = c.clientAddr := by
  apply clientAddr_onPacket
  intro c payload
  unfold answerKeepalive
  split
  · rfl
  · split
    · rfl
    · exact clientAddr_sendMessage ..

theorem clientAddr_answerRekey (P : Primitives) (keypairFor : ServerKeypairs) (payload : Bytes) (addr : SocketAddr)
    (draws : ServerHandshake.Draws) (now : UInt64) (room : Bool) :
    (c.answerRekey P keypairFor payload addr draws now room).1.clientAddr = c.clientAddr := by
  unfold answerRekey
  split
  · rfl
  · split
    · rfl
    · split
      · rfl
      · split
        · rfl
        · dsimp only
          split
          all_goals rfl

theorem clientAddr_handleRekey :
    (c.handleRekeyMessage S data addr o).1.clientAddr = c.clientAddr := by
  show (c.onPacket S.P.aes256Gcm data data.length o.now fun c payload =>
    c.answerRekey S.P S.keypairFor payload addr o.draws o.now o.queueHasRoom).1.clientAddr = _
  exact clientAddr_onPacket fun c payload => clientAddr_answerRekey ..

theorem clientAddr_receiveControl :
    (c.receiveControl S data o).1.clientAddr = c.clientAddr := by
  apply clientAddr_onPacket
  intro c payload
  split
  · rfl
  · rfl

theorem clientAddr_admitData (accrue : Accrual) {onMismatch : ClientSession → ClientSession}
    (hmismatch : ∀ c : ClientSession, (onMismatch c).clientAddr = c.clientAddr) (addr : SocketAddr) (now : UInt64)
    (size : Nat) (buf : Bytes) : (c.admitData accrue onMismatch addr now size buf).1.clientAddr = c.clientAddr := by
  have hrate : (c.checkRateLimit accrue now buf.length).1.clientAddr = c.clientAddr := rfl
  unfold admitData
  split
  · rfl
  · generalize c.checkRateLimit accrue now buf.length = r at hrate ⊢
    obtain ⟨c₁, allowed⟩ := r
    cases allowed with
    | false => exact hrate
    | true =>
      dsimp only
      split
      · exact (hmismatch c₁).trans hrate
      · exact hrate

theorem clientAddr_onData (p : UdpPath) (now : UInt64) (data : Bytes) (addr : SocketAddr) :
    (p.onData S now c data addr).1.clientAddr = c.clientAddr := by
  by_cases hp : p = .nonLinux
  · subst hp
    apply clientAddr_onPacket
    intro c payload
    split
    all_goals rfl
  · have hmismatch : ∀ c : ClientSession, (p.onMismatch c).clientAddr = c.clientAddr := by
      intro c
      cases p with
      | _ => rfl
    rw [UdpPath.onData_eq_admitData hp]
    exact clientAddr_onPacket fun c payload => clientAddr_admitData _ hmismatch ..

end ClientSession

/-- Where the message moves the session to, if it is a rebind that the session accepts. -/
def WorkerControl.rebindsTo (S : ServerContext) (m : SessionManager) (sessionId : SessionId) (o : Occasion) :
    WorkerControl → Option SocketAddr
  | .control k data addr =>
    if k = sessionId ∧ (m.onSession k (fun c => c.receiveControl S data o) none).2 = some .rebind then some addr
    else none
  | _ => none

def ManagerOp.rebindsTo (S : ServerContext) (m : SessionManager) (sessionId : SessionId) : ManagerOp → Option SocketAddr
  | .message ctrl o => ctrl.rebindsTo S m sessionId o
  | .rebind k addr => if k = sessionId then some addr else none
  | _ => none

namespace SessionManager

structure Registered (m : SessionManager) (sessionId : SessionId) (addr : SocketAddr) : Prop where
  clientAddr : ∀ {c}, m.sessions.lookup sessionId = some c → c.clientAddr = addr
  sessionId : ∀ {c}, m.sessions.lookup sessionId = some c → c.session.sessionId = sessionId

def Stays (m m' : SessionManager) : Prop :=
  Derives (fun c c' => c'.clientAddr = c.clientAddr) m.sessions m'.sessions

variable {S : ServerContext} {m m' : SessionManager} {sessionId k : SessionId} {addr : SocketAddr}

theorem Registered.of_stays (h : m.Registered sessionId addr) (hstays : m.Stays m') (hadvances : m.Advances m') :
    m'.Registered sessionId addr := by
  constructor
  · intro c' hc'
    obtain ⟨c, hc, hsame⟩ := hstays sessionId c' hc'
    exact hsame.trans (h.clientAddr hc)
  · intro c' hc'
    obtain ⟨c, hc, hadv⟩ := hadvances sessionId c' hc'
    exact hadv.sessionId_eq.trans (h.sessionId hc)

theorem Registered.of_lookup (h : m.Registered sessionId addr)
    (hlookup : m'.sessions.lookup sessionId = none ∨ m'.sessions.lookup sessionId = m.sessions.lookup sessionId) :
    m'.Registered sessionId addr := by
  rcases hlookup with hnone | hsame
  · constructor
    all_goals
      intro c hc
      cases hnone.symm.trans hc
  · exact ⟨fun hc => h.clientAddr (hsame.symm.trans hc), fun hc => h.sessionId (hsame.symm.trans hc)⟩

theorem onSession_stays {β : Type} {f : ClientSession → ClientSession × β} {absent : β}
    (hf : ∀ c : ClientSession, (f c).1.clientAddr = c.clientAddr) : m.Stays (m.onSession k f absent).1 :=
  derives_onEntry (fun _ => rfl) hf

theorem Registered.updateClientAddr (h : m.Registered sessionId addr) (k : SessionId) (addr' : SocketAddr) :
    (m.updateClientAddr k addr').Registered sessionId (if k = sessionId then addr' else addr) := by
  by_cases hk : k = sessionId
  · subst hk
    rw [if_pos rfl]
    constructor
    · intro c' hc'
      have hmap := (lookup_onSession.trans (if_pos rfl)).symm.trans hc'
      obtain ⟨c, -, rfl⟩ := Option.map_eq_some_iff.mp hmap
      rfl
    · intro c' hc'
      obtain ⟨c, hc, hadv⟩ := (updateClientAddr_movesOn k addr') k c' hc'
      exact hadv.sessionId_eq.trans (h.sessionId hc)
  · rw [if_neg hk]
    refine h.of_lookup (.inr ?_)
    exact lookup_onSession.trans (if_neg (Ne.symm hk))

theorem lookup_updateClientAddr {c : ClientSession} (h : m.sessions.lookup sessionId = some c) (addr : SocketAddr) :
    (m.updateClientAddr sessionId addr).sessions.lookup sessionId = some { c with clientAddr := addr } :=
  lookup_onSession_self h

theorem Registered.removeSession (h : m.Registered sessionId addr) (k : SessionId) :
    (m.removeSession k).1.Registered sessionId addr := by
  apply h.of_lookup
  rw [lookup_removeSession]
  split
  · exact .inl rfl
  · exact .inr rfl

theorem Registered.sendMessage (h : m.Registered sessionId addr) (k : SessionId) (A : Aes256Gcm) (msgType : MessageType)
    (payload : ClientSession → Bytes) (room : Bool) :
    (m.onSession k (fun c => c.sendMessage A msgType (payload c) room) none).1.Registered sessionId addr :=
  h.of_stays (onSession_stays fun _ => clientAddr_sendMessage ..)
    (onSession_movesOn fun c => c.sendMessage_movesOn A msgType (payload c) room).advances

theorem Registered.handleControl (h : m.Registered sessionId addr) (k : SessionId) (data : Bytes)
    (addr' : SocketAddr) (o : Occasion) :
    (m.handleControl S k data addr' o).1.Registered sessionId
      (((WorkerControl.control k data addr').rebindsTo S m sessionId o).getD addr) := by
  have hreceived : (m.onSession k (fun c => c.receiveControl S data o) none).1.Registered sessionId addr :=
    h.of_stays (onSession_stays fun _ => clientAddr_receiveControl ..)
      (onSession_movesOn fun c => c.receiveControl_movesOn data o).advances
  rw [WorkerControl.rebindsTo]
  unfold SessionManager.handleControl
  generalize m.onSession k (fun c => c.receiveControl S data o) none = r at hreceived ⊢
  obtain ⟨m₁, request⟩ := r
  dsimp only at hreceived ⊢
  split
  case h_1 =>
    have hnot : ¬(k = sessionId ∧ some ControlType.close = some .rebind) := fun h => absurd h.2 (by decide)
    rw [if_neg hnot]
    exact hreceived.removeSession k
  case h_2 =>
    have hto : (if k = sessionId ∧ some ControlType.rebind = some .rebind then some addr' else none).getD addr =
        if k = sessionId then addr' else addr := by
      by_cases hk : k = sessionId
      · rw [if_pos ⟨hk, rfl⟩, if_pos hk]
        rfl
      · rw [if_neg fun h => hk h.1, if_neg hk]
        rfl
    rw [hto]
    exact (hreceived.updateClientAddr k addr').sendMessage k S.P.aes256Gcm .control _ o.queueHasRoom
  case h_3 hclose hrebind =>
    rw [if_neg fun h => hrebind h.2]
    exact hreceived

theorem Registered.apply (h : m.Registered sessionId addr) (op : ManagerOp) :
    (m.apply S op).Registered sessionId ((op.rebindsTo S m sessionId).getD addr) := by
  have hadvances := m.apply_advances (S := S) op
  cases op with
  | remove k => exact h.removeSession k
  | cleanup now => exact h.of_lookup lookup_cleanupExpired
  | message ctrl o =>
    cases ctrl with
    | keepalive k data addr' =>
      exact h.of_stays (onSession_stays fun _ => clientAddr_handleKeepalive ..) hadvances
    | rekey k data addr' =>
      exact h.of_stays (onSession_stays fun _ => clientAddr_handleRekey ..) hadvances
    | control k data addr' => exact h.handleControl k data addr' o
    | handshakeInit data addr' => exact h
    | handshakeFragment data addr' => exact h
  | absorb k data now touch =>
    refine h.of_stays (onSession_stays fun c => clientAddr_onPacket fun c payload => ?_) hadvances
    cases touch with
    | true => rfl
    | false => rfl
  | rebind k addr' =>
    have hto : (if k = sessionId then some addr' else none).getD addr = if k = sessionId then addr' else addr := by
      split
      all_goals rfl
    rw [ManagerOp.rebindsTo, hto]
    exact h.updateClientAddr k addr'
  | send k msgType payload bytesSent =>
    exact h.of_stays (onSession_stays fun _ => clientAddr_sendMessage ..) hadvances

theorem Registered.receive (h : m.Registered sessionId addr) (p : UdpPath) (data : Bytes) (addr' : SocketAddr)
    (now : UInt64) : (p.receive S now m data addr').1.Registered sessionId addr := by
  rw [p.receive_eq_route]
  rcases m.route_cases (p.onData S now) data addr' with ⟨-, hsame, -⟩ | ⟨header, -, -, hroute, -⟩
  · rw [hsame]
    exact h
  · rw [hroute]
    exact h.of_stays (onSession_stays fun _ => clientAddr_onData ..)
      (onSession_movesOn fun _ => p.onData_movesOn).advances

theorem Registered.createSession (h : m.Registered sessionId addr) (picker pickerV6 : Picker Nat) {session : Session}
    (hother : session.sessionId ≠ sessionId) (addr' : SocketAddr) (level : SecurityLevel) (now : UInt64) :
    (m.createSessionDualStackWithLevel picker pickerV6 session addr' level now).1.Registered sessionId addr := by
  apply h.of_lookup
  right
  rcases m.createSession_cases picker pickerV6 session addr' level now with ⟨e, -, hlookup⟩ | ⟨ip, ip6, -, hlookup⟩
  all_goals rw [hlookup, if_neg (symm hother)]

end SessionManager

inductive ServerOp
  | create (picker pickerV6 : Picker Nat) (session : Session) (addr : SocketAddr) (level : SecurityLevel) (now : UInt64)
  | datagram (path : UdpPath) (data : Bytes) (addr : SocketAddr) (now : UInt64)
  | manage (op : ManagerOp)

/-- The id of the session is not drawn again. -/
def ServerOp.Spares (sessionId : SessionId) : ServerOp → Prop
  | .create _ _ session _ _ _ => session.sessionId ≠ sessionId
  | _ => True

/-- The manager, and the address one session was last registered from. -/
structure SessionHome where
  manager : SessionManager
  addr : SocketAddr

namespace SessionHome

def step (S : ServerContext) (sessionId : SessionId) (s : SessionHome) : ServerOp → SessionHome
  | .create picker pickerV6 session addr level now =>
    ⟨(s.manager.createSessionDualStackWithLevel picker pickerV6 session addr level now).1, s.addr⟩
  | .datagram path data addr now => ⟨(path.receive S now s.manager data addr).1, s.addr⟩
  | .manage op => ⟨s.manager.apply S op, (op.rebindsTo S s.manager sessionId).getD s.addr⟩

variable {S : ServerContext} {sessionId : SessionId} {s : SessionHome}

theorem registered_step (h : s.manager.Registered sessionId s.addr) {op : ServerOp} (hop : op.Spares sessionId) :
    (s.step S sessionId op).manager.Registered sessionId (s.step S sessionId op).addr := by
  cases op with
  | create picker pickerV6 session addr level now => exact h.createSession picker pickerV6 hop addr level now
  | datagram path data addr now => exact h.receive path data addr now
  | manage op => exact h.apply op

theorem registered_exec (ops : List ServerOp) (hops : ∀ op ∈ ops, op.Spares sessionId)
    (h : s.manager.Registered sessionId s.addr) :
    (exec (step S sessionId) s ops).manager.Registered sessionId (exec (step S sessionId) s ops).addr := by
  have hstep : ∀ (s : SessionHome) (op : ServerOp), s.manager.Registered sessionId s.addr → op.Spares sessionId →
      (s.step S sessionId op).manager.Registered sessionId (s.step S sessionId op).addr :=
    fun s op hs hop => registered_step hs hop
  exact exec_invariant_of hstep ops s h (meets_of_forall (fun op hop _ => hops op hop) s)

theorem step_rebind (addr : SocketAddr) :
    s.step S sessionId (.manage (.rebind sessionId addr)) = ⟨s.manager.updateClientAddr sessionId addr, addr⟩ := by
  rw [step, ManagerOp.rebindsTo, if_pos rfl]
  rfl

end SessionHome

variable {addr : SocketAddr}

theorem SessionManager.Completed.registered {S : InitContext} {m : SessionManager} {init : HandshakeInit}
    {o : InitOccasion}
    (h : m.Completed (m.establish S init addr o).1 addr (m.establish S init addr o).2) :
    (m.establish S init addr o).1.Registered o.sessionId addr := by
  obtain ⟨hfresh, -⟩ := h.lookup_new
  have hnew : ∀ {c}, (m.establish S init addr o).1.sessions.lookup o.sessionId = some c →
      c.clientAddr = addr ∧ c.session.sessionId = o.sessionId := by
    intro c hc
    rcases lookup_establish hc with hold | ⟨-, ip, ip6, keys, rfl⟩
    · cases hfresh.symm.trans hold
    · exact ⟨rfl, rfl⟩
  exact ⟨fun hc => (hnew hc).1, fun hc => (hnew hc).2⟩

/-! ### What the server hands on, and what it sends -/

variable {c : ClientSession}

theorem ClientSession.admitData_eq_some {accrue : Accrual} {onMismatch : ClientSession → ClientSession}
    {now : UInt64} {size : Nat} {buf : Bytes}
    (hrate : (c.rateLimiter.check accrue now (UInt64.ofNat buf.length)).2 = true) :
    (c.admitData accrue onMismatch addr now size buf).2 = some buf ↔
      c.clientAddr = addr ∧ (buf ≠ [] → c.validSrc buf = true) := by
  have hallowed : (c.checkRateLimit accrue now buf.length).2 = true := hrate
  have hsource : (c.checkRateLimit accrue now buf.length).1.validSrc buf = c.validSrc buf := rfl
  unfold admitData
  by_cases haddr : c.clientAddr = addr
  case neg =>
    rw [if_pos haddr]
    exact iff_of_false nofun fun h => haddr h.1
  rw [if_neg (not_not_intro haddr)]
  generalize c.checkRateLimit accrue now buf.length = r at hallowed hsource ⊢
  obtain ⟨c₁, allowed⟩ := r
  obtain rfl : allowed = true := hallowed
  dsimp only at hsource ⊢
  rw [hsource]
  split
  case isTrue hbad =>
    refine iff_of_false nofun fun h => ?_
    have hgood := h.2 (List.length_pos_iff.mp hbad.1)
    cases hgood.symm.trans hbad.2
  case isFalse hgood =>
    refine iff_of_true rfl ⟨haddr, fun hne => ?_⟩
    by_contra hsrc
    exact hgood ⟨List.length_pos_iff.mpr hne, Bool.eq_false_of_not_eq_true hsrc⟩

variable {data : Bytes}

theorem UdpPath.onData_eq_some {S : ServerContext} {now : UInt64} {payload : Bytes}
    {header : PacketHeader} (p : UdpPath)
    (hopen : c.session.openPacket S.P.aes256Gcm data maxPacketSize = .ok (header, payload))
    (hcheck : c.session.recvWindow.check header.counter = true)
    (hrate : (c.rateLimiter.check S.accrue now (UInt64.ofNat payload.length)).2 = true) :
    (p.onData S now c data addr).2 = some payload ↔
      c.clientAddr = addr ∧ (p ≠ .nonLinux → payload ≠ [] → c.validSrc payload = true) := by
  have haccepts : c.session.Accepts S.P.aes256Gcm data maxPacketSize := ⟨header, payload, hopen, hcheck⟩
  have hnext {next : ClientSession → Bytes → ClientSession × Option Bytes} :
      c.onPacket S.P.aes256Gcm data maxPacketSize now next = next (c.accepted now header.counter data.length) payload := by
    rcases c.onPacket_cases S.P.aes256Gcm data maxPacketSize now next with ⟨hno, -⟩ | ⟨header', payload', hopen', -, heq⟩
    · exact absurd haccepts hno
    · cases hopen.symm.trans hopen'
      exact heq
  by_cases hp : p = .nonLinux
  case neg =>
    rw [onData_eq_admitData hp, hnext]
    have hadmit : (ClientSession.admitData S.accrue p.onMismatch addr now data.length
          (c.accepted now header.counter data.length) payload).2 = some payload ↔
        c.clientAddr = addr ∧ (payload ≠ [] → c.validSrc payload = true) :=
      admitData_eq_some hrate
    exact hadmit.trans (and_congr_right fun _ => ⟨fun h _ => h, fun h => h hp⟩)
  case pos =>
    subst hp
    unfold onData ClientSession.handleDataPacket
    dsimp only
    rw [hnext]
    have haccepted : (c.accepted now header.counter data.length).clientAddr = c.clientAddr := rfl
    by_cases haddr : c.clientAddr = addr
    · rw [if_neg (not_not_intro (haccepted.trans haddr))]
      exact iff_of_true rfl ⟨haddr, fun h => absurd rfl h⟩
    · rw [if_pos fun h => haddr (haccepted.symm.trans h)]
      exact iff_of_false nofun fun h => haddr h.1

/-- `packet` is data that the client sealed under the keys the session has, and new to the session. -/
structure ClientSession.Expects (A : Aes256Gcm) (c : ClientSession) (payload packet : Bytes) : Prop where
  client : ∃ client client' calls outputLen,
    Session.encryptPacket A client .data payload outputLen = (client', calls, .ok packet) ∧
      c.session.sessionId = client.sessionId ∧ c.session.keyId = client.keyId ∧ c.session.keys = client.keys.swap ∧
      c.session.recvWindow.check client.sendCounter = true

variable {A : Aes256Gcm}

theorem ClientSession.Expects.moved {payload packet : Bytes} (h : c.Expects A payload packet) (addr : SocketAddr) :
    ({ c with clientAddr := addr } : ClientSession).Expects A payload packet := ⟨h.client⟩

/-- The session seals the data and sends it to the address it has for the client. -/
structure ClientSession.Sends (A : Aes256Gcm) (c : ClientSession) (addr : SocketAddr) (data : Bytes) : Prop where
  addr_eq : addr = c.clientAddr
  seals : ∃ msgType ∈ [MessageType.data, .keepaliveReply, .rekeyResponse, .control], ∃ payload outputLen session calls,
    c.session.encryptPacket A msgType payload outputLen = (session, calls, .ok data)

theorem ClientSession.Sends.moved (h : c.Sends A addr data) (addr' : SocketAddr) :
    ({ c with clientAddr := addr' } : ClientSession).Sends A addr' data := ⟨rfl, h.seals⟩

theorem SessionManager.sealFor_sends {packet : Bytes} {bufferLen : Nat}
    (h : (sealFor A packet bufferLen c).2 = some data) : c.Sends A c.clientAddr data := by
  refine ⟨rfl, .data, by decide, packet, bufferLen, ?_⟩
  unfold sealFor at h
  split at h
  · cases h
  case h_2 session calls data' hencrypt =>
      cases h
      exact ⟨session, calls, hencrypt⟩

theorem ClientSession.Sends.header (h : c.Sends A addr data) : ∃ header, PacketHeader.decode data = .ok header ∧
      header.sessionId = c.session.sessionId ∧
      header.msgType ∈ [MessageType.data, .keepaliveReply, .rekeyResponse, .control] := by
  obtain ⟨msgType, htype, payload, outputLen, session, calls, hencrypt⟩ := h.seals
  obtain ⟨-, hcarries⟩ := Session.encryptPacket_sent hencrypt
  obtain ⟨ciphertext, -, rfl⟩ := (hcarries data rfl).2.packet_eq
  exact ⟨_, decode_toBytes (new_wellFormed ..) ciphertext, rfl, htype⟩

/-! ### What the relay passes on -/

namespace Relay
namespace RelayServer
variable {accrue : Accrual} {r : RelayServer} {now : Nat} {data : Bytes} {clientAddr : SocketAddr}
  {header : PacketHeader}

/-- The limits of the session leave room for a packet of its client. -/
def AllowsClient (accrue : Accrual) (r : RelayServer) (sessionId : SessionId) (now bytes : Nat) : Prop :=
  r.sessions.isRateLimited = true → ∀ session, r.sessions.sessions.lookup sessionId = some session →
    (session.checkRateLimit accrue now bytes).2 = true

/-- The relay's own rate limit lets the packet pass. -/
def AllowsUpstream (accrue : Accrual) (r : RelayServer) (sessionId : SessionId) (now bytes : Nat) : Prop :=
  r.sessions.isRateLimited = true → ∀ session, r.sessions.sessions.lookup sessionId = some session →
    (session.checkUpstreamRateLimit accrue now bytes).2 = true

theorem handleClientPacket_bound (hdecode : PacketHeader.decode data = .ok header)
    (htype : isHandshakeType header.msgType = false) (hid : header.sessionId ≠ 0)
    (hbound : r.bound header.sessionId = some clientAddr)
    (hrate : r.AllowsClient accrue header.sessionId now data.length) :
    (r.handleClientPacket accrue now data clientAddr).2 = .sendUpstream data := by
  obtain ⟨session, hlookup, rfl⟩ := bound_eq_some.mp hbound
  have hlong : ¬data.length < headerSize := not_lt.mpr (headerSize_le_of_decode hdecode)
  have hentry : (SessionManager.processClientEntry accrue r.sessions.isRateLimited session.clientAddr now data.length
      session).2 = .forward false := by
    unfold SessionManager.processClientEntry
    rw [if_neg (not_not_intro rfl)]
    cases hlimited : r.sessions.isRateLimited with
    | false => rfl
    | true =>
      have hallowed := hrate hlimited session hlookup
      generalize session.checkRateLimit accrue now data.length = checked at hallowed ⊢
      obtain ⟨session', allowed⟩ := checked
      obtain rfl : allowed = true := hallowed
      rfl
  have hforward : (r.sessions.processClientPacket accrue header.sessionId session.clientAddr now data.length).2 =
      .forward false := by
    rw [SessionManager.processClientPacket, if_neg hid, onEntry_of_some hlookup]
    exact hentry
  unfold handleClientPacket
  rw [if_neg hlong, hdecode]
  dsimp only
  rw [htype]
  generalize r.sessions.processClientPacket accrue header.sessionId session.clientAddr now data.length =
    processed at hforward ⊢
  obtain ⟨sessions, result⟩ := processed
  obtain rfl : result = .forward false := hforward
  rfl

theorem handleUpstreamPacket_bound (hdecode : PacketHeader.decode data = .ok header)
    (hbound : r.bound header.sessionId = some clientAddr)
    (hrate : r.AllowsUpstream accrue header.sessionId now data.length) :
    (r.handleUpstreamPacket accrue now data).2 = .sendClient clientAddr data := by
  obtain ⟨session, hlookup, rfl⟩ := bound_eq_some.mp hbound
  have hlong : ¬data.length < headerSize := not_lt.mpr (headerSize_le_of_decode hdecode)
  unfold handleUpstreamPacket
  rw [if_neg hlong, hdecode]
  dsimp only
  -- the limiter lets the packet through and keeps the client of the entry
  have hchecked : (if r.sessions.isRateLimited then
        r.sessions.checkUpstreamRateLimit accrue header.sessionId now data.length
      else (r.sessions, true)).2 = true ∧ ∃ session', (if r.sessions.isRateLimited then
        r.sessions.checkUpstreamRateLimit accrue header.sessionId now data.length
      else (r.sessions, true)).1.sessions.lookup header.sessionId = some session' ∧
        session'.clientAddr = session.clientAddr := by
    split
    case isTrue hlimited =>
      refine ⟨?_, (session.checkUpstreamRateLimit accrue now data.length).1, lookup_onEntry_self hlookup, rfl⟩
      rw [SessionManager.checkUpstreamRateLimit, onEntry_of_some hlookup]
      exact hrate hlimited session hlookup
    case isFalse => exact ⟨rfl, session, hlookup, rfl⟩
  generalize (if r.sessions.isRateLimited = true then
      r.sessions.checkUpstreamRateLimit accrue header.sessionId now data.length
    else (r.sessions, true)) = checked at hchecked ⊢
  obtain ⟨sessions, allowed⟩ := checked
  obtain ⟨hallowed, session', hlookup', hsame⟩ := hchecked
  obtain rfl : allowed = true := hallowed
  have htarget : (sessions.processUpstreamPacket header.sessionId now data.length).2 = some session.clientAddr := by
    rw [SessionManager.processUpstreamPacket, onEntry_of_some hlookup', ← hsame]
  dsimp only
  generalize sessions.processUpstreamPacket header.sessionId now data.length = processed at htarget ⊢
  obtain ⟨sessions', target⟩ := processed
  obtain rfl : target = some session.clientAddr := htarget
  rfl

end RelayServer

/-- The relay with the sockets that face the server: the shared one, and those of the handshakes in flight. -/
structure RelayNode where
  relay : RelayServer
  upstreamSocket : SocketAddr
  bufferSize : Nat
  tasks : Table SocketAddr HandshakeTask
  tasks_buffer : ∀ addr task, tasks.lookup addr = some task → task.context.bufferSize = bufferSize

namespace RelayNode

/-- A datagram of the server on one of the relay's sockets, and what the clients are sent for it. -/
def receiveUpstream (accrue : Accrual) (node : RelayNode) (now : Nat) (addr : SocketAddr) (data : Bytes)
    (order : Chooser FragmentKey) : List (SocketAddr × Bytes) :=
  if addr = node.upstreamSocket then
    match node.relay.handleUpstreamPacket accrue now (data.take node.bufferSize) with
    | (_, .sendClient clientAddr data) => [(clientAddr, data)]
    | _ => []
  else
    match node.tasks.lookup addr with
    | none => []
    | some task =>
      match task.receive node.relay.sessions ⟨data, now, order, true⟩ with
      | .ok (_, _, sent) => sent.map fun data => (task.clientAddr, data)
      | .error _ => []

/-- A datagram of a client through the relay to a worker of the server, and what is handed to the TUN device. -/
def uplink (S : ServerContext) (accrue : Accrual) (node : RelayNode) (server : HpnVpn.SessionManager) (path : UdpPath)
    (now : Nat) (serverNow : UInt64) (clientAddr : SocketAddr) (data : Bytes) : Option Bytes :=
  match node.relay.handleClientPacket accrue now (data.take node.bufferSize) clientAddr with
  | (_, .sendUpstream data) => (path.receive S serverNow server data node.upstreamSocket).2.handed
  | _ => none

variable {S : ServerContext} {accrue : Accrual} {node : RelayNode} {server : HpnVpn.SessionManager} {sessionId : SessionId}
  {clientAddr : SocketAddr} {c : ClientSession}

theorem task_receive_drops {sessions : SessionManager} {task : HandshakeTask} {d : TaskDatagram} {header : PacketHeader}
    (hdecode : PacketHeader.decode (d.data.take task.context.bufferSize) = .ok header)
    (htype : header.msgType ∈ [MessageType.data, .keepaliveReply, .rekeyResponse, .control]) :
    ∃ next, task.receive sessions d = .ok (sessions, next, []) := by
  unfold HandshakeTask.receive
  split
  · exact ⟨none, rfl⟩
  · dsimp only
    rw [hdecode]
    dsimp only
    refine ⟨some task, ?_⟩
    generalize header.msgType = msgType at htype ⊢
    simp only [List.mem_cons, List.not_mem_nil, or_false] at htype
    rcases htype with rfl | rfl | rfl | rfl
    all_goals rfl

theorem receiveUpstream_eq (hbound : node.relay.bound sessionId = some clientAddr)
    (hsession : c.session.sessionId = sessionId) {addr : SocketAddr} {data : Bytes}
    (hsends : c.Sends S.P.aes256Gcm addr data) (hfits : data.length ≤ node.bufferSize) {now : Nat}
    (hrate : node.relay.AllowsUpstream accrue sessionId now data.length) (order : Chooser FragmentKey) :
    node.receiveUpstream accrue now addr data order = [(clientAddr, data)] ↔ c.clientAddr = node.upstreamSocket := by
  obtain ⟨header, hdecode, hheader, htype⟩ := hsends.header
  obtain rfl := hsends.addr_eq
  have hid : header.sessionId = sessionId := hheader.trans hsession
  subst hid
  unfold receiveUpstream
  by_cases haddr : c.clientAddr = node.upstreamSocket
  case pos =>
    rw [if_pos haddr, List.take_of_length_le hfits]
    have hsend := RelayServer.handleUpstreamPacket_bound hdecode hbound hrate
    generalize node.relay.handleUpstreamPacket accrue now data = r at hsend ⊢
    obtain ⟨relay, action⟩ := r
    obtain rfl : action = .sendClient clientAddr data := hsend
    exact iff_of_true rfl haddr
  case neg =>
    rw [if_neg haddr]
    refine iff_of_false ?_ haddr
    split
    · exact nofun
    case h_2 task htask =>
      have hread : PacketHeader.decode (data.take task.context.bufferSize) = .ok header := by
        rw [node.tasks_buffer _ task htask, List.take_of_length_le hfits]
        exact hdecode
      obtain ⟨next, hreceive⟩ := @task_receive_drops node.relay.sessions task ⟨data, now, order, true⟩ header hread htype
      rw [hreceive]
      exact nofun

theorem uplink_eq (hbound : node.relay.bound sessionId = some clientAddr) (hid : sessionId ≠ 0)
    (hc : server.sessions.lookup sessionId = some c) (hsession : c.session.sessionId = sessionId)
    {payload packet : Bytes} (hexpects : c.Expects S.P.aes256Gcm payload packet) (hfits : packet.length ≤ node.bufferSize)
    (hdatagram : packet.length ≤ maxPacketSize) {now : Nat}
    (hrate : node.relay.AllowsClient accrue sessionId now packet.length) {serverNow : UInt64}
    (hserver : (c.rateLimiter.check S.accrue serverNow (UInt64.ofNat payload.length)).2 = true) (path : UdpPath) :
    node.uplink S accrue server path now serverNow clientAddr packet = some payload ↔
      c.clientAddr = node.upstreamSocket ∧ (path ≠ .nonLinux → payload ≠ [] → c.validSrc payload = true) := by
  obtain ⟨client, client', calls, outputLen, hsend, hclient, hkeyId, hkeys, hfresh⟩ := hexpects.client
  have hcarries := ((Session.encryptPacket_sent hsend).2 packet rfl).2
  rw [← hclient, ← hkeyId] at hcarries
  have hroom : payload.length + tagSize ≤ maxPacketSize := hcarries.payload_le.trans hdatagram
  obtain ⟨hopen, hcheck, -⟩ := Session.decryptPacket_eq_ok.mp (hcarries.decryptPacket hkeys hfresh 0 hroom)
  obtain ⟨ciphertext, -, rfl⟩ := hcarries.packet_eq
  let header := PacketHeader.new .data c.session.sessionId c.session.keyId client.sendCounter
  have hdecode : PacketHeader.decode (header.toBytes ++ ciphertext) = .ok header :=
    decode_toBytes (new_wellFormed ..) ciphertext
  subst hsession
  have hforward : (node.relay.handleClientPacket accrue now (header.toBytes ++ ciphertext) clientAddr).2 =
      .sendUpstream (header.toBytes ++ ciphertext) :=
    RelayServer.handleClientPacket_bound hdecode rfl hid hbound hrate
  have hhanded : (path.receive S serverNow server (header.toBytes ++ ciphertext) node.upstreamSocket).2.handed =
      (path.onData S serverNow c (header.toBytes ++ ciphertext) node.upstreamSocket).2 := by
    rw [path.receive_eq_route]
    rcases server.route_cases (path.onData S serverNow) (header.toBytes ++ ciphertext) node.upstreamSocket with
      ⟨hnot, -, -⟩ | ⟨header', hdecode', -, -, hhanded⟩
    · exact absurd rfl (hnot header hdecode)
    · cases hdecode.symm.trans hdecode'
      rw [hhanded]
      exact SessionManager.onSession_answer hc
  unfold uplink
  rw [List.take_of_length_le hfits]
  generalize node.relay.handleClientPacket accrue now (header.toBytes ++ ciphertext) clientAddr = r at hforward ⊢
  obtain ⟨relay, action⟩ := r
  obtain rfl : action = .sendUpstream (header.toBytes ++ ciphertext) := hforward
  dsimp only
  rw [hhanded]
  exact path.onData_eq_some hopen hcheck hserver

/-- A session that is bound at the relay carries data just while the address it was last registered from is the shared
socket. -/
theorem relayed_session_iff {S : InitContext} {m : HpnVpn.SessionManager} {init : HandshakeInit} {source : SocketAddr}
    {o : InitOccasion}
    (hcompleted : m.Completed (m.establish S init source o).1 source (m.establish S init source o).2)
    (ops : List ServerOp) (hops : ∀ op ∈ ops, op.Spares o.sessionId) (accrue : Accrual) (config : RelayConfig)
    (start : Nat) (arrivals : List Arrival) (node : RelayNode)
    (hnode : node.relay = (exec (RelayRun.step accrue) (RelayRun.start config start) arrivals).relay)
    (clientAddr : SocketAddr) (hbound : node.relay.bound o.sessionId = some clientAddr) :
    let home := exec (SessionHome.step S.toServerContext o.sessionId) ⟨(m.establish S init source o).1, source⟩ ops
    ∀ c, home.manager.sessions.lookup o.sessionId = some c →
      (∀ payload packet now serverNow path, c.Expects S.P.aes256Gcm payload packet →
        packet.length ≤ node.bufferSize → packet.length ≤ maxPacketSize →
        node.relay.AllowsClient accrue o.sessionId now packet.length →
        (c.rateLimiter.check S.accrue serverNow (UInt64.ofNat payload.length)).2 = true →
        (node.uplink S.toServerContext accrue home.manager path now serverNow clientAddr packet = some payload ↔
          home.addr = node.upstreamSocket ∧ (path ≠ .nonLinux → payload ≠ [] → c.validSrc payload = true))) ∧
      (∀ addr data now order, c.Sends S.P.aes256Gcm addr data → data.length ≤ node.bufferSize →
        node.relay.AllowsUpstream accrue o.sessionId now data.length →
        (node.receiveUpstream accrue now addr data order = [(clientAddr, data)] ↔
          home.addr = node.upstreamSocket)) := by
  intro home c hc
  have hregistered := SessionHome.registered_exec (S := S.toServerContext)
    (s := ⟨(m.establish S init source o).1, source⟩) ops hops hcompleted.registered
  have haddr : c.clientAddr = home.addr := hregistered.clientAddr hc
  have hsession : c.session.sessionId = o.sessionId := hregistered.sessionId hc
  have hid : o.sessionId ≠ 0 := by
    intro hzero
    have hnone : node.relay.bound 0 = none := hnode ▸ RelayRun.bound_zero accrue arrivals rfl
    rw [hzero, hnone] at hbound
    cases hbound
  rw [← haddr]
  constructor
  · intro payload packet now serverNow path hexpects hfits hdatagram hrate hserver
    exact uplink_eq hbound hid hc hsession hexpects hfits hdatagram hrate hserver path
  · intro addr data now order hsends hfits hrate
    exact receiveUpstream_eq hbound hsession hsends hfits hrate order

end RelayNode
end Relay

namespace RelaySample
open AtomicitySample InitSample Relay
open ForeignSample (home)

def socket (port : UInt16) : SocketAddr := .v4 (Block.replicate 4 7) port

def established : SessionManager := (manager.establish (context 2) InitSample.init (socket 40000) occasion).1

theorem established_isSome : (established.sessions.lookup 42).isSome = true := by decide +kernel

def record : ClientSession := (established.sessions.lookup 42).get established_isSome

theorem lookup_established : established.sessions.lookup 42 = some record := (Option.some_get established_isSome).symm

def rebound : ClientSession := { record with clientAddr := socket 39999 }

def relayRun : RelayRun :=
  exec (RelayRun.step accrue) (.start ⟨300000, 1000, none, none, none, none, none⟩ 0)
    [⟨0, .bindEstablished 42 home⟩]

def node : RelayNode := ⟨relayRun.relay, socket 39999, 2048, ∅, nofun⟩

def payload : Bytes := [69, 0, 0, 20, 0, 0, 0, 0, 64, 17, 0, 0, 10, 99, 0, 2, 1, 1, 1, 1]

def clientSession : Session := Session.new 42 record.session.keys.swap 0

def packet : Bytes :=
  match (clientSession.encryptPacket (context 2).P.aes256Gcm .data payload 100).2.2 with
  | .ok packet => packet
  | .error _ => []

def reply : Bytes := ((SessionManager.sealFor (context 2).P.aes256Gcm DownlinkSample.reply 100 record).2).getD []

/-- The packets are sealed and fit, their session takes them from its address, and the relay loses them. -/
theorem evaluated :
    ((clientSession.encryptPacket (context 2).P.aes256Gcm .data payload 100).2.2 = .ok packet ∧
      record.session.sessionId = clientSession.sessionId ∧ record.session.keyId = clientSession.keyId ∧
      record.session.keys = clientSession.keys.swap ∧
      record.session.recvWindow.check clientSession.sendCounter = true) ∧
    (SessionManager.sealFor (context 2).P.aes256Gcm DownlinkSample.reply 100 record).2 = some reply ∧
    (packet.length ≤ 100 ∧ reply.length ≤ 100 ∧ rebound.validSrc payload = true ∧
      (rebound.rateLimiter.check (context 2).accrue 0 (UInt64.ofNat payload.length)).2 = true) ∧
    (established.processPacket (context 2).toServerContext packet (socket 40000) 0).2 = .toTun payload ∧
    node.uplink (context 2).toServerContext accrue established .recvmmsg 0 0 home packet = none ∧
    node.receiveUpstream accrue 0 record.clientAddr reply .first = [] := by
  decide +kernel

theorem expects_packet : record.Expects (context 2).P.aes256Gcm payload packet := by
  obtain ⟨⟨hok, hsession, hkeyId, hkeys, hfresh⟩, -⟩ := evaluated
  exact ⟨clientSession, _, _, 100, Prod.ext rfl (Prod.ext rfl hok), hsession, hkeyId, hkeys, hfresh⟩

theorem sends_reply : record.Sends (context 2).P.aes256Gcm record.clientAddr reply :=
  SessionManager.sealFor_sends evaluated.2.1

theorem bound_node : node.relay.bound 42 = some home := by decide +kernel

/-- From the socket of the handshake the client's packet would be handed on; through the relay it is dropped, and so
are the server's. -/
theorem relayed_data_lost :
    manager.Completed established (socket 40000)
        (manager.establish (context 2) InitSample.init (socket 40000) occasion).2 ∧
      established.sessions.lookup 42 = some record ∧
      node.relay.bound 42 = some home ∧
      record.Expects (context 2).P.aes256Gcm payload packet ∧
      (established.processPacket (context 2).toServerContext packet (socket 40000) 0).2 = .toTun payload ∧
      node.uplink (context 2).toServerContext accrue established .recvmmsg 0 0 home packet = none ∧
      record.Sends (context 2).P.aes256Gcm record.clientAddr reply ∧
      node.receiveUpstream accrue 0 record.clientAddr reply .first = [] := by
  obtain ⟨-, -, -, hdirect, hlost, hunreached⟩ := evaluated
  exact ⟨completed_init.of_addr (socket 40000), lookup_established, bound_node, expects_packet, hdirect, hlost,
    sends_reply, hunreached⟩

theorem relayed_session_iff_rebound :
    let ops := [ServerOp.manage (.rebind 42 (socket 39999))]
    let home := exec (SessionHome.step (context 2).toServerContext 42) ⟨established, socket 40000⟩ ops
    node.uplink (context 2).toServerContext accrue home.manager .recvmmsg 0 0 ForeignSample.home packet = some payload ∧
      node.receiveUpstream accrue 0 (socket 39999) reply .first = [(ForeignSample.home, reply)] := by
  intro ops home
  have hhome : home = ⟨established.updateClientAddr 42 (socket 39999), socket 39999⟩ := by
    show exec (SessionHome.step (context 2).toServerContext 42) ⟨established, socket 40000⟩
      [ServerOp.manage (.rebind 42 (socket 39999))] = _
    rw [exec_cons, exec_nil, SessionHome.step_rebind]
  have hmoved : home.manager.sessions.lookup 42 = some rebound := by
    rw [hhome]
    exact SessionManager.lookup_updateClientAddr lookup_established (socket 39999)
  have hspares : ∀ op ∈ ops, op.Spares 42 := by
    intro op hop
    obtain rfl := List.mem_singleton.mp hop
    trivial
  obtain ⟨hup, hdown⟩ := RelayNode.relayed_session_iff (completed_init.of_addr (socket 40000)) ops hspares accrue
    ⟨300000, 1000, none, none, none, none, none⟩ 0 [⟨0, .bindEstablished 42 ForeignSample.home⟩] node rfl
    ForeignSample.home bound_node rebound hmoved
  have haddr : home.addr = node.upstreamSocket := by
    rfl
  have hexpects := expects_packet.moved (socket 39999)
  have hsends := sends_reply.moved (socket 39999)
  obtain ⟨-, -, ⟨hpacket, hreply, hsource, hrate⟩, -⟩ := evaluated
  have hbuffer : 100 ≤ node.bufferSize := by decide
  have hunlimited : ¬node.relay.sessions.isRateLimited = true := by decide +kernel
  constructor
  · refine (hup payload packet 0 0 .recvmmsg hexpects (hpacket.trans hbuffer) (hpacket.trans (by decide)) ?_
      hrate).mpr ⟨haddr, fun _ _ => hsource⟩
    exact fun hlimited => absurd hlimited hunlimited
  · refine (hdown (socket 39999) reply 0 .first hsends (hreply.trans hbuffer) ?_).mpr haddr
    exact fun hlimited => absurd hlimited hunlimited

end RelaySample

end HpnVpn
