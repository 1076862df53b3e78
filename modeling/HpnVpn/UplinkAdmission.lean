import HpnVpn.AfXdp
import HpnVpn.ReceiveEpochs

/-! What the four receive paths hand to the TUN device, with a record of the counters each accepted under the keys in
force.  The two Linux workers make every check; each of the other paths leaves some out. -/
namespace HpnVpn
open Wire Tables SessionManager ClientSession Session

inductive UdpPath
  | recvmmsg
  | ioUring
  | nonLinux
deriving DecidableEq

inductive DataPath
  | udp (path : UdpPath)
  | afXdp
deriving DecidableEq

def UdpPath.onData (S : ServerContext) (now : UInt64) :
    UdpPath → ClientSession → Bytes → SocketAddr → ClientSession × Option Bytes
  | recvmmsg => fun c data addr => c.processPacketData S.P.aes256Gcm S.accrue data addr now
  | ioUring => fun c data addr => c.processDataPacketIoUring S.P.aes256Gcm S.accrue data addr now
  | nonLinux => fun c data addr => c.handleDataPacket S.P.aes256Gcm data addr now

/-- The dispatch of the path, up to its data handler. -/
def UdpPath.receive (S : ServerContext) (now : UInt64) (m : SessionManager) (data : Bytes) (addr : SocketAddr) :
    UdpPath → SessionManager × WorkerAction
  | recvmmsg => m.processPacket S data addr now
  | ioUring => m.processIoUringSegment S data addr now
  | nonLinux => m.route (fun c data addr => c.handleDataPacket S.P.aes256Gcm data addr now) data addr

theorem UdpPath.receive_eq_route (S : ServerContext) (now : UInt64) (p : UdpPath) (m : SessionManager) (data : Bytes)
    (addr : SocketAddr) : p.receive S now m data addr = m.route (p.onData S now) data addr := by
  cases p with
  | recvmmsg => exact m.processPacket_eq_route S data addr now
  | ioUring => exact m.processIoUringSegment_eq_route S data addr now
  | nonLinux => rfl

def WorkerAction.handed : WorkerAction → Option Bytes
  | toTun packet => some packet
  | _ => none

@[simp] theorem WorkerAction.handed_ofHanded (o : Option Bytes) : (ofHanded o).handed = o := by
  cases o <;> rfl

namespace SessionManager

def acceptedData (A : Aes256Gcm) (m : SessionManager) (data : Bytes) : Option (SessionId × Counter) :=
  match PacketHeader.decode data with
  | .error _ => none
  | .ok header =>
    if header.msgType = .data then
      (m.sessions.lookup header.sessionId).bind fun c =>
        match c.session.openPacket A data maxPacketSize with
        | .error _ => none
        | .ok _ =>
          if c.session.recvWindow.check header.counter then some (header.sessionId, header.counter)
          else none
    else none

end SessionManager

namespace AfXdpTable

def acceptedData (A : Aes256Gcm) (t : AfXdpTable) (data : Bytes) : Option (SessionId × Counter) :=
  if data.length < headerSize + tagSize then none
  else
    match PacketHeader.decode data with
    | .error _ => none
    | .ok header =>
      if header.msgType = .data then
        (t.lookup header.sessionId).bind fun x =>
          match x.decrypt A header.counter (data.take header.encodedSize) (data.drop header.encodedSize)
              maxPacketSize with
          | .error _ => none
          | .ok _ =>
            if (x.checkReplay header.counter).2 then some (header.sessionId, header.counter) else none
      else none

end AfXdpTable

/-- The two session tables, with the counters each path accepted since the keys of the session were
installed. -/
structure UplinkServer where
  manager : SessionManager
  afxdp : AfXdpTable
  history : DataPath → SessionId → List Counter

/-- A datagram on one of the paths, or what else changes the sessions. -/
inductive UplinkOp
  | datagram (path : DataPath) (data : Bytes) (addr : SocketAddr) (now : UInt64)
  | create (sessionId : SessionId) (keys : SessionKeys) (addr : SocketAddr) (level : SecurityLevel) (now : UInt64)
  | manage (op : ManagerOp)
  | sync (sessionId : SessionId) (now : UInt64)
  | unsync (sessionId : SessionId)

def noteAccepted (history : SessionId → List Counter) : Option (SessionId × Counter) → SessionId → List Counter
  | none => history
  | some (sessionId, counter) => Function.update history sessionId (counter :: history sessionId)

namespace UplinkServer

def start (manager : SessionManager) : UplinkServer := ⟨manager, ∅, fun _ _ => []⟩

variable (S : ServerContext) (s : UplinkServer)

def acceptedOn (data : Bytes) : DataPath → Option (SessionId × Counter)
  | .udp _ => s.manager.acceptedData S.P.aes256Gcm data
  | .afXdp => s.afxdp.acceptedData S.P.aes256Gcm data

def receive (S : ServerContext) (s : UplinkServer) (path : DataPath) (data : Bytes) (addr : SocketAddr)
    (now : UInt64) : UplinkServer × Option Bytes :=
  let history := Function.update s.history path (noteAccepted (s.history path) (s.acceptedOn S data path))
  match path with
  | .udp p =>
    let (manager, action) := p.receive S now s.manager data addr
    ({ s with manager, history }, action.handed)
  | .afXdp =>
    let (afxdp, handed) := s.afxdp.receive S.P.aes256Gcm data maxPacketSize now
    ({ s with afxdp, history }, handed)

def keyIdOf (m : SessionManager) (sessionId : SessionId) : Option KeyId :=
  (m.sessions.lookup sessionId).map (·.session.keyId)

def step (picker : Picker Nat) (s : UplinkServer) : UplinkOp → UplinkServer
  | .datagram path data addr now => (s.receive S path data addr now).1
  | .create sessionId keys addr level now =>
    { s with
      manager := (s.manager.createSessionDualStackWithLevel picker picker (.new sessionId keys (millis now)) addr
        level now).1
      -- a session that is replaced leaves the AF_XDP table too
      afxdp := if (s.manager.sessions.lookup sessionId).isSome then s.afxdp.erase sessionId else s.afxdp
      history := fun path => Function.update (s.history path) sessionId [] }
  | .manage op =>
    let manager := s.manager.apply S op
    { s with
      manager
      afxdp := retain s.afxdp fun k _ =>
        (s.manager.sessions.lookup k).isNone || (manager.sessions.lookup k).isSome
      -- new keys start a new record
      history := fun path k =>
        if keyIdOf manager k = keyIdOf s.manager k then s.history path k else [] }
  | .sync sessionId now => { s with afxdp := (s.afxdp.syncSession s.manager sessionId now).1 }
  | .unsync sessionId => { s with afxdp := s.afxdp.erase sessionId }

end UplinkServer

/-! ### The UDP paths -/

namespace ClientSession

variable {c c' : ClientSession} {buf payload : Bytes} {addr : SocketAddr} {now : UInt64} {size : Nat}

variable {onMismatch : ClientSession → ClientSession}

theorem admitData_session (accrue : Accrual) (hmismatch : ∀ c : ClientSession, (onMismatch c).session = c.session) :
    (admitData accrue onMismatch addr now size c buf).1.session = c.session := by
  have hrate : (c.checkRateLimit accrue now buf.length).1.session = c.session := rfl
  unfold admitData
  split
  · rfl
  · split
    · rename_i h
      rw [h] at hrate
      exact hrate
    · rename_i h
      rw [h] at hrate
      split
      · exact (hmismatch _).trans hrate
      · exact hrate

theorem admitData_handed {accrue : Accrual} (h : admitData accrue onMismatch addr now size c buf = (c', some payload)) :
    payload = buf ∧ c.clientAddr = addr ∧
      c.rateLimiter.check accrue now (UInt64.ofNat buf.length) = (c'.rateLimiter, true) ∧
      (buf ≠ [] → c.validSrc buf = true) := by
  unfold admitData at h
  split at h
  · cases h
  · rename_i haddr
    split at h
    · cases h
    · rename_i c₁ hrate
      split at h
      · cases h
      · rename_i hsource
        cases h
        have hlimiter : (c.rateLimiter.check accrue now (UInt64.ofNat buf.length)).1 = c₁.rateLimiter :=
          congrArg (fun r => r.1.rateLimiter) hrate
        have hok : (c.rateLimiter.check accrue now (UInt64.ofNat buf.length)).2 = true :=
          congrArg Prod.snd hrate
        have hsame : c₁.validSrc buf = c.validSrc buf := congrArg (fun r => r.1.validSrc buf) hrate.symm
        refine ⟨rfl, not_not.mp haddr, Prod.ext hlimiter hok, ?_⟩
        intro hne
        rw [← hsame]
        by_contra hbad
        exact hsource ⟨List.length_pos_of_ne_nil hne, Bool.not_eq_true _ ▸ hbad⟩

end ClientSession

namespace UdpPath

variable {S : ServerContext} {now : UInt64} {c : ClientSession} {data : Bytes} {addr : SocketAddr}

/-- What a wrong inner source does to the session. -/
def onMismatch : UdpPath → ClientSession → ClientSession
  | recvmmsg => ClientSession.incrementSrcMismatch
  | _ => id

theorem onData_eq_admitData {p : UdpPath} (hp : p ≠ .nonLinux) : p.onData S now c data addr =
    c.onPacket S.P.aes256Gcm data maxPacketSize now
      (ClientSession.admitData S.accrue p.onMismatch addr now data.length) := by
  cases p with
  | recvmmsg => exact processPacketData_eq
  | ioUring => exact processDataPacketIoUring_eq
  | nonLinux => exact absurd rfl hp

theorem onData_cases (S : ServerContext) (now : UInt64) (p : UdpPath) (c : ClientSession) (data : Bytes)
    (addr : SocketAddr) :
    (¬c.session.Accepts S.P.aes256Gcm data maxPacketSize ∧ p.onData S now c data addr = (c, none)) ∨
      ∃ header payload, c.session.openPacket S.P.aes256Gcm data maxPacketSize = .ok (header, payload) ∧
        c.session.recvWindow.check header.counter = true ∧
        (p.onData S now c data addr).1.session = c.session.acceptPacket (millis now) header.counter data.length ∧
        ∀ c' handed, p.onData S now c data addr = (c', some handed) → handed = payload ∧ c.clientAddr = addr ∧
          (p ≠ .nonLinux →
            c.rateLimiter.check S.accrue now (UInt64.ofNat payload.length) = (c'.rateLimiter, true) ∧
            (payload ≠ [] → c.validSrc payload = true)) := by
  by_cases hp : p = .nonLinux
  · subst hp
    unfold onData
    dsimp only
    unfold ClientSession.handleDataPacket
    refine (c.onPacket_cases _ data _ now _).imp_right ?_
    rintro ⟨header, payload, hopen, hcheck, heq⟩
    rw [heq]
    refine ⟨header, payload, hopen, hcheck, ?_, ?_⟩
    · split
      all_goals rfl
    · intro c' handed h
      split at h
      · cases h
      · rename_i haddr
        cases h
        exact ⟨rfl, not_not.mp haddr, fun hne => absurd rfl hne⟩
  · have hmismatch : ∀ c : ClientSession, (p.onMismatch c).session = c.session := by
      intro c
      cases p with
      | _ => rfl
    rw [onData_eq_admitData hp]
    refine (c.onPacket_cases _ data _ now _).imp_right ?_
    rintro ⟨header, payload, hopen, hcheck, heq⟩
    rw [heq]
    refine ⟨header, payload, hopen, hcheck, admitData_session S.accrue hmismatch, ?_⟩
    intro c' handed h
    -- accepting the packet changes neither the address nor the limiter nor the tunnel addresses
    obtain ⟨hpayload, haddr, hrate, hsource⟩ := admitData_handed h
    exact ⟨hpayload, haddr, fun _ => ⟨hrate, hsource⟩⟩

theorem onData_movesOn (p : UdpPath) : Session.MovesOn c.session (p.onData S now c data addr).1.session := by
  rcases p.onData_cases S now c data addr with
    ⟨-, heq⟩ | ⟨header, payload, -, hcheck, hsession, -⟩
  · rw [heq]
    exact .refl c.session
  · rw [hsession]
    exact movesOn_accept hcheck (millis now) data.length

end UdpPath

theorem Session.openPacket_header {A : Aes256Gcm} {s : Session} {data : Bytes} {outputLen : Nat}
    {header opened : PacketHeader} {payload : Bytes} (hdecode : PacketHeader.decode data = .ok header)
    (hopen : s.openPacket A data outputLen = .ok (opened, payload)) : opened = header := by
  obtain ⟨hwf, -, -, ciphertext, rfl, -, -⟩ := openPacket_eq_ok.mp hopen
  rw [PacketHeader.decode_toBytes hwf] at hdecode
  exact Except.ok.inj hdecode

namespace SessionManager

variable {S : ServerContext} {m : SessionManager} {data : Bytes} {addr : SocketAddr}

theorem route_cases (onData : ClientSession → Bytes → SocketAddr → ClientSession × Option Bytes)
    (m : SessionManager) (data : Bytes) (addr : SocketAddr) :
    ((∀ header, PacketHeader.decode data = .ok header → header.msgType ≠ .data) ∧
        (m.route onData data addr).1 = m ∧ (m.route onData data addr).2.handed = none) ∨
      ∃ header, PacketHeader.decode data = .ok header ∧ header.msgType = .data ∧
        (m.route onData data addr).1 = (m.onSession header.sessionId (fun c => onData c data addr) none).1 ∧
        (m.route onData data addr).2.handed = (m.onSession header.sessionId (fun c => onData c data addr) none).2 := by
  unfold route
  split
  · rename_i hshort
    refine .inl ⟨fun header hdecode => ?_, rfl, rfl⟩
    exact absurd (PacketHeader.headerSize_le_of_decode hdecode) (not_le.mpr hshort)
  · split
    · rename_i hdecode
      refine .inl ⟨fun header hok => ?_, rfl, rfl⟩
      rw [hdecode] at hok
      cases hok
    · rename_i header hdecode
      cases htype : header.msgType with
      | data => exact .inr ⟨header, hdecode, htype, rfl, WorkerAction.handed_ofHanded _⟩
      | _ =>
        refine .inl ⟨fun header' hok => ?_, rfl, rfl⟩
        cases hdecode.symm.trans hok
        rw [htype]
        exact nofun

variable {A : Aes256Gcm}

theorem acceptedData_of_not_data (h : ∀ header, PacketHeader.decode data = .ok header → header.msgType ≠ .data) :
    m.acceptedData A data = none := by
  unfold acceptedData
  split
  · rfl
  · rename_i header hdecode
    exact if_neg (h header hdecode)

variable {header : PacketHeader}

theorem acceptedData_of_data (hdecode : PacketHeader.decode data = .ok header) (htype : header.msgType = .data) :
    m.acceptedData A data = (m.sessions.lookup header.sessionId).bind fun c =>
      match c.session.openPacket A data maxPacketSize with
      | .error _ => none
      | .ok _ =>
        if c.session.recvWindow.check header.counter then some (header.sessionId, header.counter)
        else none := by
  rw [acceptedData, hdecode]
  exact if_pos htype

theorem acceptedData_session {accepted : SessionId × Counter}
    (hdecode : PacketHeader.decode data = .ok header) (h : accepted ∈ m.acceptedData A data) :
    accepted.1 = header.sessionId := by
  rw [acceptedData, hdecode] at h
  dsimp only at h
  split at h
  · obtain ⟨c, -, h⟩ := Option.bind_eq_some_iff.mp h
    split at h
    · cases h
    · split at h
      · cases h
        rfl
      · cases h
  · cases h

theorem acceptedData_eq_none {c : ClientSession}
    (hdecode : PacketHeader.decode data = .ok header) (htype : header.msgType = .data)
    (hc : m.sessions.lookup header.sessionId = some c) (hno : ¬c.session.Accepts A data maxPacketSize) :
    m.acceptedData A data = none := by
  rw [acceptedData_of_data hdecode htype, hc, Option.bind_some]
  split
  · rfl
  · rename_i opened hopen
    refine if_neg fun hcheck => hno ⟨opened.1, opened.2, hopen, ?_⟩
    rw [openPacket_header hdecode hopen]
    exact hcheck

end SessionManager

namespace UplinkServer

structure Sound (s : UplinkServer) : Prop where
  sessionId_eq : ∀ k c, s.manager.sessions.lookup k = some c → c.session.sessionId = k
  knows : ∀ k c, s.manager.sessions.lookup k = some c → ∀ p, c.session.Knows (s.history (.udp p) k)

theorem sound_start {m : SessionManager} (h : m.sessions = ∅) : (start m).Sound where
  sessionId_eq k c hc := by
    rw [start, h] at hc
    cases hc
  knows k c hc := by
    rw [start, h] at hc
    cases hc

variable {S : ServerContext} {picker : Picker Nat} {s : UplinkServer}

theorem Sound.create (hs : s.Sound) (sessionId : SessionId) (keys : SessionKeys) (addr : SocketAddr)
    (level : SecurityLevel) (now : UInt64) : (s.step S picker (.create sessionId keys addr level now)).Sound := by
  have hentry : ∀ k c, (s.step S picker (.create sessionId keys addr level now)).manager.sessions.lookup k =
      some c → (k = sessionId ∧ c.session = .new sessionId keys (millis now)) ∨
        (k ≠ sessionId ∧ s.manager.sessions.lookup k = some c) := by
    intro k c hc
    rcases s.manager.createSession_cases picker picker (.new sessionId keys (millis now)) addr level now with
      ⟨e, -, hlookup⟩ | ⟨ip, ipv6, -, hlookup⟩
    all_goals
      have hck := (hlookup k).symm.trans hc
      split at hck
      case isFalse hne => exact .inr ⟨hne, hck⟩
    · cases hck
    · rename_i heq
      cases hck
      exact .inl ⟨heq, rfl⟩
  refine ⟨?_, ?_⟩
  · intro k c hc
    rcases hentry k c hc with ⟨rfl, hnew⟩ | ⟨-, hold⟩
    · rw [hnew]
      rfl
    · exact hs.sessionId_eq k c hold
  · intro k c hc p
    show c.session.Knows (Function.update (s.history (.udp p)) sessionId [] k)
    rcases hentry k c hc with ⟨rfl, hnew⟩ | ⟨hne, hold⟩
    · rw [Function.update_self, hnew]
      exact knows_new _ _ _
    · rw [Function.update_of_ne hne]
      exact hs.knows k c hold p

theorem Sound.manage (hs : s.Sound) (op : ManagerOp) : (s.step S picker (.manage op)).Sound := by
  have hadvances := apply_advances (S := S) (m := s.manager) op
  refine ⟨?_, ?_⟩
  · intro k c' hc'
    obtain ⟨c, hc, hstep⟩ := hadvances k c' hc'
    exact hstep.sessionId_eq.trans (hs.sessionId_eq k c hc)
  · intro k c' hc' p
    obtain ⟨c, hc, hstep⟩ := hadvances k c' hc'
    have hbefore : keyIdOf s.manager k = some c.session.keyId := congrArg (Option.map _) hc
    have hafter : keyIdOf (s.manager.apply S op) k = some c'.session.keyId := congrArg (Option.map _) hc'
    show c'.session.Knows (if keyIdOf (s.manager.apply S op) k = keyIdOf s.manager k then _ else [])
    rw [hbefore, hafter]
    rcases hstep with hmoves | hrenewed
    · rw [if_pos (congrArg some hmoves.keyId_eq)]
      exact hmoves.knows _ (hs.knows k c hc p)
    · rw [if_neg fun heq => hrenewed.keyId_ne (Option.some.inj heq)]
      exact hrenewed.knows

theorem receive_history (path : DataPath) (data : Bytes) (addr : SocketAddr) (now : UInt64) :
    (s.receive S path data addr now).1.history =
      Function.update s.history path (noteAccepted (s.history path) (s.acceptedOn S data path)) := by
  cases path <;> rfl

theorem noteAccepted_of_ne {history : SessionId → List Counter} {accepted : Option (SessionId × Counter)}
    {k : SessionId} (h : ∀ a ∈ accepted, a.1 ≠ k) : noteAccepted history accepted k = history k := by
  cases accepted with
  | none => rfl
  | some a => exact Function.update_of_ne (h a rfl).symm _ _

theorem knows_noted {p : UdpPath} {data : Bytes} {addr : SocketAddr} {now : UInt64} {header : PacketHeader}
    {c : ClientSession} (hdecode : PacketHeader.decode data = .ok header) (htype : header.msgType = .data)
    (hc : s.manager.sessions.lookup header.sessionId = some c) {history : SessionId → List Counter}
    (hknows : c.session.Knows (history header.sessionId)) :
    (p.onData S now c data addr).1.session.Knows
      (noteAccepted history (s.manager.acceptedData S.P.aes256Gcm data) header.sessionId) := by
  rcases p.onData_cases S now c data addr with
    ⟨hno, heq⟩ | ⟨opened, payload, hopen, hcheck, hsession, -⟩
  · rw [heq, acceptedData_eq_none hdecode htype hc hno]
    exact hknows
  · obtain rfl := openPacket_header hdecode hopen
    rw [hsession, acceptedData_of_data hdecode htype, hc, Option.bind_some, hopen]
    dsimp only
    rw [if_pos hcheck, noteAccepted, Function.update_self]
    exact (hknows.accept hcheck (millis now) data.length).2

theorem Sound.udp (hs : s.Sound) (p : UdpPath) (data : Bytes) (addr : SocketAddr) (now : UInt64) :
    (s.receive S (.udp p) data addr now).1.Sound := by
  rcases s.manager.route_cases (p.onData S now) data addr with
    ⟨hnot, hmanager, -⟩ | ⟨header, hdecode, htype, hmanager, -⟩
  all_goals rw [← p.receive_eq_route] at hmanager
  · have hsame : (s.receive S (.udp p) data addr now).1 = s := by
      unfold receive acceptedOn
      dsimp only
      rw [hmanager, acceptedData_of_not_data hnot, noteAccepted, Function.update_eq_self]
    rw [hsame]
    exact hs
  · have hlookup : ∀ k, (s.receive S (.udp p) data addr now).1.manager.sessions.lookup k =
        if k = header.sessionId then
          (s.manager.sessions.lookup header.sessionId).map fun c => (p.onData S now c data addr).1
        else s.manager.sessions.lookup k := by
      intro k
      exact (congrArg (fun m => m.sessions.lookup k) hmanager).trans lookup_onSession
    have hhistory : ∀ q k, k ≠ header.sessionId →
        (s.receive S (.udp p) data addr now).1.history q k = s.history q k := by
      intro q k hk
      rw [receive_history]
      by_cases hq : q = .udp p
      · subst hq
        rw [Function.update_self]
        refine noteAccepted_of_ne ?_
        intro accepted haccepted
        rw [acceptedData_session hdecode haccepted]
        exact hk.symm
      · rw [Function.update_of_ne hq]
    have hentry : ∀ k c', (s.receive S (.udp p) data addr now).1.manager.sessions.lookup k = some c' →
        (k ≠ header.sessionId ∧ s.manager.sessions.lookup k = some c') ∨
          (k = header.sessionId ∧ ∃ c, s.manager.sessions.lookup header.sessionId = some c ∧
            c' = (p.onData S now c data addr).1) := by
      intro k c' hc'
      rw [hlookup] at hc'
      split at hc'
      · rename_i hk
        obtain ⟨c, hc, rfl⟩ := Option.map_eq_some_iff.mp hc'
        exact .inr ⟨hk, c, hc, rfl⟩
      · rename_i hk
        exact .inl ⟨hk, hc'⟩
    refine ⟨?_, ?_⟩
    · intro k c' hc'
      rcases hentry k c' hc' with ⟨-, hold⟩ | ⟨rfl, c, hc, rfl⟩
      · exact hs.sessionId_eq k c' hold
      · exact (UdpPath.onData_movesOn p).sessionId_eq.trans (hs.sessionId_eq _ c hc)
    · intro k c' hc' q
      rcases hentry k c' hc' with ⟨hk, hold⟩ | ⟨rfl, c, hc, rfl⟩
      · rw [hhistory _ k hk]
        exact hs.knows k c' hold q
      · rw [receive_history]
        by_cases hq : q = p
        · subst hq
          rw [Function.update_self]
          exact knows_noted hdecode htype hc (hs.knows _ c hc q)
        · rw [Function.update_of_ne fun h => hq (DataPath.udp.inj h)]
          exact (UdpPath.onData_movesOn p).knows _ (hs.knows _ c hc q)

/-! ### Admission -/

end UplinkServer

namespace UplinkSample
open ForeignSample UplinkServer

def pool : SessionManager := .new (ipv4 10 0 0 0) 24 (ipv4 10 0 0 1) 60000 10

def opened : List UplinkOp := [.create 42 clientKeys.swap home .level3 0, .sync 42 0]

def run (ops : List UplinkOp) : UplinkServer := Runs.exec (step context Picker.least) (start pool) ops

end UplinkSample

namespace UplinkServer

end UplinkServer

end HpnVpn
