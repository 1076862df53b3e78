import HpnVpn.AfXdp
import HpnVpn.ControlPath
import HpnVpn.ReceiveEpochs
import HpnVpn.RekeySync

/-! Control messages on the AF_XDP path.  The control task brings the workers' key table up to date after handshakes
and rekeys; a callback of the session manager drops from it what the manager removes or replaces. -/
namespace HpnVpn
open Wire Tables Runs SessionManager

/-! ### Handlers -/

def IpAddr.isUnspecified : IpAddr → Bool
  | .v4 octets => octets = Block.replicate 4 0
  | .v6 octets => octets = Block.replicate 16 0

/-- Frames from the worker may come without the peer's address. -/
def isValidAfxdpPeerAddr (addr : SocketAddr) : Bool := !addr.ip.isUnspecified && addr.port != 0

namespace ClientSession

variable (S : ServerContext) (c : ClientSession)

/-- An address that says nothing is taken for the session's own. -/
def peerAddr (addr : SocketAddr) : SocketAddr :=
  if isValidAfxdpPeerAddr addr then addr else c.clientAddr

def handleKeepaliveAfxdp (data : Bytes) (addr : SocketAddr) (o : Occasion) :
    ClientSession × Option OutboundResponse :=
  c.handleKeepalive S data (c.peerAddr addr) o

/-- The rekey is reported as successful only if the response is queued. -/
def handleRekeyAfxdp (data : Bytes) (addr : SocketAddr) (o : Occasion) :
    ClientSession × Option OutboundResponse :=
  c.handleRekeyMessage S data (c.peerAddr addr) o

/-- Unlike on the other paths a control message does not renew the activity time. -/
def receiveControlAfxdp (data : Bytes) (o : Occasion) :
    ClientSession × Option ControlType :=
  c.onPacket S.P.aes256Gcm data data.length o.now fun c payload =>
    (c, (ControlMessage.fromBytes payload).toOption.map ControlMessage.controlType)

end ClientSession

inductive AfXdpControl
  | handshakeInit (data : Bytes) (addr : SocketAddr)
  | keepalive (sessionId : SessionId) (data : Bytes) (addr : SocketAddr)
  | rekey (sessionId : SessionId) (data : Bytes) (addr : SocketAddr)
  | control (sessionId : SessionId) (data : Bytes) (addr : SocketAddr)
deriving DecidableEq

/-- The callback that `run_afxdp` gives the session manager. -/
def AfXdpTable.onLifecycle (t : AfXdpTable) : SessionLifecycleEvent → AfXdpTable
  | .created _ => t
  | .removed sessionId => t.erase sessionId

def AfXdpTable.notify (t : AfXdpTable) (events : List SessionLifecycleEvent) : AfXdpTable :=
  events.foldl onLifecycle t

/-- The events of answering an init: those of the creation, and a removal if the new session is taken back. -/
def SessionManager.establishEvents (S : InitContext) (m : SessionManager) (init : HandshakeInit) (addr : SocketAddr)
    (o : InitOccasion) : List SessionLifecycleEvent :=
  match m.answer S init o with
  | .error _ => []
  | .ok (_, serverKeys) =>
    let session := Session.new o.sessionId serverKeys (millis o.now)
    let (created, _) :=
      m.createSessionDualStackWithLevel o.picker o.pickerV6 session addr init.securityLevel o.now
    m.createEvents o.picker o.pickerV6 session addr init.securityLevel o.now ++
      if ((m.establish S init addr o).1.sessions.lookup o.sessionId).isSome then []
      else created.removeEvents o.sessionId

structure AfXdpServer (S : InitContext) extends VpnServer S where
  rateLimiter : HandshakeRateLimiter
  table : AfXdpTable

namespace AfXdpServer
variable {S : InitContext}

/-- The session, if its whole response is queued; otherwise it is removed again. -/
def established (sessions : SessionManager) (responses : List OutboundResponse) (sessionId : SessionId) :
    Option SessionId :=
  if responses ≠ [] ∧ (sessions.sessions.lookup sessionId).isSome then some sessionId else none

/-- The frame is taken for an init in the clear; what its header says is not looked at. -/
def handleHandshakeInitAfxdp (s : AfXdpServer S) (data : Bytes) (addr : SocketAddr) (o : InitOccasion) :
    AfXdpServer S × Option SessionId × List OutboundResponse :=
  let (rateLimiter, allowed) := s.rateLimiter.allow addr.ip o.instant
  let s := { s with rateLimiter }
  if allowed = false then (s, none, [])
  else
    let payload := if headerSize < data.length then data.drop headerSize else data
    match HandshakeInit.fromBytes payload with
    | .error _ => (s, none, [])
    | .ok init =>
      if S.securityLevelAccepted init.securityLevel = false then (s, none, [])
      else
        let (handshakeReplay, fresh) := s.handshakeReplay.checkAndInsert init.clientRandom o.instant
        let s := { s with handshakeReplay }
        if fresh = false then (s, none, [])
        else
          let (userStore, accepted) := S.checkCredentials s.userStore init addr o.instant
          let s := { s with userStore }
          if accepted = false then (s, none, [])
          else
            let (sessions, responses) := s.sessions.establish S init addr o
            let table := s.table.notify (s.sessions.establishEvents S init addr o)
            ({ s with sessions, table }, established sessions responses o.sessionId, responses)

def removeSession (s : AfXdpServer S) (sessionId : SessionId) : AfXdpServer S :=
  { s with
    sessions := (s.sessions.removeSession sessionId).1
    table := s.table.notify (s.sessions.removeEvents sessionId) }

def handleControlAfxdp (s : AfXdpServer S) (sessionId : SessionId) (data : Bytes) (addr : SocketAddr) (o : Occasion) :
    AfXdpServer S × Option SessionId × Option OutboundResponse :=
  let (sessions, request) :=
    s.sessions.onSession sessionId (fun c => c.receiveControlAfxdp S.toServerContext data o) none
  match request with
  | some .close => ({ s with sessions }.removeSession sessionId, some sessionId, none)
  | some .rebind =>
    let sessions := if isValidAfxdpPeerAddr addr then sessions.updateClientAddr sessionId addr else sessions
    let (sessions, response) :=
      sessions.onSession sessionId (fun c => c.sendRebindAck S.toServerContext sessionId o) none
    ({ s with sessions }, none, response)
  | _ => ({ s with sessions }, none, none)

/-- What a control message draws and meets; the two occasions are those of a handshake and of the others. -/
structure ControlOccasion where
  init : InitOccasion
  session : Occasion

def handleAfxdpControl (s : AfXdpServer S) (ctrl : AfXdpControl) (o : ControlOccasion) : AfXdpServer S :=
  match ctrl with
  | .handshakeInit data addr =>
    match s.handleHandshakeInitAfxdp data addr o.init with
    | (s, none, _) => s
    | (s, some sessionId, _) => { s with table := (s.table.syncSession s.sessions sessionId o.init.now).1 }
  | .keepalive sessionId data addr =>
    let (sessions, _) :=
      s.sessions.onSession sessionId (fun c => c.handleKeepaliveAfxdp S.toServerContext data addr o.session) none
    { s with sessions }
  | .rekey sessionId data addr =>
    match s.sessions.onSession sessionId (fun c => c.handleRekeyAfxdp S.toServerContext data addr o.session) none with
    | (sessions, none) => { s with sessions }
    | (sessions, some _) =>
      { s with sessions, table := (s.table.syncSession sessions sessionId o.session.now).1 }
  | .control sessionId data addr =>
    match s.handleControlAfxdp sessionId data addr o.session with
    | (s, none, _) => s
    | (s, some removed, _) => { s with table := s.table.erase removed }

end AfXdpServer

/-! ### Who keeps and who changes the keys -/

structure Session.SameKeys (s s' : Session) : Prop where
  keyId_eq : s'.keyId = s.keyId
  keys_eq : s'.keys = s.keys

namespace Session
variable {s s' s'' : Session}

theorem SameKeys.refl (s : Session) : SameKeys s s := ⟨rfl, rfl⟩

theorem SameKeys.trans (h : SameKeys s s') (h' : SameKeys s' s'') : SameKeys s s'' :=
  ⟨h'.keyId_eq.trans h.keyId_eq, h'.keys_eq.trans h.keys_eq⟩

theorem SentFrom.sameKeys (h : SentFrom s s') : SameKeys s s' := ⟨h.keyId_eq, h.keys_eq⟩

end Session

namespace ClientSession
variable {S : ServerContext} {c : ClientSession} {data : Bytes} {addr : SocketAddr} {o : Occasion}

theorem sendMessage_sameKeys (A : Aes256Gcm) (msgType : MessageType) (payload : Bytes) (room : Bool) :
    Session.SameKeys c.session (c.sendMessage A msgType payload room).1.session := by
  unfold sendMessage
  split
  all_goals
    rename_i hsent
    exact (Session.encryptPacket_sent hsent).1.sameKeys

theorem onPacket_sameKeys {β : Type} {A : Aes256Gcm} {outputLen : Nat} {now : UInt64}
    {next : ClientSession → Bytes → ClientSession × Option β}
    (hnext : ∀ c payload, Session.SameKeys c.session (next c payload).1.session) :
    Session.SameKeys c.session (c.onPacket A data outputLen now next).1.session := by
  rcases c.onPacket_cases A data outputLen now next with ⟨-, heq⟩ | ⟨header, payload, -, -, heq⟩
  · rw [heq]
    exact .refl c.session
  · rw [heq]
    have haccept : Session.SameKeys c.session (c.accepted now header.counter data.length).session := ⟨rfl, rfl⟩
    exact haccept.trans (hnext (c.accepted now header.counter data.length) payload)

theorem handleKeepaliveAfxdp_sameKeys :
    Session.SameKeys c.session (c.handleKeepaliveAfxdp S data addr o).1.session := by
  apply onPacket_sameKeys
  intro c' payload
  unfold answerKeepalive
  split
  · exact .refl c'.session
  · split
    · exact .refl c'.session
    · exact sendMessage_sameKeys (c := c'.touch o.now) _ _ _ _

theorem receiveControlAfxdp_sameKeys : Session.SameKeys c.session (c.receiveControlAfxdp S data o).1.session :=
  onPacket_sameKeys fun c _ => .refl c.session

/-- The request parses, comes from the session's peer, asks for its level, and the server derives keys and seals the
response. -/
def GrantsRekey (S : ServerContext) (c : ClientSession) (payload : Bytes) (addr : SocketAddr) (o : Occasion) : Prop :=
  ∃ rekey response newKeys, RekeyMessage.fromBytes payload = .ok rekey ∧ c.clientAddr = addr ∧
    rekey.clientEphemeralPk.securityLevel = c.securityLevel ∧
    (ServerHandshake.mk (S.keypairFor rekey.clientEphemeralPk.securityLevel) none).processRekey S.P rekey
      c.session.keyId c.session.sessionId o.draws = .ok (response, newKeys) ∧
    (c.session.encryptPacket S.P.aes256Gcm .rekeyResponse response.toBytes
      (headerSize + response.toBytes.length + tagSize + 32)).2.2.isOk = true

theorem answerRekey_cases (payload : Bytes) :
    let r := c.answerRekey S.P S.keypairFor payload addr o.draws o.now o.queueHasRoom
    (c.GrantsRekey S payload addr o ∧ r.1.session.keyId ≠ c.session.keyId ∧ r.2.isSome = o.queueHasRoom) ∨
      (¬c.GrantsRekey S payload addr o ∧ Session.SameKeys c.session r.1.session ∧ r.2 = none) := by
  unfold answerRekey
  cases hparse : RekeyMessage.fromBytes payload with
  | error e =>
    refine .inr ⟨?_, .refl c.session, rfl⟩
    rintro ⟨rekey, response, newKeys, hrekey, -⟩
    cases hparse.symm.trans hrekey
  | ok rekey =>
    -- Whatever is granted is granted for this request.
    have hthis : ∀ rekey', RekeyMessage.fromBytes payload = .ok rekey' → rekey' = rekey :=
      fun rekey' h => Except.ok.inj (h.symm.trans hparse)
    dsimp only
    split
    · rename_i haddr
      refine .inr ⟨?_, .refl c.session, rfl⟩
      rintro ⟨rekey', response, newKeys, -, hpeer, -⟩
      exact haddr hpeer
    split
    · rename_i hlevel
      refine .inr ⟨?_, .refl c.session, rfl⟩
      rintro ⟨rekey', response, newKeys, hrekey', -, hsame, -⟩
      exact hlevel (hthis rekey' hrekey' ▸ hsame)
    rename_i haddr hlevel
    cases hprocess : (ServerHandshake.mk (S.keypairFor rekey.clientEphemeralPk.securityLevel) none).processRekey S.P
        rekey c.session.keyId c.session.sessionId o.draws with
    | error e =>
      refine .inr ⟨?_, .refl c.session, rfl⟩
      rintro ⟨rekey', response, newKeys, hrekey', -, -, hok, -⟩
      obtain rfl := hthis rekey' hrekey'
      cases hprocess.symm.trans hok
    | ok answer =>
      obtain ⟨response, newKeys⟩ := answer
      dsimp only
      cases hsent : c.session.encryptPacket S.P.aes256Gcm .rekeyResponse response.toBytes
          (headerSize + response.toBytes.length + tagSize + 32) with
      | mk session rest =>
        obtain ⟨calls, result⟩ := rest
        have hsame := (Session.encryptPacket_sent hsent).1.sameKeys
        cases result with
        | error e =>
          refine .inr ⟨?_, hsame, rfl⟩
          rintro ⟨rekey', response', newKeys', hrekey', -, -, hok, hencrypt⟩
          obtain rfl := hthis rekey' hrekey'
          cases hprocess.symm.trans hok
          rw [hsent] at hencrypt
          cases hencrypt
        | ok packet =>
          refine .inl ⟨⟨rekey, response, newKeys, hparse, not_not.mp haddr, not_not.mp hlevel, hprocess, ?_⟩, ?_, ?_⟩
          · rw [hsent]
            rfl
          · show session.keyId + 1 ≠ c.session.keyId
            rw [hsame.keyId_eq]
            simp
          · dsimp only
            split
            · rename_i hroom
              exact hroom.symm
            · rename_i hroom
              exact (Bool.eq_false_of_not_eq_true hroom).symm

def TakesRekey (S : ServerContext) (c : ClientSession) (data : Bytes) (addr : SocketAddr) (o : Occasion) : Prop :=
  ∃ header payload, c.session.openPacket S.P.aes256Gcm data data.length = .ok (header, payload) ∧
    c.session.recvWindow.check header.counter = true ∧
    (c.accepted o.now header.counter data.length).GrantsRekey S payload (c.peerAddr addr) o

theorem handleRekeyAfxdp_cases :
    (c.TakesRekey S data addr o ∧ (c.handleRekeyAfxdp S data addr o).1.session.keyId ≠ c.session.keyId ∧
        (c.handleRekeyAfxdp S data addr o).2.isSome = o.queueHasRoom) ∨
      (¬c.TakesRekey S data addr o ∧ Session.SameKeys c.session (c.handleRekeyAfxdp S data addr o).1.session ∧
        (c.handleRekeyAfxdp S data addr o).2 = none) := by
  have hfst : (c.handleRekeyAfxdp S data addr o).1 = (c.onPacket S.P.aes256Gcm data data.length o.now fun c' payload =>
      c'.answerRekey S.P S.keypairFor payload (c.peerAddr addr) o.draws o.now o.queueHasRoom).1 := rfl
  have hsnd : (c.handleRekeyAfxdp S data addr o).2 = ((c.onPacket S.P.aes256Gcm data data.length o.now fun c' payload =>
      c'.answerRekey S.P S.keypairFor payload (c.peerAddr addr) o.draws o.now o.queueHasRoom).2).map fun packet =>
        ⟨(c.handleRekeyAfxdp S data addr o).1.clientAddr, packet⟩ := rfl
  rw [hsnd, hfst]
  rcases c.onPacket_cases S.P.aes256Gcm data data.length o.now fun c' payload =>
      c'.answerRekey S.P S.keypairFor payload (c.peerAddr addr) o.draws o.now o.queueHasRoom with
    ⟨hno, heq⟩ | ⟨header, payload, hopen, hcheck, heq⟩
  · rw [heq]
    refine .inr ⟨?_, .refl c.session, rfl⟩
    rintro ⟨header, payload, hopen, hcheck, -⟩
    exact hno ⟨header, payload, hopen, hcheck⟩
  · rw [heq]
    have haccept : Session.SameKeys c.session (c.accepted o.now header.counter data.length).session := ⟨rfl, rfl⟩
    obtain ⟨hgrants, hkeyId, hroom⟩ | ⟨hrefuses, hsame, hnone⟩ :=
      @answerRekey_cases S (c.accepted o.now header.counter data.length) (c.peerAddr addr) o payload
    · refine .inl ⟨⟨header, payload, hopen, hcheck, hgrants⟩, hkeyId, ?_⟩
      rw [Option.isSome_map]
      exact hroom
    · refine .inr ⟨?_, haccept.trans hsame, ?_⟩
      · rintro ⟨header', payload', hopen', -, hgrants⟩
        cases hopen.symm.trans hopen'
        exact hrefuses hgrants
      · rw [hnone]
        rfl

end ClientSession

/-! ### The table follows the manager -/

structure SessionCrypto.Copies (x : SessionCrypto) (c : ClientSession) : Prop where
  keyId_eq : x.keyId = c.session.keyId
  txKey_eq : x.txKey.key = c.session.keys.sendKey
  rxKey_eq : x.rxKey.key = c.session.keys.recvKey

theorem SessionCrypto.Copies.of_sameKeys {x : SessionCrypto} {c c' : ClientSession} (h : x.Copies c)
    (hsame : Session.SameKeys c.session c'.session) : x.Copies c' where
  keyId_eq := h.keyId_eq.trans hsame.keyId_eq.symm
  txKey_eq := by rw [hsame.keys_eq, h.txKey_eq]
  rxKey_eq := by rw [hsame.keys_eq, h.rxKey_eq]

namespace AfXdpTable
variable {t : AfXdpTable} {m m' : SessionManager} {sessionId : SessionId}

/-- Every entry is a copy of the session the manager has under that id. -/
def Follows (t : AfXdpTable) (m : SessionManager) : Prop :=
  ∀ k x, t.lookup k = some x → ∃ c, m.sessions.lookup k = some c ∧ x.Copies c

def FollowsBut (t : AfXdpTable) (m : SessionManager) (sessionId : SessionId) : Prop :=
  ∀ k x, k ≠ sessionId → t.lookup k = some x → ∃ c, m.sessions.lookup k = some c ∧ x.Copies c

theorem Follows.but (h : t.Follows m) (hm : ∀ k, k ≠ sessionId → m'.sessions.lookup k = m.sessions.lookup k) :
    t.FollowsBut m' sessionId := by
  intro k x hk hx
  rw [hm k hk]
  exact h k x hx

theorem FollowsBut.follows (h : t.FollowsBut m sessionId)
    (hself : ∀ x, t.lookup sessionId = some x → ∃ c, m.sessions.lookup sessionId = some c ∧ x.Copies c) :
    t.Follows m := by
  intro k x hx
  by_cases hk : k = sessionId
  · subst hk
    exact hself x hx
  · exact h k x hk hx

theorem FollowsBut.syncSession (h : t.FollowsBut m sessionId) {c : ClientSession}
    (hc : m.sessions.lookup sessionId = some c) (now : UInt64) :
    Follows (t.syncSession m sessionId now).1 m := by
  intro k x hx
  by_cases hk : k = sessionId
  · subst hk
    rw [lookup_syncSession hc] at hx
    cases hx
    exact ⟨c, hc, rfl, rfl, rfl⟩
  · refine h k x hk ?_
    rw [AfXdpTable.syncSession, hc] at hx
    exact (AList.lookup_insert_ne hk).symm.trans hx

theorem FollowsBut.erase (h : t.FollowsBut m sessionId) : Follows (t.erase sessionId) m := by
  intro k x hx
  have hk : k ≠ sessionId := by
    rintro rfl
    rw [AList.lookup_erase] at hx
    cases hx
  exact h k x hk ((AList.lookup_erase_ne hk).symm.trans hx)

theorem Follows.onSession (h : t.Follows m) {β : Type} {f : ClientSession → ClientSession × β} {absent : β}
    (hf : ∀ c : ClientSession, Session.SameKeys c.session (f c).1.session) :
    t.Follows (m.onSession sessionId f absent).1 := by
  intro k x hx
  obtain ⟨c, hc, hcopies⟩ := h k x hx
  rw [lookup_onSession]
  split
  · rename_i hk
    subst hk
    rw [hc]
    exact ⟨(f c).1, rfl, hcopies.of_sameKeys (hf c)⟩
  · exact ⟨c, hc, hcopies⟩

theorem lookup_notify (t : AfXdpTable) (events : List SessionLifecycleEvent) (k : SessionId) :
    (t.notify events).lookup k = if .removed k ∈ events then none else t.lookup k := by
  induction events generalizing t with
  | nil => rfl
  | cons event events ih =>
    show ((t.onLifecycle event).notify events).lookup k = _
    rw [ih]
    cases event with
    | created sessionId => simp [onLifecycle]
    | removed sessionId =>
      by_cases hk : k = sessionId
      · subst hk
        simp [onLifecycle]
      · simp [onLifecycle, hk, AList.lookup_erase_ne hk]

end AfXdpTable

namespace SessionManager
variable {S : InitContext} {m : SessionManager} {init : HandshakeInit} {addr : SocketAddr} {o : InitOccasion}
  {k sessionId : SessionId}

theorem mem_removeEvents : .removed k ∈ m.removeEvents sessionId ↔
    k = sessionId ∧ (m.sessions.lookup sessionId).isSome := by
  unfold removeEvents
  cases m.sessions.lookup sessionId with
  | none => simp
  | some c => simp

theorem eq_of_removed_mem (h : .removed k ∈ m.establishEvents S init addr o) : k = o.sessionId := by
  unfold establishEvents at h
  split at h
  · cases h
  · rcases List.mem_append.mp h with hcreated | hback
    · rcases List.mem_append.mp hcreated with hreplaced | hnew
      · exact (mem_removeEvents.mp hreplaced).1
      · split at hnew
        all_goals simp at hnew
    · split at hback
      · cases hback
      · exact (mem_removeEvents.mp hback).1

/-- An init that is answered replaces what the table has under the id. -/
theorem removed_mem_establishEvents (hanswers : S.Answers init o)
    (hold : (m.sessions.lookup o.sessionId).isSome) : .removed o.sessionId ∈ m.establishEvents S init addr o := by
  obtain ⟨response, keys, hok⟩ := answer_isOk.mpr hanswers
  unfold establishEvents
  rw [hok]
  exact List.mem_append_left _ (List.mem_append_left _ (mem_removeEvents.mpr ⟨rfl, hold⟩))

end SessionManager

namespace AfXdpServer
variable {S : InitContext} {s : AfXdpServer S}

def Follows (s : AfXdpServer S) : Prop := s.table.Follows s.sessions

/-- If a request to rekey a session of the table is granted, the queue takes the response. -/
def Delivers (s : AfXdpServer S) (e : AfXdpControl × ControlOccasion) : Prop :=
  match e.1 with
  | .rekey sessionId data addr =>
    ∀ c, s.sessions.sessions.lookup sessionId = some c → (s.table.lookup sessionId).isSome →
      c.TakesRekey S.toServerContext data addr e.2.session → e.2.session.queueHasRoom = true
  | _ => True

def step (s : AfXdpServer S) (e : AfXdpControl × ControlOccasion) : AfXdpServer S := s.handleAfxdpControl e.1 e.2

/-- What is under the id of a handshake stays only if nothing is done, or if there is nothing to follow. -/
theorem handleHandshakeInitAfxdp_spec (s : AfXdpServer S) (data : Bytes) (addr : SocketAddr) (o : InitOccasion) :
    let r := s.handleHandshakeInitAfxdp data addr o
    (∀ k, k ≠ o.sessionId → r.1.table.lookup k = s.table.lookup k ∧
        r.1.sessions.sessions.lookup k = s.sessions.sessions.lookup k) ∧
      (∀ x, r.1.table.lookup o.sessionId = some x → s.table.lookup o.sessionId = some x ∧
        (r.1.sessions = s.sessions ∨ s.sessions.sessions.lookup o.sessionId = none)) ∧
      ∀ sessionId, r.2.1 = some sessionId →
        sessionId = o.sessionId ∧ (r.1.sessions.sessions.lookup sessionId).isSome := by
  unfold handleHandshakeInitAfxdp
  dsimp only
  split
  · exact ⟨fun _ _ => ⟨rfl, rfl⟩, fun x hx => ⟨hx, .inl rfl⟩, nofun⟩
  split
  · exact ⟨fun _ _ => ⟨rfl, rfl⟩, fun x hx => ⟨hx, .inl rfl⟩, nofun⟩
  split
  · exact ⟨fun _ _ => ⟨rfl, rfl⟩, fun x hx => ⟨hx, .inl rfl⟩, nofun⟩
  split
  · exact ⟨fun _ _ => ⟨rfl, rfl⟩, fun x hx => ⟨hx, .inl rfl⟩, nofun⟩
  split
  · exact ⟨fun _ _ => ⟨rfl, rfl⟩, fun x hx => ⟨hx, .inl rfl⟩, nofun⟩
  rename_i init _ _ _ _
  refine ⟨?_, ?_, ?_⟩
  · intro k hk
    refine ⟨?_, lookup_establish_of_ne hk⟩
    rw [AfXdpTable.lookup_notify, if_neg fun h => hk (eq_of_removed_mem h)]
  · intro x hx
    rw [AfXdpTable.lookup_notify, Option.ite_none_left_eq_some] at hx
    refine ⟨hx.2, ?_⟩
    by_cases hanswers : S.Answers init o
    · right
      by_contra hold
      exact hx.1 (removed_mem_establishEvents hanswers (Option.isSome_iff_ne_none.mpr hold))
    · rw [establish_of_not_answers hanswers]
      exact .inl rfl
  · intro sessionId hsome
    obtain ⟨⟨-, hlookup⟩, heq⟩ := Option.ite_none_right_eq_some.mp hsome
    cases heq
    exact ⟨rfl, hlookup⟩

theorem follows_handshakeInit (h : s.Follows) (data : Bytes) (addr : SocketAddr) (o : ControlOccasion) :
    (s.handleAfxdpControl (.handshakeInit data addr) o).Follows := by
  obtain ⟨hothers, hself, hestablished⟩ := s.handleHandshakeInitAfxdp_spec data addr o.init
  unfold handleAfxdpControl
  dsimp only
  generalize s.handleHandshakeInitAfxdp data addr o.init = r at hothers hself hestablished ⊢
  obtain ⟨s', reported, responses⟩ := r
  have hbut : s'.table.FollowsBut s'.sessions o.init.sessionId := by
    intro k x hk hx
    obtain ⟨htable, hsessions⟩ := hothers k hk
    rw [hsessions]
    exact h k x (htable.symm.trans hx)
  cases reported with
  | none =>
    apply hbut.follows
    intro x hx
    obtain ⟨hx, hkept⟩ := hself x hx
    obtain ⟨c, hc, hcopies⟩ := h _ x hx
    rcases hkept with hsame | hnone
    · exact ⟨c, (congrArg (fun m => m.sessions.lookup o.init.sessionId) hsame).trans hc, hcopies⟩
    · cases hnone.symm.trans hc
  | some sessionId =>
    obtain ⟨rfl, hsome⟩ := hestablished sessionId rfl
    obtain ⟨c, hc⟩ := Option.isSome_iff_exists.mp hsome
    exact hbut.syncSession hc o.init.now

theorem follows_control (h : s.Follows) (sessionId : SessionId) (data : Bytes) (addr : SocketAddr)
    (o : ControlOccasion) : (s.handleAfxdpControl (.control sessionId data addr) o).Follows := by
  have hreceived : s.table.Follows (s.sessions.onSession sessionId
      (fun c => c.receiveControlAfxdp S.toServerContext data o.session) none).1 :=
    AfXdpTable.Follows.onSession h fun c => c.receiveControlAfxdp_sameKeys
  unfold handleAfxdpControl handleControlAfxdp
  dsimp only
  generalize s.sessions.onSession sessionId (fun c => c.receiveControlAfxdp S.toServerContext data o.session) none = r
    at hreceived ⊢
  obtain ⟨m, request⟩ := r
  cases request with
  | none => exact hreceived
  | some controlType =>
    cases controlType with
    | close =>
      have hbut : AfXdpTable.FollowsBut (s.table.notify (m.removeEvents sessionId)) (m.removeSession sessionId).1
          sessionId := by
        intro k x hk hx
        rw [AfXdpTable.lookup_notify, Option.ite_none_left_eq_some] at hx
        rw [lookup_removeSession, if_neg hk]
        exact hreceived k x hx.2
      exact hbut.erase
    | rebind =>
      have hrebound : s.table.Follows (if isValidAfxdpPeerAddr addr then m.updateClientAddr sessionId addr else m) := by
        split
        · exact AfXdpTable.Follows.onSession hreceived fun c => .refl c.session
        · exact hreceived
      exact AfXdpTable.Follows.onSession hrebound fun c => c.sendMessage_sameKeys _ _ _ _
    | _ => exact hreceived

theorem follows_rekey_iff (h : s.Follows) (sessionId : SessionId) (data : Bytes) (addr : SocketAddr)
    (o : ControlOccasion) :
    (s.handleAfxdpControl (.rekey sessionId data addr) o).Follows ↔ s.Delivers (.rekey sessionId data addr, o) := by
  have hbut : s.table.FollowsBut (s.sessions.onSession sessionId
      (fun c => c.handleRekeyAfxdp S.toServerContext data addr o.session) none).1 sessionId := by
    apply AfXdpTable.Follows.but h
    intro k hk
    rw [lookup_onSession, if_neg hk]
  unfold handleAfxdpControl
  dsimp only
  cases hc : s.sessions.sessions.lookup sessionId with
  | none =>
    have hsame : s.sessions.onSession sessionId
        (fun c => c.handleRekeyAfxdp S.toServerContext data addr o.session) none = (s.sessions, none) := by
      rw [SessionManager.onSession, onEntry_of_none hc]
    rw [hsame]
    refine iff_of_true h ?_
    intro c hc'
    cases hc.symm.trans hc'
  | some c =>
    have hself : (s.sessions.onSession sessionId (fun c => c.handleRekeyAfxdp S.toServerContext data addr o.session)
        none).1.sessions.lookup sessionId = some (c.handleRekeyAfxdp S.toServerContext data addr o.session).1 :=
      lookup_onSession_self hc
    have hanswer : (s.sessions.onSession sessionId (fun c => c.handleRekeyAfxdp S.toServerContext data addr o.session)
        none).2 = (c.handleRekeyAfxdp S.toServerContext data addr o.session).2 := onSession_answer hc
    have hcases := @ClientSession.handleRekeyAfxdp_cases S.toServerContext c data addr o.session
    generalize s.sessions.onSession sessionId
      (fun c => c.handleRekeyAfxdp S.toServerContext data addr o.session) none = r
      at hbut hself hanswer ⊢
    generalize c.handleRekeyAfxdp S.toServerContext data addr o.session = rekeyed at hself hanswer hcases
    obtain ⟨sessions, answer⟩ := r
    obtain ⟨c', answer'⟩ := rekeyed
    obtain rfl : answer = answer' := hanswer
    -- The entry for the session, if there is one, is the copy of what it was before.
    have hcopies : ∀ x, s.table.lookup sessionId = some x → x.Copies c := by
      intro x hx
      obtain ⟨before, hbefore, hcopies⟩ := h sessionId x hx
      cases hc.symm.trans hbefore
      exact hcopies
    obtain ⟨htakes, hkeyId, hroom⟩ | ⟨hrefuses, hsame, rfl⟩ := hcases
    · cases answer with
      | some response =>
        refine iff_of_true (hbut.syncSession hself o.session.now) ?_
        intro _ _ _ _
        exact hroom.symm
      | none =>
        constructor
        · intro hfollows _ _ hsome _
          obtain ⟨x, hx⟩ := Option.isSome_iff_exists.mp hsome
          obtain ⟨after, hafter, hcopy⟩ := hfollows sessionId x hx
          cases hself.symm.trans hafter
          exact absurd (hcopy.keyId_eq.symm.trans (hcopies x hx).keyId_eq) hkeyId
        · intro hdelivers
          refine hbut.follows ?_
          intro x hx
          have hfull := hdelivers c hc (hx ▸ rfl) htakes
          rw [← hroom] at hfull
          cases hfull
    · refine iff_of_true (hbut.follows ?_) ?_
      · intro x hx
        exact ⟨c', hself, (hcopies x hx).of_sameKeys hsame⟩
      · intro before hbefore _ htakes
        cases hc.symm.trans hbefore
        exact absurd htakes hrefuses

theorem follows_step_iff (h : s.Follows) (e : AfXdpControl × ControlOccasion) :
    (s.step e).Follows ↔ s.Delivers e := by
  obtain ⟨ctrl, o⟩ := e
  cases ctrl with
  | handshakeInit data addr => exact iff_of_true (follows_handshakeInit h data addr o) trivial
  | keepalive sessionId data addr =>
    exact iff_of_true (AfXdpTable.Follows.onSession h fun c => c.handleKeepaliveAfxdp_sameKeys) trivial
  | rekey sessionId data addr => exact follows_rekey_iff h sessionId data addr o
  | control sessionId data addr => exact iff_of_true (follows_control h sessionId data addr o) trivial

/-- Over control messages the table follows the manager just if the response to every granted rekey of one of its
sessions is queued. -/
theorem afxdp_table_follows_iff (S : InitContext) (s : AfXdpServer S)
    (events : List (AfXdpControl × ControlOccasion)) (hstart : s.Follows) :
    (∀ n, (exec step s (events.take n)).Follows) ↔ Meets Delivers step s events := by
  have hgood : ∀ (s : AfXdpServer S) e, True → s.Follows → True → ((s.step e).Follows ↔ s.Delivers e) :=
    fun s e _ h _ => follows_step_iff h e
  have hany : Meets (fun _ _ => True) step s events := meets_of_forall (fun _ _ _ => trivial) s
  exact exec_always_iff_meets (fun _ _ _ => trivial) hgood events s hany trivial hstart

end AfXdpServer

namespace XdpControlSample
open AfXdpServer ForeignSample

def server : AfXdpServer (AtomicitySample.context 2) where
  sessions := manager
  handshakeReplay := .new
  userStore := none
  rateLimiter := .new 0
  table := (AfXdpTable.syncSession ∅ manager 42 0).1

def request : Bytes :=
  (exec RekeySample.setup.step RekeySample.start (RekeySample.answered.take 1)).requests.headD []

def rekeyed (queueHasRoom : Bool) : AfXdpControl × ControlOccasion :=
  (.rekey 42 request home, ⟨InitSample.occasion, { occasion with queueHasRoom }⟩)

theorem server_follows : server.Follows := by
  have hsome : (manager.sessions.lookup 42).isSome = true := by decide +kernel
  obtain ⟨c, hc⟩ := Option.isSome_iff_exists.mp hsome
  have hempty : AfXdpTable.FollowsBut ∅ manager 42 := nofun
  exact hempty.syncSession hc 0

/-- If the response to a rekey is not queued, the manager has the new keys and the table the old ones. -/
theorem rekey_unqueued_not_followed :
    server.Follows ∧ ¬(server.step (rekeyed false)).Follows := by
  refine ⟨server_follows, ?_⟩
  intro h
  have hentry : ((server.step (rekeyed false)).table.lookup 42).map SessionCrypto.keyId = some 0 := by decide +kernel
  have hsession : ((server.step (rekeyed false)).sessions.sessions.lookup 42).map (·.session.keyId) = some 1 := by
    decide +kernel
  obtain ⟨x, hx, hkeyId⟩ := Option.map_eq_some_iff.mp hentry
  obtain ⟨c, hc, hcopies⟩ := h 42 x hx
  rw [hc, Option.map_some, ← hcopies.keyId_eq, hkeyId] at hsession
  exact absurd hsession (by decide)

theorem afxdp_table_follows_iff_queued : (exec step server [rekeyed true]).Follows :=
  (afxdp_table_follows_iff (AtomicitySample.context 2) server [rekeyed true] server_follows).mpr
    ⟨fun _ _ _ _ => rfl, trivial⟩ 1

end XdpControlSample

end HpnVpn
