import HpnVpn.ServerHandlers
import HpnVpn.SessionPair

/-! What the server's operations do to the receive windows: between two changes of keys a window only moves on, and a
change starts a new one under a new key id. -/
namespace HpnVpn
open Wire Tables AntiReplayWindow Session

namespace Session

def Knows (s : Session) (history : List Counter) : Prop :=
  ∃ accepted, s.recvWindow.Tracks accepted ∧ ∀ a ∈ history, a ∈ accepted

structure MovesOn (s s' : Session) : Prop where
  sessionId_eq : s'.sessionId = s.sessionId
  keyId_eq : s'.keyId = s.keyId
  knows : ∀ history, s.Knows history → s'.Knows history

structure Renewed (s s' : Session) : Prop where
  sessionId_eq : s'.sessionId = s.sessionId
  keyId_ne : s'.keyId ≠ s.keyId
  knows : s'.Knows []

def Advances (s s' : Session) : Prop := MovesOn s s' ∨ Renewed s s'

variable {s s' s'' : Session}

theorem MovesOn.refl (s : Session) : MovesOn s s := ⟨rfl, rfl, fun _ h => h⟩

theorem MovesOn.trans (h : MovesOn s s') (h' : MovesOn s' s'') : MovesOn s s'' where
  sessionId_eq := h'.sessionId_eq.trans h.sessionId_eq
  keyId_eq := h'.keyId_eq.trans h.keyId_eq
  knows history hknows := h'.knows history (h.knows history hknows)

theorem SentFrom.movesOn (h : SentFrom s s') : MovesOn s s' where
  sessionId_eq := h.sessionId_eq
  keyId_eq := h.keyId_eq
  knows history := by
    unfold Knows
    rw [h.recvWindow_eq]
    exact id

theorem Advances.refl (s : Session) : Advances s s := .inl (.refl s)

theorem MovesOn.trans_advances (h : MovesOn s s') (h' : Advances s' s'') : Advances s s'' := by
  rcases h' with h' | h'
  · exact .inl (h.trans h')
  · exact .inr ⟨h'.sessionId_eq.trans h.sessionId_eq, fun heq => h'.keyId_ne (heq.trans h.keyId_eq.symm), h'.knows⟩

theorem Advances.sessionId_eq (h : Advances s s') : s'.sessionId = s.sessionId := by
  rcases h with h | h
  all_goals exact h.sessionId_eq

theorem knows_new (sessionId : SessionId) (keys : SessionKeys) (now : Nat) :
    (Session.new sessionId keys now).Knows [] := ⟨[], tracks_new, nofun⟩

theorem Knows.accept {history : List Counter} {counter : Counter} (h : s.Knows history)
    (hcheck : s.recvWindow.check counter = true) (now : Nat) (size : Nat) :
    counter ∉ history ∧ (s.acceptPacket now counter size).Knows (counter :: history) := by
  obtain ⟨accepted, htracks, hsub⟩ := h
  rw [check_eq] at hcheck
  rcases checkAndUpdate_spec htracks counter with ⟨hfresh, -, hnext⟩ | ⟨-, hno⟩
  · refine ⟨fun hmem => hfresh.notMem (hsub counter hmem), counter :: accepted, hnext, ?_⟩
    intro a ha
    rcases List.mem_cons.mp ha with rfl | ha
    · exact List.mem_cons_self
    · exact List.mem_cons_of_mem counter (hsub a ha)
  · rw [hno] at hcheck
    cases hcheck

theorem movesOn_accept {counter : Counter} (hcheck : s.recvWindow.check counter = true) (now size : Nat) :
    MovesOn s (s.acceptPacket now counter size) := by
  refine ⟨rfl, rfl, ?_⟩
  intro history hknows
  obtain ⟨accepted, htracks, hsub⟩ := (hknows.accept hcheck now size).2
  exact ⟨accepted, htracks, fun a ha => hsub a (List.mem_cons_of_mem counter ha)⟩

theorem advances_updateKeys (s : Session) (keys : SessionKeys) : Advances s (s.updateKeys keys) := by
  refine .inr ⟨rfl, ?_, [], tracks_reset s.recvWindow, nofun⟩
  intro h
  have hnext : s.keyId + 1 = s.keyId := h
  exact absurd hnext (by simp)

end Session

namespace ClientSession

variable {S : ServerContext} {c : ClientSession}

theorem sendMessage_movesOn (A : Aes256Gcm) (msgType : MessageType) (payload : Bytes) (room : Bool) :
    Session.MovesOn c.session (c.sendMessage A msgType payload room).1.session := by
  unfold sendMessage
  split
  all_goals
    rename_i hsent
    exact (encryptPacket_sent hsent).1.movesOn

theorem onPacket_advances {β : Type} {A : Aes256Gcm} {data : Bytes} {outputLen : Nat} {now : UInt64}
    {next : ClientSession → Bytes → ClientSession × Option β}
    (hnext : ∀ c payload, Session.Advances c.session (next c payload).1.session) :
    Session.Advances c.session (c.onPacket A data outputLen now next).1.session := by
  rcases c.onPacket_cases A data outputLen now next with ⟨-, heq⟩ | ⟨header, payload, -, hcheck, heq⟩
  · rw [heq]
    exact .refl c.session
  · rw [heq]
    exact (movesOn_accept hcheck (millis now) data.length).trans_advances
      (hnext (c.accepted now header.counter data.length) payload)

variable (data : Bytes) (addr : SocketAddr) (o : Occasion)

theorem handleKeepalive_advances :
    Session.Advances c.session (c.handleKeepalive S data addr o).1.session := by
  apply onPacket_advances
  intro c payload
  unfold answerKeepalive
  split
  · exact .refl c.session
  · split
    · exact .refl c.session
    · exact .inl (sendMessage_movesOn (c := c.touch o.now) _ _ _ _)

theorem handleRekey_advances :
    Session.Advances c.session (c.handleRekeyMessage S data addr o).1.session := by
  show Session.Advances c.session (c.onPacket S.P.aes256Gcm data data.length o.now fun c payload =>
    c.answerRekey S.P S.keypairFor payload addr o.draws o.now o.queueHasRoom).1.session
  apply onPacket_advances
  intro c payload
  unfold answerRekey
  split
  · exact .refl c.session
  · split
    · exact .refl c.session
    · split
      · exact .refl c.session
      · split
        · exact .refl c.session
        · dsimp only
          split
          · rename_i hsent
            exact .inl (encryptPacket_sent hsent).1.movesOn
          · rename_i hsent
            exact (encryptPacket_sent hsent).1.movesOn.trans_advances (advances_updateKeys _ _)

theorem receiveControl_movesOn :
    Session.MovesOn c.session (c.receiveControl S data o).1.session := by
  unfold receiveControl
  rcases c.onPacket_cases S.P.aes256Gcm data data.length o.now _ with
    ⟨-, heq⟩ | ⟨header, payload, -, hcheck, heq⟩
  · rw [heq]
    exact .refl c.session
  · rw [heq]
    have haccept := movesOn_accept hcheck (millis o.now) data.length
    split
    all_goals exact haccept

end ClientSession

/-! ### Operations of the manager besides creating sessions and receiving data -/

/-- The handlers of the other platforms are made of the same parts: absorb a packet, answer, rebind. -/
inductive ManagerOp
  | remove (sessionId : SessionId)
  | cleanup (now : UInt64)
  | message (message : WorkerControl) (o : Occasion)
  /-- Decrypt a packet of the session, and renew its activity time if asked to. -/
  | absorb (sessionId : SessionId) (data : Bytes) (now : UInt64) (touch : Bool)
  | rebind (sessionId : SessionId) (addr : SocketAddr)
  | send (sessionId : SessionId) (msgType : MessageType) (payload : Bytes) (bytesSent : UInt64)

namespace SessionManager

def apply (S : ServerContext) (m : SessionManager) : ManagerOp → SessionManager
  | .remove sessionId => (m.removeSession sessionId).1
  | .cleanup now => (m.cleanupExpired now).1
  | .message message o => (m.handleSessionMessage S message o).1
  | .absorb sessionId data now touch =>
    (m.onSession sessionId (fun c => c.onPacket S.P.aes256Gcm data maxPacketSize now fun c _ =>
      (if touch then c.touch now else c, (none : Option Unit))) none).1
  | .rebind sessionId addr => m.updateClientAddr sessionId addr
  | .send sessionId msgType payload bytesSent =>
    (m.onSession sessionId (fun c =>
      ((c.sendMessage S.P.aes256Gcm msgType payload true).1.addBytesSent bytesSent, ())) ()).1

def Advances (m m' : SessionManager) : Prop :=
  Derives (fun c c' => Session.Advances c.session c'.session) m.sessions m'.sessions

def MovesOn (m m' : SessionManager) : Prop :=
  Derives (fun c c' => Session.MovesOn c.session c'.session) m.sessions m'.sessions

variable {S : ServerContext} {m m' m'' : SessionManager}

theorem MovesOn.trans (h : m.MovesOn m') (h' : m'.MovesOn m'') : m.MovesOn m'' :=
  Derives.comp h h' fun hab hbc => hab.trans hbc

theorem MovesOn.advances (h : m.MovesOn m') : m.Advances m' := by
  intro k c' hc'
  obtain ⟨c, hc, hmoves⟩ := h k c' hc'
  exact ⟨c, hc, .inl hmoves⟩

theorem onSession_movesOn {β : Type} {sessionId : SessionId} {f : ClientSession → ClientSession × β}
    {absent : β} (hf : ∀ c : ClientSession, Session.MovesOn c.session (f c).1.session) :
    m.MovesOn (m.onSession sessionId f absent).1 :=
  derives_onEntry (fun c => .refl c.session) hf

theorem onSession_advances {β : Type} {sessionId : SessionId} {f : ClientSession → ClientSession × β}
    {absent : β} (hf : ∀ c : ClientSession, Session.Advances c.session (f c).1.session) :
    m.Advances (m.onSession sessionId f absent).1 :=
  derives_onEntry (fun c => .refl c.session) hf

variable (sessionId : SessionId)

theorem removeSession_movesOn : m.MovesOn (m.removeSession sessionId).1 := by
  apply derives_of_lookup (fun c => .refl c.session)
  intro k
  rw [lookup_removeSession]
  split
  · exact .inl rfl
  · exact .inr rfl

theorem updateClientAddr_movesOn (addr : SocketAddr) :
    m.MovesOn (m.updateClientAddr sessionId addr) :=
  onSession_movesOn fun c => .refl c.session

theorem handleControl_movesOn (data : Bytes) (addr : SocketAddr) (o : Occasion) :
    m.MovesOn (m.handleControl S sessionId data addr o).1 := by
  have hreceived : m.MovesOn (m.onSession sessionId (fun c => c.receiveControl S data o) none).1 :=
    onSession_movesOn fun c => c.receiveControl_movesOn data o
  unfold handleControl
  dsimp only
  split
  · exact hreceived.trans (removeSession_movesOn sessionId)
  · refine (hreceived.trans (updateClientAddr_movesOn sessionId addr)).trans (onSession_movesOn fun c => ?_)
    exact c.sendMessage_movesOn _ _ _ _
  · exact hreceived

theorem apply_advances (op : ManagerOp) : m.Advances (m.apply S op) := by
  cases op with
  | remove sessionId => exact (removeSession_movesOn sessionId).advances
  | cleanup now => exact derives_of_lookup (fun c => .refl c.session) fun k => lookup_cleanupExpired
  | message message o =>
    cases message with
    | keepalive sessionId data addr =>
      exact onSession_advances fun c => c.handleKeepalive_advances data addr o
    | rekey sessionId data addr =>
      exact onSession_advances fun c => c.handleRekey_advances data addr o
    | control sessionId data addr => exact (handleControl_movesOn sessionId data addr o).advances
    | handshakeInit data addr => exact fun k c hc => ⟨c, hc, .refl c.session⟩
    | handshakeFragment data addr => exact fun k c hc => ⟨c, hc, .refl c.session⟩
  | absorb sessionId data now touch =>
    refine onSession_advances fun c => ClientSession.onPacket_advances fun c payload => ?_
    cases touch with
    | true => exact .refl c.session
    | false => exact .refl c.session
  | rebind sessionId addr => exact (updateClientAddr_movesOn sessionId addr).advances
  | send sessionId msgType payload bytesSent =>
    refine (onSession_movesOn fun c => ?_).advances
    exact c.sendMessage_movesOn S.P.aes256Gcm msgType payload true

end SessionManager

end HpnVpn
