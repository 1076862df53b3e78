import HpnVpn.ServerHandlers

/-! The recvmmsg and the io_uring worker do the same, but for the counter of wrong inner sources. -/
namespace HpnVpn
open Wire Tables

namespace ClientSession

def Matches (c c' : ClientSession) : Prop := c' = { c with srcMismatchCount := c'.srcMismatchCount }

theorem Matches.refl (c : ClientSession) : c.Matches c := rfl

variable {c c' : ClientSession}

theorem Matches.checkRateLimit (h : c.Matches c') (accrue : Accrual) (now : UInt64) (bytes : Nat) :
    (c.checkRateLimit accrue now bytes).1.Matches (c'.checkRateLimit accrue now bytes).1 ∧
      (c'.checkRateLimit accrue now bytes).2 = (c.checkRateLimit accrue now bytes).2 := by
  rw [h]
  exact ⟨rfl, rfl⟩

theorem Matches.validSrc (h : c.Matches c') (buf : Bytes) : c'.validSrc buf = c.validSrc buf := by
  rw [h]
  rfl

theorem Matches.admitData (h : c.Matches c') (accrue : Accrual) (addr : SocketAddr) (now : UInt64)
    (size : Nat) (buf : Bytes) :
    (c.admitData accrue incrementSrcMismatch addr now size buf).1.Matches
        (c'.admitData accrue id addr now size buf).1 ∧
      (c'.admitData accrue id addr now size buf).2 = (c.admitData accrue incrementSrcMismatch addr now size buf).2 := by
  have haddr : c'.clientAddr = c.clientAddr := by rw [h]
  unfold ClientSession.admitData
  rw [haddr]
  split
  · exact ⟨h, rfl⟩
  · obtain ⟨hmatches, hsame⟩ := h.checkRateLimit accrue now buf.length
    generalize c.checkRateLimit accrue now buf.length = r at hmatches hsame ⊢
    generalize c'.checkRateLimit accrue now buf.length = r' at hmatches hsame ⊢
    obtain ⟨c₁, allowed⟩ := r
    obtain ⟨c₁', allowed'⟩ := r'
    obtain rfl : allowed' = allowed := hsame
    change c₁.Matches c₁' at hmatches
    cases allowed' with
    | false => exact ⟨hmatches, rfl⟩
    | true =>
      dsimp only
      rw [hmatches.validSrc buf]
      split
      all_goals
        rw [hmatches]
        exact ⟨rfl, rfl⟩

theorem Matches.processData (h : c.Matches c') (A : Aes256Gcm) (accrue : Accrual) (data : Bytes)
    (addr : SocketAddr) (now : UInt64) :
    (c.processPacketData A accrue data addr now).1.Matches
        (c'.processDataPacketIoUring A accrue data addr now).1 ∧
      (c'.processDataPacketIoUring A accrue data addr now).2 = (c.processPacketData A accrue data addr now).2 := by
  have hsession : c'.session = c.session := by rw [h]
  rw [processPacketData_eq, processDataPacketIoUring_eq, onPacket, onPacket, hsession]
  obtain ⟨session, result⟩ := c.session.decryptPacket A (millis now) data maxPacketSize
  have hnext : Matches { c with session } { c' with session } := by rw [h]; rfl
  cases result with
  | error e => exact ⟨hnext, rfl⟩
  | ok opened => exact hnext.admitData accrue addr now data.length opened.2

end ClientSession

namespace SessionManager

structure Matches (m m' : SessionManager) : Prop where
  sessions : ∀ k, Option.Rel ClientSession.Matches (m.sessions.lookup k) (m'.sessions.lookup k)
  rest : m' = { m with sessions := m'.sessions }

theorem Matches.refl (m : SessionManager) : m.Matches m where
  sessions k := by
    cases m.sessions.lookup k with
    | none => exact .none
    | some c => exact .some (.refl c)
  rest := rfl

variable {m m' : SessionManager}

theorem Matches.onSession (h : m.Matches m') {β : Type} {f f' : ClientSession → ClientSession × β}
    (hf : ∀ c c', c.Matches c' → (f c).1.Matches (f' c').1 ∧ (f' c').2 = (f c).2) (sessionId : SessionId)
    (absent : β) :
    (m.onSession sessionId f absent).1.Matches (m'.onSession sessionId f' absent).1 ∧
      (m'.onSession sessionId f' absent).2 = (m.onSession sessionId f absent).2 := by
  refine ⟨⟨?_, ?_⟩, ?_⟩
  · intro k
    rw [lookup_onSession, lookup_onSession]
    split
    · have hentry := h.sessions sessionId
      revert hentry
      generalize m.sessions.lookup sessionId = e
      generalize m'.sessions.lookup sessionId = e'
      rintro (⟨hmatches⟩ | -)
      · exact .some (hf _ _ hmatches).1
      · exact .none
    · exact h.sessions k
  · rw [h.rest]
    rfl
  · have hentry := h.sessions sessionId
    unfold SessionManager.onSession onEntry
    revert hentry
    generalize m.sessions.lookup sessionId = e
    generalize m'.sessions.lookup sessionId = e'
    rintro (⟨hmatches⟩ | -)
    · exact (hf _ _ hmatches).2
    · rfl

theorem Matches.receive (h : m.Matches m') (S : ServerContext) (data : Bytes) (addr : SocketAddr) (now : UInt64) :
    (m.processPacket S data addr now).1.Matches (m'.processIoUringSegment S data addr now).1 ∧
      (m'.processIoUringSegment S data addr now).2 = (m.processPacket S data addr now).2 := by
  unfold processPacket processIoUringSegment
  split
  · exact ⟨h, rfl⟩
  · cases PacketHeader.decode data with
    | error e => exact ⟨h, rfl⟩
    | ok header =>
      dsimp only
      cases header.msgType with
      | data =>
        obtain ⟨hmatches, hsame⟩ := h.onSession
          (fun c c' hc => hc.processData S.P.aes256Gcm S.accrue data addr now) header.sessionId none
        exact ⟨hmatches, congrArg WorkerAction.ofHanded hsame⟩
      | handshakeInit | encryptedHandshakeInit | handshakeFragment | keepalive | control | rekey =>
        exact ⟨h, rfl⟩
      | handshakeResponse | keepaliveReply | rekeyResponse | cookieRequest | cookieReply => exact ⟨h, rfl⟩

/-- Whatever the datagram and the state, both workers hand on the same and leave the same sessions but for that
counter. -/
theorem receive_paths_equivalent (S : ServerContext) (m : SessionManager) (data : Bytes)
    (addr : SocketAddr) (now : UInt64) :
    (m.processIoUringSegment S data addr now).2 = (m.processPacket S data addr now).2 ∧
      (m.processPacket S data addr now).1.Matches (m.processIoUringSegment S data addr now).1 := by
  obtain ⟨hmatches, hsame⟩ := (Matches.refl m).receive S data addr now
  exact ⟨hsame, hmatches⟩

end SessionManager

end HpnVpn
