import HpnVpn.RelaySessions

/-! Whose packets the relay forwards.  A binding is made once, for the client of a handshake; the data path only reads
it. -/
namespace HpnVpn.Relay
open Wire Tables Runs

def SameClient (s s' : RelaySession) : Prop := s'.clientAddr = s.clientAddr

theorem SameClient.trans {a b c : RelaySession} (h : SameClient a b) (h' : SameClient b c) : SameClient a c :=
  Eq.trans h' h

namespace SessionManager
variable {accrue : Accrual} {m : SessionManager} {sessionId : SessionId} {clientAddr : SocketAddr} {now bytes : Nat}

def Inherits (m m' : SessionManager) : Prop := Derives SameClient m.sessions m'.sessions

theorem Inherits.refl (m : SessionManager) : Inherits m m := fun _ a ha => ⟨a, ha, rfl⟩

theorem Inherits.trans {m m' m'' : SessionManager} (h : Inherits m m') (h' : Inherits m' m'') : Inherits m m'' :=
  Derives.comp h h' SameClient.trans

theorem inherits_cleanupExpired (m : SessionManager) (now : Nat) : Inherits m (m.cleanupExpired now) := by
  intro id session hlookup
  rw [cleanupExpired, lookup_retain, Option.filter_eq_some_iff] at hlookup
  exact ⟨session, hlookup.1, rfl⟩

theorem inherits_makeRoom (m : SessionManager) (now : Nat) : Inherits m (m.makeRoom now).1 := by
  unfold makeRoom
  split
  · exact inherits_cleanupExpired m now
  · exact .refl m

theorem sessions_incrementCount (m : SessionManager) (ip : IpAddr) : (m.incrementCount ip).1.sessions = m.sessions := by
  unfold incrementCount
  dsimp only
  split
  · rfl
  · split <;> rfl

theorem lookup_getOrCreate {id : SessionId} {session : RelaySession}
    (h : (m.getOrCreate sessionId clientAddr now).1.sessions.lookup id = some session) :
    (∃ old, m.sessions.lookup id = some old ∧ SameClient old session) ∨
      (id = sessionId ∧ m.sessions.lookup id = none ∧ session.clientAddr = clientAddr) := by
  unfold getOrCreate at h
  cases hfree : m.sessions.lookup sessionId with
  | some old =>
    rw [hfree] at h
    exact .inl ⟨session, h, rfl⟩
  | none =>
    rw [hfree] at h
    have hroom := inherits_makeRoom m now
    generalize m.makeRoom now = room at h hroom
    obtain ⟨m₁, hasRoom⟩ := room
    cases hasRoom with
    | false => exact .inl (hroom id session h)
    | true =>
      have hcount := sessions_incrementCount m₁ clientAddr.ip
      dsimp only at h hroom
      generalize m₁.incrementCount clientAddr.ip = counted at h hcount
      obtain ⟨m₂, allowed⟩ := counted
      cases allowed with
      | false => exact .inl (hroom id session (hcount ▸ h))
      | true =>
        by_cases hid : id = sessionId
        · subst hid
          rw [AList.lookup_insert] at h
          cases h
          exact .inr ⟨rfl, hfree, rfl⟩
        · rw [AList.lookup_insert_ne hid, hcount] at h
          exact .inl (hroom id session h)

theorem inherits_processUpstreamPacket : Inherits m (m.processUpstreamPacket sessionId now bytes).1 :=
  derives_onEntry (fun _ => rfl) fun _ => rfl

theorem inherits_checkUpstreamRateLimit : Inherits m (m.checkUpstreamRateLimit accrue sessionId now bytes).1 :=
  derives_onEntry (fun _ => rfl) fun _ => rfl

theorem sameClient_processClientEntry (limited : Bool) (session : RelaySession) :
    SameClient session (processClientEntry accrue limited clientAddr now bytes session).1 := by
  unfold processClientEntry
  split
  · rfl
  · cases limited
    · rfl
    · have hcheck : SameClient session (session.checkRateLimit accrue now bytes).1 := rfl
      generalize session.checkRateLimit accrue now bytes = checked at hcheck
      obtain ⟨session', ok⟩ := checked
      cases ok <;> exact hcheck

theorem inherits_processClientPacket : Inherits m (m.processClientPacket accrue sessionId clientAddr now bytes).1 := by
  unfold processClientPacket
  split
  · exact .refl m
  · exact derives_onEntry (fun _ => rfl) (sameClient_processClientEntry _)

theorem processClientPacket_forward {isNew : Bool}
    (h : (m.processClientPacket accrue sessionId clientAddr now bytes).2 = .forward isNew) :
    ∃ session, m.sessions.lookup sessionId = some session ∧ session.clientAddr = clientAddr := by
  unfold processClientPacket at h
  split at h
  · cases h
  · cases hlookup : m.sessions.lookup sessionId with
    | none =>
      rw [onEntry_of_none hlookup] at h
      cases h
    | some session =>
      rw [onEntry_of_some hlookup] at h
      dsimp only [processClientEntry] at h
      split at h
      · cases h
      case isFalse haddr => exact ⟨session, rfl, not_not.mp haddr⟩

theorem processUpstreamPacket_some {addr : SocketAddr}
    (h : (m.processUpstreamPacket sessionId now bytes).2 = some addr) :
    ∃ session, m.sessions.lookup sessionId = some session ∧ session.clientAddr = addr := by
  unfold processUpstreamPacket at h
  cases hlookup : m.sessions.lookup sessionId with
  | none =>
    rw [onEntry_of_none hlookup] at h
    cases h
  | some session =>
    rw [onEntry_of_some hlookup] at h
    exact ⟨session, rfl, Option.some.inj h⟩

theorem inherits_remove : Inherits m (m.remove sessionId) := by
  unfold remove
  cases m.sessions.lookup sessionId with
  | none => exact .refl m
  | some session =>
    intro id session' hlookup
    by_cases hid : id = sessionId
    · subst hid
      rw [AList.lookup_erase] at hlookup
      cases hlookup
    · rw [AList.lookup_erase_ne hid] at hlookup
      exact ⟨session', hlookup, rfl⟩

end SessionManager

namespace RelayServer
variable {accrue : Accrual} {r : RelayServer} {now : Nat} {data : Bytes} {clientAddr : SocketAddr}

def bound (r : RelayServer) (sessionId : SessionId) : Option SocketAddr :=
  (r.sessions.sessions.lookup sessionId).map RelaySession.clientAddr

theorem bound_eq_some {sessionId : SessionId} :
    r.bound sessionId = some clientAddr ↔
      ∃ session, r.sessions.sessions.lookup sessionId = some session ∧ session.clientAddr = clientAddr :=
  Option.map_eq_some_iff

theorem handleUpstreamPacket_spec (accrue : Accrual) (r : RelayServer) (now : Nat) (data : Bytes) :
    r.sessions.Inherits (r.handleUpstreamPacket accrue now data).1.sessions ∧
      ((r.handleUpstreamPacket accrue now data).2 = .drop ∨
        ∃ header clientAddr, PacketHeader.decode data = .ok header ∧
          r.bound header.sessionId = some clientAddr ∧
          (r.handleUpstreamPacket accrue now data).2 = .sendClient clientAddr data) := by
  unfold handleUpstreamPacket
  split
  · exact ⟨.refl _, .inl rfl⟩
  · cases hdecode : PacketHeader.decode data with
    | error e => exact ⟨.refl _, .inl rfl⟩
    | ok header =>
      have hcheck : r.sessions.Inherits (if r.sessions.isRateLimited then
          r.sessions.checkUpstreamRateLimit accrue header.sessionId now data.length
        else (r.sessions, true)).1 := by
        split
        · exact SessionManager.inherits_checkUpstreamRateLimit
        · exact .refl _
      dsimp only
      generalize (if r.sessions.isRateLimited = true then
          r.sessions.checkUpstreamRateLimit accrue header.sessionId now data.length
        else (r.sessions, true)) = checked at hcheck ⊢
      obtain ⟨sessions, allowed⟩ := checked
      cases allowed with
      | false => exact ⟨hcheck, .inl rfl⟩
      | true =>
        have hinherits := @SessionManager.inherits_processUpstreamPacket sessions header.sessionId now data.length
        have hsome := @SessionManager.processUpstreamPacket_some sessions header.sessionId now data.length
        dsimp only at hcheck ⊢
        generalize sessions.processUpstreamPacket header.sessionId now data.length = processed at *
        obtain ⟨sessions', target⟩ := processed
        cases target with
        | none => exact ⟨hcheck.trans hinherits, .inl rfl⟩
        | some addr =>
          refine ⟨hcheck.trans hinherits, .inr ⟨header, addr, rfl, ?_, rfl⟩⟩
          obtain ⟨session, hlookup, haddr⟩ := hsome rfl
          obtain ⟨old, hold, hsame⟩ := hcheck _ _ hlookup
          exact bound_eq_some.mpr ⟨old, hold, hsame.symm.trans haddr⟩

theorem admitHandshake_spec (r : RelayServer) (now : Nat) (data : Bytes) (clientAddr : SocketAddr) :
    (r.admitHandshake now data clientAddr).1.sessions = r.sessions ∧
      ((r.admitHandshake now data clientAddr).2 = .drop ∨
        (r.admitHandshake now data clientAddr).2 = .forwardHandshake data clientAddr) := by
  unfold admitHandshake
  obtain ⟨limiter, allowed⟩ := r.handshakeRateLimiter.allow clientAddr.ip now
  cases allowed with
  | false => exact ⟨rfl, .inl rfl⟩
  | true =>
    dsimp only
    split
    · exact ⟨rfl, .inl rfl⟩
    · exact ⟨rfl, .inr rfl⟩

theorem handleClientPacket_spec (accrue : Accrual) (r : RelayServer) (now : Nat) (data : Bytes)
    (clientAddr : SocketAddr) :
    r.sessions.Inherits (r.handleClientPacket accrue now data clientAddr).1.sessions ∧
      ((r.handleClientPacket accrue now data clientAddr).2 = .drop ∨
        (r.handleClientPacket accrue now data clientAddr).2 = .forwardHandshake data clientAddr ∨
        ∃ header, PacketHeader.decode data = .ok header ∧ r.bound header.sessionId = some clientAddr ∧
          (r.handleClientPacket accrue now data clientAddr).2 = .sendUpstream data) := by
  unfold handleClientPacket
  split
  · exact ⟨.refl _, .inl rfl⟩
  · cases hdecode : PacketHeader.decode data with
    | error e => exact ⟨.refl _, .inl rfl⟩
    | ok header =>
      dsimp only
      split
      · obtain ⟨hsessions, haction⟩ := admitHandshake_spec r now data clientAddr
        rw [hsessions]
        exact ⟨.refl _, haction.imp_right .inl⟩
      · have hinherits := @SessionManager.inherits_processClientPacket accrue r.sessions header.sessionId
          clientAddr now data.length
        have hforward := @SessionManager.processClientPacket_forward accrue r.sessions header.sessionId
          clientAddr now data.length
        generalize r.sessions.processClientPacket accrue header.sessionId clientAddr now data.length =
          processed at hinherits hforward ⊢
        obtain ⟨sessions, result⟩ := processed
        cases result with
        | forward isNew =>
          exact ⟨hinherits, .inr (.inr ⟨header, rfl, bound_eq_some.mpr (hforward rfl), rfl⟩)⟩
        | sessionRejected | roamingBlocked | rateLimited => exact ⟨hinherits, .inl rfl⟩

end RelayServer

/-! ### Runs -/

/-- What can happen to the relay's table.  Bindings and removals come from the tasks that wait for
handshake responses. -/
inductive Event
  | clientPacket (data : Bytes) (clientAddr : SocketAddr)
  | upstreamPacket (data : Bytes)
  | bindEstablished (sessionId : SessionId) (clientAddr : SocketAddr)
  | remove (sessionId : SessionId)
  | cleanupExpired
  | handshakeEnded
deriving DecidableEq

structure Arrival where
  elapsed : Nat
  event : Event

structure RelayRun where
  relay : RelayServer
  now : Nat

namespace RelayRun

def react (accrue : Accrual) (r : RelayServer) (now : Nat) : Event → RelayServer × Action
  | .clientPacket data clientAddr => r.handleClientPacket accrue now data clientAddr
  | .upstreamPacket data => r.handleUpstreamPacket accrue now data
  | .bindEstablished sessionId clientAddr =>
    ({ r with sessions := (r.sessions.bindEstablished sessionId clientAddr now).1 }, .drop)
  | .remove sessionId => ({ r with sessions := r.sessions.remove sessionId }, .drop)
  | .cleanupExpired => ({ r with sessions := r.sessions.cleanupExpired now }, .drop)
  | .handshakeEnded => ({ r with permits := r.permits + 1 }, .drop)

def outcome (accrue : Accrual) (s : RelayRun) (a : Arrival) : RelayServer × Action :=
  react accrue s.relay (s.now + a.elapsed) a.event

def step (accrue : Accrual) (s : RelayRun) (a : Arrival) : RelayRun :=
  ⟨(s.outcome accrue a).1, s.now + a.elapsed⟩

def start (config : RelayConfig) (now : Nat) : RelayRun := ⟨.new config now, now⟩

def bound (s : RelayRun) (sessionId : SessionId) : Option SocketAddr := s.relay.bound sessionId

variable {s : RelayRun}

theorem bound_step {accrue : Accrual} {a : Arrival} {id : SessionId} {addr : SocketAddr}
    (h : (s.step accrue a).bound id = some addr) :
    s.bound id = some addr ∨ (s.bound id = none ∧ id ≠ 0 ∧ a.event = .bindEstablished id addr) := by
  have inherited {m : SessionManager} (hm : s.relay.sessions.Inherits m)
      (hsessions : (s.step accrue a).relay.sessions = m) : s.bound id = some addr := by
    obtain ⟨session, hlookup, rfl⟩ := RelayServer.bound_eq_some.mp h
    rw [hsessions] at hlookup
    obtain ⟨old, hold, hsame⟩ := hm id session hlookup
    exact RelayServer.bound_eq_some.mpr ⟨old, hold, hsame.symm⟩
  obtain ⟨elapsed, event⟩ := a
  cases event with
  | clientPacket data clientAddr =>
    exact .inl (inherited (RelayServer.handleClientPacket_spec accrue s.relay _ data clientAddr).1 rfl)
  | upstreamPacket data =>
    exact .inl (inherited (RelayServer.handleUpstreamPacket_spec accrue s.relay _ data).1 rfl)
  | remove sessionId => exact .inl (inherited SessionManager.inherits_remove rfl)
  | cleanupExpired => exact .inl (inherited (SessionManager.inherits_cleanupExpired _ _) rfl)
  | handshakeEnded => exact .inl (inherited (.refl _) rfl)
  | bindEstablished sessionId clientAddr =>
    by_cases hzero : sessionId = 0
    · refine .inl (inherited (.refl _) ?_)
      exact congrArg Prod.fst (if_pos hzero)
    · obtain ⟨session, hlookup, haddr⟩ := RelayServer.bound_eq_some.mp h
      have hbind : s.relay.sessions.bindEstablished sessionId clientAddr (s.now + elapsed) =
          s.relay.sessions.getOrCreate sessionId clientAddr (s.now + elapsed) := if_neg hzero
      change (s.relay.sessions.bindEstablished sessionId clientAddr (s.now + elapsed)).1.sessions.lookup id =
        some session at hlookup
      rw [hbind] at hlookup
      rcases SessionManager.lookup_getOrCreate hlookup with ⟨old, hold, hsame⟩ | ⟨rfl, hfree, hnew⟩
      · exact .inl (RelayServer.bound_eq_some.mpr ⟨old, hold, hsame.symm.trans haddr⟩)
      · refine .inr ⟨Option.map_eq_none_iff.mpr hfree, hzero, ?_⟩
        rw [← haddr, hnew]

variable (accrue : Accrual)

theorem bound_zero (arrivals : List Arrival) (hs : s.bound 0 = none) :
    (exec (step accrue) s arrivals).bound 0 = none := by
  have hstep : ∀ (s : RelayRun) (a : Arrival), s.bound 0 = none → (s.step accrue a).bound 0 = none := by
    intro s a hnone
    cases h : (s.step accrue a).bound 0 with
    | none => rfl
    | some addr =>
      rcases bound_step h with hold | ⟨-, hne, -⟩
      · exact absurd (hnone.symm.trans hold) nofun
      · exact absurd rfl hne
  exact exec_invariant hstep arrivals s hs

theorem bound_stable {id : SessionId} {addr : SocketAddr} (arrivals : List Arrival) (hs : s.bound id = some addr)
    (hlives : Meets (fun s a => ((s.step accrue a).bound id).isSome = true) (step accrue) s arrivals) :
    (exec (step accrue) s arrivals).bound id = some addr := by
  have hstep : ∀ (s : RelayRun) (a : Arrival), s.bound id = some addr →
      ((s.step accrue a).bound id).isSome = true → (s.step accrue a).bound id = some addr := by
    intro s a hbound hsome
    obtain ⟨addr', haddr'⟩ := Option.isSome_iff_exists.mp hsome
    rcases bound_step haddr' with hold | ⟨hnone, -, -⟩
    · rw [haddr', ← hbound, hold]
    · exact absurd (hnone.symm.trans hbound) nofun
  exact exec_invariant_of hstep arrivals s hs hlives

theorem outcome_cases (s : RelayRun) (a : Arrival) :
    (s.outcome accrue a).2 = .drop ∨
      (∃ data addr, a.event = .clientPacket data addr ∧ (s.outcome accrue a).2 = .forwardHandshake data addr) ∨
      (∃ data addr header, a.event = .clientPacket data addr ∧ PacketHeader.decode data = .ok header ∧
        s.bound header.sessionId = some addr ∧ (s.outcome accrue a).2 = .sendUpstream data) ∨
      ∃ data addr header, a.event = .upstreamPacket data ∧ PacketHeader.decode data = .ok header ∧
        s.bound header.sessionId = some addr ∧ (s.outcome accrue a).2 = .sendClient addr data := by
  obtain ⟨elapsed, event⟩ := a
  cases event with
  | clientPacket data addr =>
    rcases (RelayServer.handleClientPacket_spec accrue s.relay (s.now + elapsed) data addr).2 with
      hdrop | hforward | ⟨header, hdecode, hbound, hsend⟩
    · exact .inl hdrop
    · exact .inr (.inl ⟨data, addr, rfl, hforward⟩)
    · exact .inr (.inr (.inl ⟨data, addr, header, rfl, hdecode, hbound, hsend⟩))
  | upstreamPacket data =>
    rcases (RelayServer.handleUpstreamPacket_spec accrue s.relay (s.now + elapsed) data).2 with
      hdrop | ⟨header, addr, hdecode, hbound, hsend⟩
    · exact .inl hdrop
    · exact .inr (.inr (.inr ⟨data, addr, header, rfl, hdecode, hbound, hsend⟩))
  | bindEstablished _ _ | remove _ | cleanupExpired | handshakeEnded => exact .inl rfl

end RelayRun

open RelayRun in
/-- In every run session 0 is unbound, a binding keeps its client, packets go upstream only from that client and come
back only to it, and bind nothing. -/
theorem relay_binding_safe (accrue : Accrual) (config : RelayConfig) (now : Nat) (arrivals : List Arrival) :
    let s := exec (step accrue) (start config now) arrivals
    s.bound 0 = none ∧
      (∀ id addr later, s.bound id = some addr →
        Meets (fun s a => ((s.step accrue a).bound id).isSome = true) (step accrue) s later →
        (exec (step accrue) s later).bound id = some addr) ∧
      ∀ next : Arrival,
        (∀ data, (s.outcome accrue next).2 = .sendUpstream data → ∃ addr header,
          next.event = .clientPacket data addr ∧ PacketHeader.decode data = .ok header ∧
            s.bound header.sessionId = some addr) ∧
        (∀ addr data, (s.outcome accrue next).2 = .sendClient addr data → ∃ header,
          next.event = .upstreamPacket data ∧ PacketHeader.decode data = .ok header ∧
            s.bound header.sessionId = some addr) ∧
        (∀ data addr, next.event = .clientPacket data addr →
          ∀ id, s.bound id = none → (s.step accrue next).bound id = none) := by
  intro s
  refine ⟨?_, ?_, ?_⟩
  · exact bound_zero accrue arrivals rfl
  · intro id addr later hbound hlives
    exact bound_stable accrue later hbound hlives
  · intro next
    have hcases := outcome_cases accrue s next
    refine ⟨?_, ?_, ?_⟩
    · intro data hsend
      rw [hsend] at hcases
      rcases hcases with h | ⟨_, _, _, h⟩ | ⟨data', addr, header, hevent, hdecode, hbound, h⟩ | ⟨_, _, _, _, _, _, h⟩
      · cases h
      · cases h
      · cases h
        exact ⟨addr, header, hevent, hdecode, hbound⟩
      · cases h
    · intro addr data hsend
      rw [hsend] at hcases
      rcases hcases with h | ⟨_, _, _, h⟩ | ⟨_, _, _, _, _, _, h⟩ | ⟨data', addr', header, hevent, hdecode, hbound, h⟩
      · cases h
      · cases h
      · cases h
      · cases h
        exact ⟨header, hevent, hdecode, hbound⟩
    · intro data addr hevent id hnone
      cases h : (s.step accrue next).bound id with
      | none => rfl
      | some addr' =>
        rcases bound_step h with hold | ⟨-, -, hbind⟩
        · exact absurd (hnone.symm.trans hold) nofun
        · exact absurd (hevent.symm.trans hbind) nofun

end HpnVpn.Relay
