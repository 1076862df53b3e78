import HpnVpn.ControlPath
import HpnVpn.CredentialBinding

/-! No session without policy, over every sequence of handshake datagrams: the levels, the replay window, the
credentials and the lockouts. -/
namespace HpnVpn
open Wire Tables Runs

theorem InitContext.securityLevelAccepted_iff {S : InitContext} {level : SecurityLevel} :
    S.securityLevelAccepted level = true ↔ S.minSecurityLevel.asU8 ≤ level.asU8 := by
  unfold InitContext.securityLevelAccepted
  cases S.minSecurityLevel with
  | level3 => cases level <;> decide
  | level5 => cases level <;> decide

/-- A server with a user store behind the tracker of failed logins. -/
def InitContext.guarded (S : InitContext) (Store : Type)
    (verifyPassword : Store → (username password : String) → (now : Nat) → Store × Except ServerError Bool)
    (order : Nat → LockoutOrder) (wallSecs : Nat → Nat) : InitContext :=
  { S with backend := .guarded Store verifyPassword order wallSecs }

def InitContext.offered (S : InitContext) (packet : Bytes) : Option HandshakeInit :=
  (S.openInit packet).filter fun init => S.securityLevelAccepted init.securityLevel

/-- The random of an init that the replay cache takes for a fresh one. -/
def VpnServer.acceptsRandom {S : InitContext} (server : VpnServer S) (packet : Bytes) (now : Nat) : Option (Block 32) :=
  match S.offered packet with
  | none => none
  | some init => if (server.handshakeReplay.checkAndInsert init.clientRandom now).2 then some init.clientRandom else none

structure HandshakeArrival where
  ctrl : HandshakeControl
  elapsed : Nat
  occasion : InitOccasion
  order : Chooser FragmentKey

/-- The server and the randoms it accepted. -/
structure PolicyRun (S : InitContext) where
  server : ControlServer S
  clock : Nat
  accepted : List (Block 32 × Nat)

namespace PolicyRun
variable {S : InitContext}

def step (run : PolicyRun S) (a : HandshakeArrival) : Except ReassemblyPanic (PolicyRun S) := do
  let now := run.clock + a.elapsed
  let (server, packet) ← run.server.collect a.ctrl now a.order
  match packet with
  | none => return ⟨server, now, run.accepted⟩
  | some packet =>
    return ⟨(server.handleHandshakeInitInternalPrechecked packet a.ctrl.addr { a.occasion with instant := now }).1,
      now, run.accepted ++ (server.acceptsRandom packet now).toList.map fun random => (random, now)⟩

end PolicyRun

namespace VpnServer
variable {S : InitContext} {server : VpnServer S} {packet : Bytes} {addr : SocketAddr} {o : InitOccasion}

theorem handshakeReplay_handleHandshakeInit :
    (server.handleHandshakeInitInternalPrechecked packet addr o).1.handshakeReplay =
      match S.offered packet with
      | none => server.handshakeReplay
      | some init => (server.handshakeReplay.checkAndInsert init.clientRandom o.instant).1 := by
  unfold handleHandshakeInitInternalPrechecked InitContext.offered
  cases S.openInit packet with
  | none => rfl
  | some init =>
    dsimp only
    rw [Option.filter_some]
    cases S.securityLevelAccepted init.securityLevel with
    | false => rfl
    | true =>
      rw [if_neg (by decide), if_pos rfl]
      split
      · rfl
      · split
        all_goals rfl

theorem remembers_handleHandshakeInit {accepted : List (Block 32 × Nat)} {clock : Nat}
    (h : server.handshakeReplay.Remembers accepted clock) (hle : clock ≤ o.instant) :
    (server.handleHandshakeInitInternalPrechecked packet addr o).1.handshakeReplay.Remembers
      (accepted ++ (server.acceptsRandom packet o.instant).toList.map fun random => (random, o.instant))
      o.instant := by
  rw [handshakeReplay_handleHandshakeInit, acceptsRandom]
  cases S.offered packet with
  | none =>
    rw [Option.toList_none, List.map_nil, List.append_nil]
    exact h.mono hle
  | some init =>
    have hkept := h.checkAndInsert hle init.clientRandom
    dsimp only
    cases hfresh : (server.handshakeReplay.checkAndInsert init.clientRandom o.instant).2 with
    | false =>
      rw [hfresh] at hkept
      simpa using hkept
    | true =>
      rw [hfresh] at hkept
      simpa using hkept

theorem ttl_handleHandshakeInit :
    (server.handleHandshakeInitInternalPrechecked packet addr o).1.handshakeReplay.ttl =
      server.handshakeReplay.ttl := by
  rw [handshakeReplay_handleHandshakeInit]
  split
  · rfl
  · exact server.handshakeReplay.ttl_checkAndInsert ..

end VpnServer

namespace PolicyRun
variable {S : InitContext}

structure Sound (ttl : Nat) (run : PolicyRun S) : Prop where
  reassembly : run.server.fragmentReassembly.Sound
  replay : run.server.handshakeReplay.Remembers run.accepted run.clock
  ttl : run.server.handshakeReplay.ttl = ttl
  store : run.server.userStore.isSome = true

theorem Sound.step_cases {ttl : Nat} {run : PolicyRun S} (h : Sound ttl run) (a : HandshakeArrival) :
    ∃ server, server.toVpnServer = run.server.toVpnServer ∧ server.fragmentReassembly.Sound ∧
      (run.step a = .ok ⟨server, run.clock + a.elapsed, run.accepted⟩ ∨
        ∃ packet, run.server.collect a.ctrl (run.clock + a.elapsed) a.order = .ok (server, some packet) ∧ run.step a =
          .ok ⟨(server.handleHandshakeInitInternalPrechecked packet a.ctrl.addr
            { a.occasion with instant := run.clock + a.elapsed }).1, run.clock + a.elapsed,
            run.accepted ++ (run.server.acceptsRandom packet (run.clock + a.elapsed)).toList.map
              fun random => (random, run.clock + a.elapsed)⟩) := by
  obtain ⟨server, packet, hcollect, hsame, hsound⟩ :=
    ControlServer.collect_ok h.reassembly a.ctrl (run.clock + a.elapsed) a.order
  refine ⟨server, hsame, hsound, ?_⟩
  unfold PolicyRun.step
  dsimp only
  rw [hcollect, ok_bind, ← hsame]
  cases packet with
  | none => exact .inl rfl
  | some packet => exact .inr ⟨packet, rfl, rfl⟩

theorem Sound.step {ttl : Nat} (run : PolicyRun S) (a : HandshakeArrival) (h : Sound ttl run) :
    OkAnd (Sound ttl) (run.step a) := by
  obtain ⟨server, hsame, hsound, hstep | ⟨packet, -, hstep⟩⟩ := h.step_cases a
  · refine ⟨_, hstep, hsound, ?_, ?_, ?_⟩
    · rw [hsame]
      exact h.replay.mono (Nat.le_add_right _ _)
    · rw [hsame]
      exact h.ttl
    · rw [hsame]
      exact h.store
  · refine ⟨_, hstep, hsound, ?_, ?_, ?_⟩
    · rw [← hsame]
      exact VpnServer.remembers_handleHandshakeInit (hsame ▸ h.replay) (Nat.le_add_right _ _)
    · exact VpnServer.ttl_handleHandshakeInit.trans (hsame ▸ h.ttl)
    · exact (VpnServer.isSome_userStore_handleHandshakeInit ..).trans (hsame ▸ h.store)

end PolicyRun

theorem InitContext.outer_of_openInit {S : InitContext} {packet : Bytes} {init : HandshakeInit}
    (h : S.openInit packet = some init) {header : PacketHeader} (hheader : PacketHeader.decode packet = .ok header)
    (htype : header.msgType = .encryptedHandshakeInit) {e : EncryptedHandshakeInit}
    (he : EncryptedHandshakeInit.fromBytes (packet.drop headerSize) = .ok e) :
    S.securityLevelAccepted e.securityLevel = true := by
  rw [openInit, hheader] at h
  dsimp only at h
  rw [htype] at h
  rw [openHidden, he] at h
  obtain ⟨e', he', h⟩ := Option.bind_eq_some_iff.mp h
  obtain rfl := Option.some.inj he'
  obtain ⟨u, hguard, -⟩ := Option.bind_eq_some_iff.mp h
  exact (Option.guard_eq_some' u).mp hguard

section
variable {S : InitContext} {Store : Type}
  {verifyPassword : Store → (username password : String) → (now : Nat) → Store × Except ServerError Bool}
  {order : Nat → LockoutOrder} {wallSecs : Nat → Nat}

/-- The policy lets an init in: its level, a fresh random, no lockout and the right password. -/
structure Permitted (run : PolicyRun (S.guarded Store verifyPassword order wallSecs)) (ttl now : Nat)
    (addr : SocketAddr) (packet : Bytes) (init : HandshakeInit) : Prop where
  opened : S.openInit packet = some init
  inner : S.minSecurityLevel.asU8 ≤ init.securityLevel.asU8
  outer : ∀ header e, PacketHeader.decode packet = .ok header → header.msgType = .encryptedHandshakeInit →
    EncryptedHandshakeInit.fromBytes (packet.drop headerSize) = .ok e →
    S.minSecurityLevel.asU8 ≤ e.securityLevel.asU8
  fresh : ∀ t, (init.clientRandom, t) ∈ run.accepted → ttl ≤ now - t
  login : ∃ (tracker : AuthLockoutTracker) (store : Store), run.server.userStore = some (tracker, store) ∧
    ∃ keypair blob creds, S.kemKeypairFor init.securityLevel = some keypair ∧ init.credentials = some blob ∧
      blob.decrypt S.P keypair.1 = .ok creds ∧ tracker.Free creds.username addr.ip (wallSecs now) ∧
      (verifyPassword store creds.username creds.password now).2 = .ok true

theorem PolicyRun.Sound.permitted {ttl : Nat} {run : PolicyRun (S.guarded Store verifyPassword order wallSecs)}
    (h : run.Sound ttl) {packet : Bytes} {addr : SocketAddr} {o : InitOccasion} (hle : run.clock ≤ o.instant)
    {init : HandshakeInit} (hadmits : run.server.admits packet addr o = some init) :
    Permitted run ttl o.instant addr packet init := by
  obtain ⟨hopen, hlevel, hfresh, haccepted⟩ := VpnServer.admits_eq_some.mp hadmits
  refine ⟨hopen, InitContext.securityLevelAccepted_iff.mp hlevel, ?_, ?_, ?_⟩
  · intro header e hheader htype he
    exact InitContext.securityLevelAccepted_iff.mp (InitContext.outer_of_openInit hopen hheader htype he)
  · intro t hmem
    rw [← h.ttl]
    exact h.replay.expired_of_fresh hle hfresh hmem
  · obtain ⟨⟨tracker, store⟩, hstore⟩ := Option.isSome_iff_exists.mp h.store
    rw [hstore] at haccepted
    obtain ⟨keypair, blob, creds, hkeypair, hblob, hdecrypt, hunlocked, hverify⟩ :=
      InitContext.checkCredentials_accepted haccepted
    refine ⟨tracker, store, hstore, keypair, blob, creds, hkeypair, hblob, hdecrypt, ?_, hverify⟩
    rw [← AuthLockoutTracker.checkLockout_eq_none]
    exact Option.not_isSome_iff_eq_none.mp (ne_true_of_eq_false hunlocked)

/-- A session that the next datagram creates belongs to an init that meets the policy, and records its level. -/
theorem created_sessions_permitted (start : ControlServer (S.guarded Store verifyPassword order wallSecs))
    (hstore : start.userStore.isSome = true) (ttl maxEntries : Nat)
    (hreplay : start.handshakeReplay = .withParams ttl maxEntries) (config : ReassemblerConfig)
    (hreassembly : start.fragmentReassembly = .new config) (clock : Nat) (arrivals : List HandshakeArrival)
    (a : HandshakeArrival) :
    ∃ run run', exec (unlessFailed PolicyRun.step) (.ok ⟨start, clock, []⟩) arrivals = .ok run ∧
      run.step a = .ok run' ∧
      ∀ k c, run'.server.sessions.sessions.lookup k = some c → run.server.sessions.sessions.lookup k ≠ some c →
        ∃ server packet init,
          run.server.collect a.ctrl (run.clock + a.elapsed) a.order = .ok (server, some packet) ∧
          Permitted run ttl (run.clock + a.elapsed) a.ctrl.addr packet init ∧
          c.securityLevel = init.securityLevel := by
  have hstart : PolicyRun.Sound ttl ⟨start, clock, []⟩ := by
    refine ⟨?_, HandshakeReplayCache.remembers_nil _ _, ?_, hstore⟩
    · rw [hreassembly]
      exact Reassembly.sound_new config
    · rw [hreplay]
      rfl
  obtain ⟨run, hrun, hsound⟩ := exec_ok_invariant PolicyRun.Sound.step arrivals _ hstart
  obtain ⟨server, hsame, -, hstep | ⟨packet, hcollect, hstep⟩⟩ := hsound.step_cases a
  · refine ⟨run, _, hrun, hstep, ?_⟩
    intro k c hafter hbefore
    rw [hsame] at hafter
    exact absurd hafter hbefore
  · refine ⟨run, _, hrun, hstep, ?_⟩
    intro k c hafter hbefore
    rw [← hsame] at hbefore
    replace hafter : (server.toVpnServer.handleHandshakeInitInternalPrechecked packet a.ctrl.addr
      { a.occasion with instant := run.clock + a.elapsed }).1.sessions.sessions.lookup k = some c := hafter
    have hsessions := congrArg Prod.fst (server.toVpnServer.handleHandshakeInit_eq packet a.ctrl.addr
      { a.occasion with instant := run.clock + a.elapsed })
    dsimp only at hsessions
    rw [hsessions] at hafter
    cases hadmits : server.admits packet a.ctrl.addr { a.occasion with instant := run.clock + a.elapsed } with
    | none =>
      rw [hadmits] at hafter
      exact absurd hafter hbefore
    | some init =>
      rw [hadmits] at hafter
      rcases SessionManager.lookup_establish hafter with hold | ⟨-, ip, ip6, keys, rfl⟩
      · exact absurd hold hbefore
      · rw [hsame] at hadmits
        exact ⟨server, packet, init, hcollect, hsound.permitted (Nat.le_add_right _ _) hadmits, rfl⟩

end

namespace PolicySample

def verifyPassword : Unit → (username password : String) → (now : Nat) → Unit × Except ServerError Bool :=
  fun _ username password _ => ((), .ok (username == "alice" && password == "secret"))

abbrev context : InitContext :=
  BindingSample.context.guarded Unit verifyPassword (fun _ => ⟨.first, .first, .first⟩) fun _ => 0

def start : ControlServer context where
  sessions := .new (ipv4 10 0 0 0) 24 (ipv4 10 0 0 1) 60000 10
  handshakeReplay := .new
  userStore := some (.withProductionDefaults, ())
  rateLimiter := .new 0
  fragmentReassembly := .new .serverDefault

def arrival : HandshakeArrival where
  ctrl := .handshakeInit ((PacketHeader.new .handshakeInit 0 0 0).toBytes ++ BindingSample.sent.init.toBytes)
    ForeignSample.home
  elapsed := 7
  occasion := InitSample.occasion
  order := .first

def recorded (r : Except ReassemblyPanic (PolicyRun context)) : Option SecurityLevel :=
  r.toOption.bind fun run => (run.server.sessions.sessions.lookup 42).map (·.securityLevel)

theorem created_sessions_permitted_alice :
    ∃ run run', exec (unlessFailed PolicyRun.step) (.ok ⟨start, 0, []⟩) [] = .ok run ∧ run.step arrival = .ok run' ∧
      ∃ c server packet init, run'.server.sessions.sessions.lookup 42 = some c ∧
        run.server.collect arrival.ctrl (run.clock + arrival.elapsed) arrival.order = .ok (server, some packet) ∧
        Permitted run HandshakeReplayCache.defaultTtl (run.clock + arrival.elapsed) ForeignSample.home packet init ∧
        c.securityLevel = .level3 ∧ init.securityLevel = .level3 := by
  obtain ⟨run, run', hrun, hstep, hpolicy⟩ := created_sessions_permitted start rfl HandshakeReplayCache.defaultTtl
    HandshakeReplayCache.defaultMaxEntries rfl .serverDefault rfl 0 [] arrival
  obtain rfl := Except.ok.inj hrun
  have hrecorded : recorded (PolicyRun.step ⟨start, 0, []⟩ arrival) = some .level3 := by decide +kernel
  rw [hstep] at hrecorded
  obtain ⟨c, hc, hlevel⟩ := Option.map_eq_some_iff.mp hrecorded
  obtain ⟨server, packet, init, hcollect, hpermitted, hsame⟩ := hpolicy 42 c hc (fun hbefore => by cases hbefore)
  exact ⟨_, run', hrun, hstep, c, server, packet, init, hc, hcollect, hpermitted, hlevel, hsame.symm.trans hlevel⟩

end PolicySample

end HpnVpn
