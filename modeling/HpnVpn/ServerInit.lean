import HpnVpn.Fragment
import HpnVpn.HandshakeReplay
import HpnVpn.SealedMessages
import HpnVpn.ServerHandlers

/-! The server's handler for inits: it opens the init, drops repeated ones, checks credentials, creates the session
and queues the response. -/
namespace HpnVpn
open Wire Tables

/-! ### Authentication -/

/-- The user store with its Argon2 hashes, and the tracker of failed logins in front of it. -/
structure AuthBackend where
  State : Type
  checkLockout : State → (username : String) → IpAddr → (now : Nat) → Bool
  verifyPassword : State → (username password : String) → (now : Nat) → State × Except ServerError Bool
  recordSuccess : State → (username : String) → IpAddr → State
  recordFailure : State → (username : String) → IpAddr → (now : Nat) → State

/-- A store error refuses the login but does not count as a failed one. -/
def AuthBackend.authenticateCredentials (B : AuthBackend) (store : B.State) (username password : String)
    (addr : SocketAddr) (now : Nat) : B.State × Bool :=
  if B.checkLockout store username addr.ip now then (store, false)
  else
    match B.verifyPassword store username password now with
    | (store, .ok true) => (B.recordSuccess store username addr.ip, true)
    | (store, .ok false) => (B.recordFailure store username addr.ip now, false)
    | (store, .error _) => (store, false)

theorem AuthBackend.authenticateCredentials_accepted {B : AuthBackend} {store : B.State}
    {username password : String} {addr : SocketAddr} {now : Nat}
    (h : (B.authenticateCredentials store username password addr now).2 = true) :
    B.checkLockout store username addr.ip now = false ∧
      (B.verifyPassword store username password now).2 = .ok true := by
  unfold authenticateCredentials at h
  split at h
  · cases h
  · rename_i hlocked
    refine ⟨Bool.eq_false_of_not_eq_true hlocked, ?_⟩
    split at h
    case h_1 store' hverify => rw [hverify]
    case h_2 => cases h
    case h_3 => cases h

/-! ### The server -/

/-- The settings the handler reads.  A KEM key pair is one that was generated for its level. -/
structure InitContext extends ServerContext where
  kemKeypairFor : SecurityLevel → Option (HybridSecretKey × HybridPublicKey)
  kemKeypair_generated : ∀ {level keypair}, kemKeypairFor level = some keypair →
    ∃ seed, keypair = HybridKem.generateKeypairWithLevel P level seed
  minSecurityLevel : SecurityLevel
  dnsServers : List (Block 4)
  dnsServersV6 : List (Block 16)
  mtu : UInt16
  backend : AuthBackend

/-- What handling an init draws and meets: the clocks, randomness, the released address the pool returns, and the room
in the outbound queue. -/
structure InitOccasion where
  now : UInt64
  instant : Nat
  sessionId : SessionId
  draws : ServerHandshake.Draws
  signCoins : Block 32
  fragId : UInt32
  picker : Picker Nat
  pickerV6 : Picker Nat
  queueRoom : Nat

/-- Without a user store no credentials are asked for. -/
structure VpnServer (S : InitContext) where
  sessions : SessionManager
  handshakeReplay : HandshakeReplayCache
  userStore : Option S.backend.State

variable (S : InitContext)

def InitContext.securityLevelAccepted (proposed : SecurityLevel) : Bool :=
  match S.minSecurityLevel, proposed with
  | .level3, _ => true
  | .level5, .level5 => true
  | .level5, .level3 => false

/-- The init inside an identity-hiding one; the level is checked before any decapsulation is done. -/
def InitContext.openHidden (payload : Bytes) : Option HandshakeInit := do
  let e ← (EncryptedHandshakeInit.fromBytes payload).toOption
  guard (S.securityLevelAccepted e.securityLevel)
  let keypair ← S.kemKeypairFor e.securityLevel
  (e.decrypt S.P keypair.1).toOption

def InitContext.openInit (data : Bytes) : Option HandshakeInit :=
  match PacketHeader.decode data with
  | .error _ => none
  | .ok header =>
    match header.msgType with
    | .encryptedHandshakeInit => S.openHidden (data.drop headerSize)
    | .handshakeInit => (HandshakeInit.fromBytes (data.drop headerSize)).toOption
    | _ => none

def InitContext.checkCredentials (userStore : Option S.backend.State)
    (init : HandshakeInit) (addr : SocketAddr) (now : Nat) : Option S.backend.State × Bool :=
  match userStore with
  | none => (none, true)
  | some store =>
    match S.kemKeypairFor init.securityLevel with
    | none => (some store, false)
    | some keypair =>
      match init.credentials with
      | none => (some store, false)
      | some encryptedCreds =>
        match encryptedCreds.decrypt S.P keypair.1 with
        | .error _ => (some store, false)
        | .ok creds =>
          let (store, accepted) :=
            S.backend.authenticateCredentials store creds.username creds.password addr now
          (some store, accepted)

namespace InitContext
variable {S : InitContext} {init : HandshakeInit} {addr : SocketAddr} {now : Nat}

theorem isSome_checkCredentials (S : InitContext) {userStore : Option S.backend.State} :
    (S.checkCredentials userStore init addr now).1.isSome = userStore.isSome := by
  unfold checkCredentials
  split
  · rfl
  · split
    · rfl
    · split
      · rfl
      · split <;> rfl

theorem checkCredentials_accepted {store : S.backend.State}
    (h : (S.checkCredentials (some store) init addr now).2 = true) :
    ∃ keypair blob creds, S.kemKeypairFor init.securityLevel = some keypair ∧
      init.credentials = some blob ∧ blob.decrypt S.P keypair.1 = .ok creds ∧
      S.backend.checkLockout store creds.username addr.ip now = false ∧
      (S.backend.verifyPassword store creds.username creds.password now).2 = .ok true := by
  unfold checkCredentials at h
  dsimp only at h
  split at h
  · cases h
  · next keypair hkeypair =>
      split at h
      · cases h
      · next blob hblob =>
          split at h
          · cases h
          · next creds hcreds =>
              exact ⟨keypair, blob, creds, hkeypair, hblob, hcreds, AuthBackend.authenticateCredentials_accepted h⟩

theorem openInit_packet {header : PacketHeader} (hwf : header.WellFormed) (hsize : header.timestamp = none)
    (body : Bytes) :
    S.openInit (header.toBytes ++ body) =
      match header.msgType with
      | .encryptedHandshakeInit => S.openHidden body
      | .handshakeInit => (HandshakeInit.fromBytes body).toOption
      | _ => none := by
  have hdrop : (header.toBytes ++ body).drop headerSize = body := by
    apply List.drop_left'
    rw [PacketHeader.toBytes_length, PacketHeader.encodedSize, hsize]
    rfl
  rw [openInit, PacketHeader.decode_toBytes hwf, hdrop]

theorem openHidden_toBytes {e : EncryptedHandshakeInit} (h : tagSize ≤ e.encryptedPayload.length)
    (hopen : S.openHidden e.toBytes = some init) :
    ∃ keypair, S.kemKeypairFor e.securityLevel = some keypair ∧ e.decrypt S.P keypair.1 = .ok init := by
  rw [openHidden, EncryptedHandshakeInit.fromBytes_toBytes h] at hopen
  obtain ⟨e', he', hopen⟩ := Option.bind_eq_some_iff.mp hopen
  obtain rfl := Option.some.inj he'
  obtain ⟨-, -, hopen⟩ := Option.bind_eq_some_iff.mp hopen
  obtain ⟨keypair, hkeypair, hdecrypt⟩ := Option.bind_eq_some_iff.mp hopen
  exact ⟨keypair, hkeypair, toOption_eq_some.mp hdecrypt⟩

end InitContext

/-- One datagram, or fragments with a session id of zero if the response is too long for one. -/
def encodeHandshakeResponseAsPackets (response : HandshakeResponse) (sessionId : SessionId)
    (fragId : UInt32) : Except ServerError (List Bytes) := do
  let payload := response.toBytes
  if payload.length ≤ fragmentationThreshold then
    return [(PacketHeader.new .handshakeResponse sessionId 0 0).toBytes ++ payload]
  else
    let bodies ← (buildHandshakeFragments .handshakeResponse fragId payload).mapError fun e =>
      ServerError.protocol (.invalidData s!"failed to fragment handshake response: {e.display}")
    return bodies.map fun body => (PacketHeader.new .handshakeFragment 0 0 0).toBytes ++ body

namespace SessionManager
variable (m : SessionManager) (init : HandshakeInit)

def initialConfig : TunnelConfig where
  clientIpv4 := Block.replicate 4 0
  netmaskIpv4 := m.netmask
  gatewayIpv4 := m.serverIp
  dnsIpv4 := S.dnsServers
  clientIpv6 := none
  prefixLenIpv6 := m.ipv6Prefix
  gatewayIpv6 := m.serverIpv6
  dnsIpv6 := S.dnsServersV6
  mtu := S.mtu

/-- The response and keys for an init, before the session has its addresses. -/
def answer (o : InitOccasion) : Except ProtocolError (HandshakeResponse × SessionKeys) :=
  ServerHandshake.processInit S.P ⟨S.keypairFor init.securityLevel, none⟩ init o.sessionId (m.initialConfig S) o.draws

/-- Sign the response anew with the addresses in it and queue it.  A session whose response could not be signed or
queued whole is removed again. -/
def deliver (addr : SocketAddr) (o : InitOccasion) (response : HandshakeResponse) (keys : SessionKeys)
    (ip : Block 4) (ip6 : Option (Block 16)) : SessionManager × List OutboundResponse :=
  match refreshHandshakeResponseAuth S.P
      { response with config := { response.config with clientIpv4 := ip, clientIpv6 := ip6 } } init.clientRandom
      init.securityLevel (S.keypairFor init.securityLevel) keys.sendKey o.signCoins with
  | .error _ => ((m.removeSession o.sessionId).1, [])
  | .ok response =>
    match encodeHandshakeResponseAsPackets response o.sessionId o.fragId with
    -- here the session stays in the table
    | .error _ => (m, [])
    | .ok packets =>
      let queued := packets.take o.queueRoom
      (if queued.length = packets.length then m else (m.removeSession o.sessionId).1,
        queued.map fun packet => ⟨addr, packet⟩)

def establish (addr : SocketAddr) (o : InitOccasion) : SessionManager × List OutboundResponse :=
  match m.answer S init o with
  | .error _ => (m, [])
  | .ok (response, keys) =>
    match m.createSessionDualStackWithLevel o.picker o.pickerV6 (Session.new o.sessionId keys (millis o.now))
        addr init.securityLevel o.now with
    | (m, .error _) => (m, [])
    | (m, .ok (ip, ip6)) => m.deliver S init addr o response keys ip ip6

end SessionManager

namespace VpnServer
variable {S : InitContext}

variable (server : VpnServer S) (data : Bytes) (addr : SocketAddr) (o : InitOccasion)

/-- A handshake init, once the per-address rate limit was charged for it. -/
def handleHandshakeInitInternalPrechecked (data : Bytes) (addr : SocketAddr)
    (o : InitOccasion) : VpnServer S × List OutboundResponse :=
  match S.openInit data with
  | none => (server, [])
  | some init =>
    if S.securityLevelAccepted init.securityLevel = false then (server, [])
    else
      let (handshakeReplay, fresh) := server.handshakeReplay.checkAndInsert init.clientRandom o.instant
      if fresh = false then ({ server with handshakeReplay }, [])
      else
        let (userStore, accepted) := S.checkCredentials server.userStore init addr o.instant
        if accepted = false then ({ server with handshakeReplay, userStore }, [])
        else
          let (sessions, responses) := server.sessions.establish S init addr o
          (⟨sessions, handshakeReplay, userStore⟩, responses)

theorem sessions_handleHandshakeInit :
    (server.handleHandshakeInitInternalPrechecked data addr o).1.sessions = server.sessions ∨
      ∃ init, S.openInit data = some init ∧ (S.checkCredentials server.userStore init addr o.instant).2 = true := by
  unfold handleHandshakeInitInternalPrechecked
  split
  · exact .inl rfl
  · next init hopen =>
      dsimp only
      split
      · exact .inl rfl
      · split
        · exact .inl rfl
        · split
          · exact .inl rfl
          · next haccepted => exact .inr ⟨init, hopen, Bool.eq_true_of_not_eq_false haccepted⟩

theorem isSome_userStore_handleHandshakeInit :
    (server.handleHandshakeInitInternalPrechecked data addr o).1.userStore.isSome = server.userStore.isSome := by
  unfold handleHandshakeInitInternalPrechecked
  split
  · rfl
  · dsimp only
    split
    · rfl
    · split
      · rfl
      · split
        all_goals exact S.isSome_checkCredentials

end VpnServer

/-! An init without credentials and what a server draws for it. -/

namespace InitSample

def init : HandshakeInit where
  clientEphemeralPk := ⟨.level3, Block.replicate 32 8, Block.replicate _ 8⟩
  clientRandom := Block.replicate 32 9
  securityLevel := .level3
  credentials := none

def occasion : InitOccasion where
  now := 5000000
  instant := 0
  sessionId := 42
  draws := ⟨Block.replicate 32 4, ⟨Block.replicate 32 5, Block.replicate 32 6⟩, Block.replicate 32 8, 0⟩
  signCoins := Block.replicate 32 0
  fragId := 1
  picker := .least
  pickerV6 := .least
  queueRoom := 100

end InitSample

end HpnVpn
