import HpnVpn.ServerConfig
import HpnVpn.ServerInit

/-! A handshake init is meant to be all or nothing.  The handler undoes a session it could not sign or queue a
response for, but not one whose response is too long for fragments, and undoing frees no address that wrapped around.
-/
namespace HpnVpn
open Wire Tables IpAllocator SessionManager

namespace SessionManager

/-! ### What every reachable manager keeps -/

/-- The managers a server can come to; the tunnel addresses of its sessions stay. -/
inductive Reachable : SessionManager → Prop
  | start {base : Block 4} {prefixLen : UInt8} {m : SessionManager} : IsNew base prefixLen m → Reachable m
  | create {m : SessionManager} (picker pickerV6 : Picker Nat) (session : Session) (clientAddr : SocketAddr)
      (level : SecurityLevel) (now : UInt64) : Reachable m →
      Reachable (m.createSessionDualStackWithLevel picker pickerV6 session clientAddr level now).1
  | remove {m : SessionManager} (sessionId : SessionId) : Reachable m → Reachable (m.removeSession sessionId).1
  | work {m : SessionManager} {β : Type} (sessionId : SessionId) (f : ClientSession → ClientSession × β)
      (absent : β) : (∀ c, (f c).1.tunnelIp = c.tunnelIp ∧ (f c).1.tunnelIpv6 = c.tunnelIpv6) → Reachable m →
      Reachable (m.onSession sessionId f absent).1

structure Ledger (m : SessionManager) : Prop where
  ipSound : m.ipAllocator.Sound
  ipv6Sound : ∀ {a}, m.ipv6Allocator = some a → a.Sound
  ip : ∀ {k c}, m.sessions.lookup k = some c → c.tunnelIp ∈ m.ipAllocator.handedOut
  ipv6 : ∀ {k c ip}, m.sessions.lookup k = some c → c.tunnelIpv6 = some ip →
    ∃ a, m.ipv6Allocator = some a ∧ ip ∈ a.handedOut

variable {m : SessionManager}

theorem IsNew.ledger {base : Block 4} {prefixLen : UInt8} (h : IsNew base prefixLen m) : m.Ledger := by
  cases h with
  | ipv4 => exact ⟨sound_new .., nofun, nofun, nofun⟩
  | dualStack =>
    refine ⟨sound_new .., ?_, nofun, nofun⟩
    intro a ha
    cases ha
    exact Ipv6Allocator.sound_new ..

theorem Ledger.releaseV6 (h : m.Ledger) {k : SessionId} {c : ClientSession} (hc : m.sessions.lookup k = some c) :
    let after := match c.tunnelIpv6 with
      | some ip => m.ipv6Allocator.map (·.release ip)
      | none => m.ipv6Allocator
    (∀ {a}, after = some a → a.Sound) ∧
      ∀ {a ip}, m.ipv6Allocator = some a → ip ∈ a.handedOut → ∃ a', after = some a' ∧ ip ∈ a'.handedOut := by
  cases hv6 : c.tunnelIpv6 with
  | none => exact ⟨h.ipv6Sound, fun ha hip => ⟨_, ha, hip⟩⟩
  | some own =>
    obtain ⟨a, ha, hown⟩ := h.ipv6 hc hv6
    rw [ha]
    constructor
    · intro a' ha'
      obtain rfl := Option.some.inj ha'
      exact Ipv6Allocator.release_handedOut (h.ipv6Sound ha) hown
    · intro b ip hb hip
      cases hb
      exact ⟨_, rfl, (Ipv6Allocator.handedOut_release ..).symm ▸ hip⟩

variable {a6 : Option Ipv6Allocator}

theorem Ledger.withPools (h : m.Ledger) {a : IpAllocator} (hsound : a.Sound)
    (hkept : m.ipAllocator.handedOut ⊆ a.handedOut) (hsoundV6 : ∀ {b}, a6 = some b → b.Sound)
    (hkeptV6 : ∀ {b ip}, m.ipv6Allocator = some b → ip ∈ b.handedOut → ∃ b', a6 = some b' ∧ ip ∈ b'.handedOut) :
    ({ m with ipAllocator := a, ipv6Allocator := a6 } : SessionManager).Ledger where
  ipSound := hsound
  ipv6Sound := hsoundV6
  ip hc := hkept (h.ip hc)
  ipv6 hc hip := by
    obtain ⟨b, hb, hmem⟩ := h.ipv6 hc hip
    exact hkeptV6 hb hmem

theorem Ledger.removeSession (h : m.Ledger) (sessionId : SessionId) : (m.removeSession sessionId).1.Ledger := by
  have hlookup : ∀ {k c}, (m.removeSession sessionId).1.sessions.lookup k = some c → m.sessions.lookup k = some c := by
    intro k c hk
    rw [lookup_removeSession] at hk
    exact (Option.ite_none_left_eq_some.mp hk).2
  unfold SessionManager.removeSession at hlookup ⊢
  cases hc : m.sessions.lookup sessionId with
  | none => exact h
  | some c =>
    simp only [hc] at hlookup
    obtain ⟨hsoundV6, hkeptV6⟩ := h.releaseV6 hc
    refine ⟨release_handedOut h.ipSound (h.ip hc), hsoundV6, ?_, ?_⟩
    · intro k c' hk
      exact (handedOut_release ..).symm ▸ h.ip (hlookup hk)
    · intro k c' ip hk hip
      obtain ⟨a, ha, hmem⟩ := h.ipv6 (hlookup hk) hip
      exact hkeptV6 ha hmem

def allocateV6 (m : SessionManager) (pickerV6 : Picker Nat) : Option Ipv6Allocator × Option (Option (Block 16)) :=
  match m.ipv6Allocator with
  | none => (none, some none)
  | some a => (some (a.allocate pickerV6).1, (a.allocate pickerV6).2.map some)

def ipFor (m : SessionManager) (picker : Picker Nat) : Option (Block 4) :=
  if m.maxSessions ≤ m.sessionCount then none else (m.ipAllocator.allocate picker).2

def ipv6For (m : SessionManager) (pickerV6 : Picker Nat) : Option (Option (Block 16)) := (m.allocateV6 pickerV6).2

inductive Creation (m : SessionManager) (picker pickerV6 : Picker Nat) (session : Session) (clientAddr : SocketAddr)
    (level : SecurityLevel) (now : UInt64) : SessionManager × Except ServerError (Block 4 × Option (Block 16)) → Prop
  | refused (e : ServerError) : m.ipFor picker = none →
      Creation m picker pickerV6 session clientAddr level now (m, .error e)
  | returned (a : IpAllocator) (ip : Block 4) (e : ServerError) : m.ipFor picker = some ip →
      m.ipAllocator.allocate picker = (a, some ip) → m.ipv6For pickerV6 = none →
      Creation m picker pickerV6 session clientAddr level now ({ m with ipAllocator := a.release ip }, .error e)
  | entered (a : IpAllocator) (ip : Block 4) (a6 : Option Ipv6Allocator) (ip6 : Option (Block 16)) :
      m.ipFor picker = some ip → m.ipAllocator.allocate picker = (a, some ip) →
      m.allocateV6 pickerV6 = (a6, some ip6) →
      Creation m picker pickerV6 session clientAddr level now
        (({ m with ipAllocator := a, ipv6Allocator := a6 } : SessionManager).insertSession session clientAddr ip
          ip6 level now, .ok (ip, ip6))

theorem Ledger.creation (h : m.Ledger) (picker pickerV6 : Picker Nat) {session : Session}
    (hfresh : m.sessions.lookup session.sessionId = none) (clientAddr : SocketAddr) (level : SecurityLevel)
    (now : UInt64) :
    Creation m picker pickerV6 session clientAddr level now
      (m.createSessionDualStackWithLevel picker pickerV6 session clientAddr level now) := by
  have hremoved : (m.removeSession session.sessionId).1 = m := by rw [SessionManager.removeSession, hfresh]
  unfold createSessionDualStackWithLevel
  rw [hremoved]
  by_cases hfull : m.maxSessions ≤ m.sessionCount
  · rw [if_pos hfull]
    exact .refused _ (if_pos hfull)
  rw [if_neg hfull]
  rcases hip : m.ipAllocator.allocate picker with ⟨a, _ | ip⟩
  · obtain rfl := allocate_none hip
    refine .refused _ ?_
    rw [ipFor, if_neg hfull, hip]
  have hfor : m.ipFor picker = some ip := by rw [ipFor, if_neg hfull, hip]
  have hentered := @Creation.entered m picker pickerV6 session clientAddr level now a ip
  cases hv6 : m.ipv6Allocator with
  | none => exact hentered none none hfor hip (by rw [allocateV6, hv6])
  | some a6 =>
    dsimp only [Option.map_some]
    have hallocV6 : m.allocateV6 pickerV6 = (some (a6.allocate pickerV6).1, (a6.allocate pickerV6).2.map some) := by
      rw [allocateV6, hv6]
    rcases hip6 : a6.allocate pickerV6 with ⟨a6', _ | ip6⟩
    · obtain rfl := Ipv6Allocator.allocate_none (h.ipv6Sound hv6) hip6
      have hreturned := @Creation.returned m picker pickerV6 session clientAddr level now a ip
      rw [hv6] at hreturned
      exact hreturned _ hfor hip (by rw [ipv6For, hallocV6, hip6]; rfl)
    · rw [hip6] at hallocV6
      exact hentered (some a6') (some ip6) hfor hip hallocV6

theorem Ledger.allocateV6 (h : m.Ledger) {pickerV6 : Picker Nat} {ip6 : Option (Block 16)}
    (halloc : m.allocateV6 pickerV6 = (a6, some ip6)) :
    (∀ {b}, a6 = some b → b.Sound) ∧
      (∀ {b ip}, m.ipv6Allocator = some b → ip ∈ b.handedOut → ∃ b', a6 = some b' ∧ ip ∈ b'.handedOut) ∧
      ∀ {ip}, ip6 = some ip → ∃ b, a6 = some b ∧ ip ∈ b.handedOut := by
  unfold SessionManager.allocateV6 at halloc
  split at halloc
  · rename_i hnone
    cases halloc
    exact ⟨nofun, fun hb => absurd (hnone.symm.trans hb) nofun, nofun⟩
  · rename_i a ha
    obtain ⟨rfl, hip6⟩ := Prod.mk.inj halloc
    obtain ⟨ip, hip, rfl⟩ := Option.map_eq_some_iff.mp hip6
    have heq : a.allocate pickerV6 = ((a.allocate pickerV6).1, some ip) := Prod.ext rfl hip
    obtain ⟨hkept, hnew⟩ := Ipv6Allocator.handedOut_allocate (h.ipv6Sound ha) heq
    refine ⟨?_, ?_, ?_⟩
    · intro b hb
      cases hb
      exact Ipv6Allocator.sound_allocate (h.ipv6Sound ha) pickerV6
    · intro b ip hb hmem
      cases ha.symm.trans hb
      exact ⟨_, rfl, hkept hmem⟩
    · intro ip' hip'
      obtain rfl := Option.some.inj hip'
      exact ⟨_, rfl, hnew⟩

theorem Ledger.createSession (h : m.Ledger) (picker pickerV6 : Picker Nat) (session : Session)
    (clientAddr : SocketAddr) (level : SecurityLevel) (now : UInt64) :
    (m.createSessionDualStackWithLevel picker pickerV6 session clientAddr level now).1.Ledger := by
  -- the removal of the old session can be done beforehand
  have hnone : (m.removeSession session.sessionId).1.sessions.lookup session.sessionId = none := by
    rw [lookup_removeSession, if_pos rfl]
  have hagain : ((m.removeSession session.sessionId).1.removeSession session.sessionId).1 =
      (m.removeSession session.sessionId).1 := by
    rw [SessionManager.removeSession, hnone]
  have hremoved := h.removeSession session.sessionId
  have hcreation := hremoved.creation picker pickerV6 hnone clientAddr level now
  rw [createSessionDualStackWithLevel, hagain] at hcreation
  rw [createSessionDualStackWithLevel]
  generalize (m.removeSession session.sessionId).1 = m' at *
  generalize hr : (if m'.maxSessions ≤ m'.sessionCount then _ else _ : SessionManager × Except _ _) = r at *
  cases hcreation with
  | refused => exact hremoved
  | returned a ip e hfor halloc =>
    have hsound := sound_allocate hremoved.ipSound picker
    rw [halloc] at hsound
    obtain ⟨hkept, hnew⟩ := handedOut_allocate hremoved.ipSound halloc
    refine hremoved.withPools (release_handedOut hsound hnew) ?_ hremoved.ipv6Sound
      fun hb hmem => ⟨_, hb, hmem⟩
    rwa [handedOut_release]
  | entered a ip a6 ip6 hfor halloc halloc6 =>
    have hsound := sound_allocate hremoved.ipSound picker
    rw [halloc] at hsound
    obtain ⟨hkept, hnew⟩ := handedOut_allocate hremoved.ipSound halloc
    obtain ⟨hsoundV6, hkeptV6, hnewV6⟩ := hremoved.allocateV6 halloc6
    have hpools := hremoved.withPools hsound hkept hsoundV6 hkeptV6
    refine ⟨hsound, hsoundV6, ?_, ?_⟩
    · intro k c hc
      rw [lookup_insertSession] at hc
      split at hc
      · cases hc
        exact hnew
      · exact hpools.ip hc
    · intro k c ip' hc hip'
      rw [lookup_insertSession] at hc
      split at hc
      · cases hc
        exact hnewV6 hip'
      · exact hpools.ipv6 hc hip'

theorem Ledger.onSession (h : m.Ledger) {β : Type} (sessionId : SessionId)
    {f : ClientSession → ClientSession × β} (absent : β)
    (hf : ∀ c, (f c).1.tunnelIp = c.tunnelIp ∧ (f c).1.tunnelIpv6 = c.tunnelIpv6) :
    (m.onSession sessionId f absent).1.Ledger := by
  have hlookup : ∀ {k c}, (m.onSession sessionId f absent).1.sessions.lookup k = some c →
      ∃ c', m.sessions.lookup k = some c' ∧ c.tunnelIp = c'.tunnelIp ∧ c.tunnelIpv6 = c'.tunnelIpv6 := by
    intro k c hc
    rw [lookup_onSession] at hc
    split at hc
    · rename_i hk
      obtain ⟨c', hc', rfl⟩ := Option.map_eq_some_iff.mp hc
      exact ⟨c', hk ▸ hc', hf c'⟩
    · exact ⟨c, hc, rfl, rfl⟩
  refine ⟨h.ipSound, h.ipv6Sound, ?_, ?_⟩
  · intro k c hc
    obtain ⟨c', hc', hip, -⟩ := hlookup hc
    exact hip ▸ h.ip hc'
  · intro k c ip hc hip
    obtain ⟨c', hc', -, hip'⟩ := hlookup hc
    exact h.ipv6 hc' (hip'.symm.trans hip)

theorem Reachable.ledger (h : m.Reachable) : m.Ledger := by
  induction h with
  | start hnew => exact hnew.ledger
  | create picker pickerV6 session clientAddr level now _ ih =>
    exact ih.createSession picker pickerV6 session clientAddr level now
  | remove sessionId _ ih => exact ih.removeSession sessionId
  | work sessionId f absent hf _ ih => exact ih.onSession sessionId absent hf

end SessionManager

/-! ### The length of a response -/

def maxFragmentedLength : Nat := maxFragmentsPerHandshake * maxFragmentPayload

def packetCount (length : Nat) : Nat :=
  if length ≤ fragmentationThreshold then 1 else (length + maxFragmentPayload - 1) / maxFragmentPayload

theorem packetCount_pos (length : Nat) : 0 < packetCount length := by
  unfold packetCount fragmentationThreshold maxFragmentPayload
  split
  · exact one_pos
  · omega

theorem encodeHandshakeResponseAsPackets_cases (response : HandshakeResponse) (sessionId : SessionId)
    (fragId : UInt32) :
    (maxFragmentedLength < response.toBytes.length ∧
        ∃ e, encodeHandshakeResponseAsPackets response sessionId fragId = .error e) ∨
      (response.toBytes.length ≤ maxFragmentedLength ∧
        ∃ packets, encodeHandshakeResponseAsPackets response sessionId fragId = .ok packets ∧
          packets.length = packetCount response.toBytes.length) := by
  have hne : response.toBytes ≠ [] := by
    apply List.ne_nil_of_length_pos
    rw [response.toBytes_length]
    omega
  unfold encodeHandshakeResponseAsPackets packetCount
  by_cases hshort : response.toBytes.length ≤ fragmentationThreshold
  · right
    refine ⟨hshort.trans (by decide), ?_⟩
    simp only [if_pos hshort]
    exact ⟨_, rfl, rfl⟩
  simp only [if_neg hshort]
  by_cases hfits : response.toBytes.length ≤ maxFragmentedLength
  · right
    refine ⟨hfits, ?_⟩
    have hfragments : Fragmentable .handshakeResponse response.toBytes := ⟨rfl, hne, hfits⟩
    rw [hfragments.buildHandshakeFragments_eq fragId]
    refine ⟨_, rfl, ?_⟩
    rw [List.length_map, List.length_map, List.length_range]
    rfl
  · left
    refine ⟨not_le.mp hfits, ?_⟩
    rw [buildHandshakeFragments_of_long rfl fragId (not_le.mp hfits)]
    exact ⟨_, rfl⟩

namespace InitContext

def Signs (S : InitContext) (level : SecurityLevel) : Prop :=
  (S.keypairFor level).secretKey.bytes.length = level.mldsaSecretKeySize

/-- The client's share is not of low order, and the server's key has the size of its own level. -/
structure Answers (S : InitContext) (init : HandshakeInit) (o : InitOccasion) : Prop where
  contributory : S.P.x25519.agree o.draws.encapsulate.x25519 init.clientEphemeralPk.x25519 ≠ Block.replicate 32 0
  secretKey : (S.keypairFor init.securityLevel).secretKey.bytes.length =
    (S.keypairFor init.securityLevel).securityLevel.mldsaSecretKeySize

end InitContext

namespace SessionManager

theorem answer_isOk {S : InitContext} {m : SessionManager} {init : HandshakeInit} {o : InitOccasion} :
    (∃ response keys, m.answer S init o = .ok (response, keys)) ↔ S.Answers init o := by
  unfold answer
  simp only [ServerHandshake.processInit_eq_ok]
  constructor
  · rintro ⟨response, keys, secret, ciphertext, signature, hencaps, hsign, -, -⟩
    exact ⟨HybridKem.encapsulate_isOk.mp ⟨secret, ciphertext, hencaps⟩, MlDsa.sign_isOk.mp ⟨signature, hsign⟩⟩
  · rintro ⟨hnonzero, hkey⟩
    obtain ⟨secret, ciphertext, hencaps⟩ := HybridKem.encapsulate_isOk.mpr hnonzero
    obtain ⟨signature, hsign⟩ := MlDsa.sign_isOk.mpr hkey
    exact ⟨_, _, secret, ciphertext, signature, hencaps, hsign, rfl, rfl⟩

def configLength (S : InitContext) (m : SessionManager) : Nat :=
  15 + 4 * S.dnsServers.length + if m.ipv6Allocator.isSome then 35 + 16 * S.dnsServersV6.length else 1

def responseLength (S : InitContext) (m : SessionManager) (init : HandshakeInit) : Nat :=
  8 + HybridPair.sizeForLevel SecurityLevel.mlkemCiphertextSize init.clientEphemeralPk.securityLevel +
    (S.keypairFor init.securityLevel).publicKey.bytes.length + init.securityLevel.mldsaSignatureSize + 32 + 4 +
    min (m.configLength S) (2 ^ 32 - 1) + 32 + 8

theorem ipv6Bytes_length (c : TunnelConfig) :
    c.ipv6Bytes.length = if c.clientIpv6.isSome then 35 + 16 * c.dnsIpv6.length else 1 := by
  unfold TunnelConfig.ipv6Bytes
  cases c.clientIpv6 with
  | none => rfl
  | some ip =>
    simp only [List.length_cons, List.length_append, Block.length_bytes, concat_length, Option.isSome_some, if_true]
    omega

variable {a6 : Option Ipv6Allocator} {ip6 : Option (Block 16)}

variable {pickerV6 : Picker Nat} {queued : List OutboundResponse} {sessionId : SessionId} {a : IpAllocator}

theorem isSome_allocateV6 {m : SessionManager} (h : m.allocateV6 pickerV6 = (a6, some ip6)) :
    ip6.isSome = m.ipv6Allocator.isSome := by
  unfold allocateV6 at h
  split at h
  · rename_i hnone
    cases h
    rw [hnone]
    rfl
  · rename_i a ha
    obtain ⟨ip, -, rfl⟩ := Option.map_eq_some_iff.mp (Prod.mk.inj h).2
    rw [ha]
    rfl

variable {ip : Block 4}

theorem refreshed_toBytes_length {S : InitContext} {m : SessionManager} {init : HandshakeInit} {o : InitOccasion}
    {response response' : HandshakeResponse} {keys : SessionKeys} (hok : m.answer S init o = .ok (response, keys))
     (hip6 : ip6.isSome = m.ipv6Allocator.isSome)
    (hrefresh : refreshHandshakeResponseAuth S.P
      { response with config := { response.config with clientIpv4 := ip, clientIpv6 := ip6 } } init.clientRandom
      init.securityLevel (S.keypairFor init.securityLevel) keys.sendKey o.signCoins = .ok response') :
    response'.toBytes.length = m.responseLength S init := by
  obtain ⟨secret, ciphertext, signature, hencaps, -, -, rfl⟩ := ServerHandshake.processInit_eq_ok.mp hok
  obtain ⟨signature', hsign, rfl⟩ := refreshHandshakeResponseAuth_eq_ok.mp hrefresh
  rw [HandshakeResponse.toBytes_length, responseLength]
  rw [HybridKem.encapsulate_level hencaps, MlDsa.sign_level hsign, TunnelConfig.toBytes_length, ipv6Bytes_length,
    configLength, ← hip6]
  dsimp only [initialConfig]
  omega

/-! ### All or nothing -/

structure Unchanged (m m' : SessionManager) : Prop where
  sessions : ∀ k, m'.sessions.lookup k = m.sessions.lookup k
  available : m'.ipAllocator.available = m.ipAllocator.available
  ipv6Available : m'.ipv6Available = m.ipv6Available

/-- One session was added, and every packet of a response with its addresses was queued. -/
def Completed (m m' : SessionManager) (addr : SocketAddr) (queued : List OutboundResponse) : Prop :=
  ∃ sessionId c, m.sessions.lookup sessionId = none ∧
    (∀ k, m'.sessions.lookup k = if k = sessionId then some c else m.sessions.lookup k) ∧
    ∃ response fragId packets, response.sessionId = sessionId ∧ response.config.clientIpv4 = c.tunnelIp ∧
      response.config.clientIpv6 = c.tunnelIpv6 ∧
      encodeHandshakeResponseAsPackets response sessionId fragId = .ok packets ∧
      queued = packets.map fun packet => ⟨addr, packet⟩

/-- Nothing changed, or the session is there and its whole response is queued. -/
def AllOrNothing (m m' : SessionManager) (addr : SocketAddr) (queued : List OutboundResponse) : Prop :=
  m.Unchanged m' ∨ m.Completed m' addr queued

variable {m' : SessionManager}

theorem allOrNothing_of_sessions {m : SessionManager} {addr : SocketAddr}
    (hsessions : ∀ k, m'.sessions.lookup k = m.sessions.lookup k) (hipv6 : m'.ipv6Available = m.ipv6Available) :
    m.AllOrNothing m' addr queued ↔ m'.ipAllocator.available = m.ipAllocator.available := by
  constructor
  · rintro (hsame | ⟨sessionId, c, hnone, hadded, -⟩)
    · exact hsame.available
    · have := hadded sessionId
      rw [hsessions, hnone, if_pos rfl] at this
      cases this
  · exact fun havailable => .inl ⟨hsessions, havailable, hipv6⟩

theorem not_allOrNothing_of_unqueued {m : SessionManager} {addr : SocketAddr}
    (hbefore : m.sessions.lookup sessionId = none) (hafter : m'.sessions.lookup sessionId ≠ none) :
    ¬m.AllOrNothing m' addr [] := by
  rintro (hsame | ⟨k, c, -, -, response, fragId, packets, -, -, -, hencode, hqueued⟩)
  · exact hafter ((hsame.sessions sessionId).trans hbefore)
  · obtain rfl := List.map_eq_nil_iff.mp hqueued.symm
    rcases encodeHandshakeResponseAsPackets_cases response k fragId with ⟨-, e, herr⟩ | ⟨-, packets, hok, hcount⟩
    · cases herr.symm.trans hencode
    · cases hok.symm.trans hencode
      exact absurd hcount (packetCount_pos _).ne

variable {c : ClientSession}

theorem not_allOrNothing_of_replaced {m : SessionManager} {addr : SocketAddr}
    (hbefore : m.sessions.lookup sessionId = some c)
    (hafter : m'.sessions.lookup sessionId ≠ some c) : ¬m.AllOrNothing m' addr queued := by
  rintro (hsame | ⟨k, c', hnone, hadded, -⟩)
  · exact hafter ((hsame.sessions sessionId).trans hbefore)
  · have hne : sessionId ≠ k := by
      rintro rfl
      cases hnone.symm.trans hbefore
    have := hadded sessionId
    rw [if_neg hne, hbefore] at this
    exact hafter this

/-- Removing the session just entered gives its IPv6 address back, and its IPv4 address if that is read back. -/
theorem Ledger.allOrNothing_undone {m : SessionManager} (h : m.Ledger) {picker : Picker Nat}
    {session : Session} (hfresh : m.sessions.lookup session.sessionId = none)
    (halloc : m.ipAllocator.allocate picker = (a, some ip))
    (halloc6 : m.allocateV6 pickerV6 = (a6, some ip6)) (clientAddr : SocketAddr) (level : SecurityLevel)
    (now : UInt64) (addr : SocketAddr) (queued : List OutboundResponse) :
    m.AllOrNothing ((({ m with ipAllocator := a, ipv6Allocator := a6 } : SessionManager).insertSession session
        clientAddr ip ip6 level now).removeSession session.sessionId).1 addr queued ↔
      (m.ipAllocator.ipToOffset ip).isSome := by
  have hread : m.ipAllocator.ipToOffset = a.ipToOffset := by
    rw [← m.ipAllocator.ipToOffset_allocate picker, halloc]
  rw [hread, ← available_allocate_release h.ipSound halloc, allOrNothing_of_sessions]
  · rw [SessionManager.removeSession, lookup_insertSession, if_pos rfl]
    rfl
  · intro k
    rw [lookup_removeSession, lookup_insertSession]
    split
    · rename_i hk
      rw [hk, hfresh]
    · rfl
  · rw [SessionManager.removeSession, lookup_insertSession, if_pos rfl]
    unfold SessionManager.allocateV6 at halloc6
    unfold ipv6Available
    cases hv6 : m.ipv6Allocator with
    | none =>
      rw [hv6] at halloc6
      cases halloc6
      rfl
    | some b =>
      rw [hv6] at halloc6
      obtain ⟨rfl, hip6⟩ := Prod.mk.inj halloc6
      obtain ⟨ip', hip', rfl⟩ := Option.map_eq_some_iff.mp hip6
      exact Ipv6Allocator.available_allocate_release (h.ipv6Sound hv6) (Prod.ext rfl hip')

/-! ### The handler -/

/-- The id is free, the response is not too long, and if it has to be undone, the address can be given back. -/
structure Completes (S : InitContext) (m : SessionManager) (init : HandshakeInit) (o : InitOccasion) : Prop where
  fresh : m.sessions.lookup o.sessionId = none
  encodable : (m.ipFor o.picker).isSome → (m.ipv6For o.pickerV6).isSome → S.Signs init.securityLevel →
    m.responseLength S init ≤ maxFragmentedLength
  returnable : ∀ ip, m.ipFor o.picker = some ip →
    (m.ipv6For o.pickerV6 = none ∨ ¬S.Signs init.securityLevel ∨ o.queueRoom < packetCount (m.responseLength S init)) →
    (m.ipAllocator.ipToOffset ip).isSome

theorem establish_of_answer {S : InitContext} {m : SessionManager} {init : HandshakeInit} {addr : SocketAddr}
    {o : InitOccasion} {response : HandshakeResponse} {keys : SessionKeys}
    (hok : m.answer S init o = .ok (response, keys)) :
    m.establish S init addr o =
      match m.createSessionDualStackWithLevel o.picker o.pickerV6 (Session.new o.sessionId keys (millis o.now)) addr
        init.securityLevel o.now with
      | (m, .error _) => (m, [])
      | (m, .ok (ip, ip6)) => m.deliver S init addr o response keys ip ip6 := by
  unfold establish
  generalize m.answer S init o = r at hok
  subst hok
  rfl

variable {S : InitContext} {m : SessionManager} {init : HandshakeInit} {addr : SocketAddr} {o : InitOccasion}
  {response : HandshakeResponse} {keys : SessionKeys}

theorem completes_iff (hfresh : m.sessions.lookup o.sessionId = none)
    (hip : m.ipFor o.picker = some ip) (hip6 : m.ipv6For o.pickerV6 = some ip6) :
    m.Completes S init o ↔
      (S.Signs init.securityLevel → m.responseLength S init ≤ maxFragmentedLength) ∧
        (¬S.Signs init.securityLevel ∨ o.queueRoom < packetCount (m.responseLength S init) →
          (m.ipAllocator.ipToOffset ip).isSome) := by
  constructor
  · intro h
    exact ⟨h.encodable (hip ▸ rfl) (hip6 ▸ rfl), fun hundo => h.returnable ip hip (.inr hundo)⟩
  · rintro ⟨hencodable, hreturnable⟩
    refine ⟨hfresh, fun _ _ => hencodable, ?_⟩
    intro ip' hip' hundo
    cases hip.symm.trans hip'
    rcases hundo with hnone | hundo
    · cases hip6.symm.trans hnone
    · exact hreturnable hundo

/-- An entered session is undone if its response is not signed or queued whole, unanswered if it is too long, and
complete otherwise. -/
theorem Ledger.deliver_iff (h : m.Ledger) (hok : m.answer S init o = .ok (response, keys))
    (hfresh : m.sessions.lookup o.sessionId = none) (hfor : m.ipFor o.picker = some ip)
    (halloc : m.ipAllocator.allocate o.picker = (a, some ip))
    (halloc6 : m.allocateV6 o.pickerV6 = (a6, some ip6)) :
    let entered := ({ m with ipAllocator := a, ipv6Allocator := a6 } : SessionManager).insertSession
      (Session.new o.sessionId keys (millis o.now)) addr ip ip6 init.securityLevel o.now
    m.AllOrNothing (entered.deliver S init addr o response keys ip ip6).1 addr
      (entered.deliver S init addr o response keys ip ip6).2 ↔ m.Completes S init o := by
  intro entered
  have hundone : ∀ queued, m.AllOrNothing (entered.removeSession o.sessionId).1 addr queued ↔
      (m.ipAllocator.ipToOffset ip).isSome :=
    h.allOrNothing_undone hfresh halloc halloc6 addr init.securityLevel o.now addr
  have hentered : ∀ k, entered.sessions.lookup k = if k = o.sessionId then
      some (.withRateLimit (Session.new o.sessionId keys (millis o.now)) addr ip ip6 init.securityLevel
        m.sessionRateLimitPps m.sessionRateLimitBps o.now) else m.sessions.lookup k :=
    fun k => lookup_insertSession
  rw [completes_iff hfresh hfor (by rw [ipv6For, halloc6])]
  unfold deliver
  cases hrefresh : refreshHandshakeResponseAuth S.P
      { response with config := { response.config with clientIpv4 := ip, clientIpv6 := ip6 } } init.clientRandom
      init.securityLevel (S.keypairFor init.securityLevel) keys.sendKey o.signCoins with
  | error e =>
    have hsigns : ¬S.Signs init.securityLevel := by
      intro hsigns
      obtain ⟨response', hrefresh'⟩ := refreshHandshakeResponseAuth_isOk.mpr hsigns
      cases hrefresh.symm.trans hrefresh'
    rw [hundone]
    exact ⟨fun hsome => ⟨fun hs => absurd hs hsigns, fun _ => hsome⟩, fun hcond => hcond.2 (.inl hsigns)⟩
  | ok response' =>
    have hlength := refreshed_toBytes_length hok (isSome_allocateV6 halloc6) hrefresh
    have hsigns : S.Signs init.securityLevel := refreshHandshakeResponseAuth_isOk.mp ⟨response', hrefresh⟩
    rcases encodeHandshakeResponseAsPackets_cases response' o.sessionId o.fragId with
      ⟨hlong, e, hencode⟩ | ⟨hshort, packets, hencode, hcount⟩
    · dsimp only
      rw [hencode]
      refine iff_of_false (not_allOrNothing_of_unqueued hfresh ?_) ?_
      · rw [hentered, if_pos rfl]
        exact Option.some_ne_none _
      · intro hcond
        exact absurd (hcond.1 hsigns) (not_le.mpr (hlength ▸ hlong))
    · rw [hlength] at hshort hcount
      dsimp only
      rw [hencode]
      by_cases hroom : o.queueRoom < packetCount (m.responseLength S init)
      · have hpartial : (packets.take o.queueRoom).length ≠ packets.length := by
          rw [List.length_take]
          omega
        dsimp only
        rw [if_neg hpartial, hundone]
        exact ⟨fun hsome => ⟨fun _ => hshort, fun _ => hsome⟩, fun hcond => hcond.2 (.inr hroom)⟩
      · have hwhole : packets.take o.queueRoom = packets := List.take_of_length_le (by omega)
        dsimp only
        rw [hwhole, if_pos rfl]
        refine iff_of_true (.inr ?_) ⟨fun _ => hshort, ?_⟩
        · obtain ⟨signature, _, rfl⟩ := refreshHandshakeResponseAuth_eq_ok.mp hrefresh
          obtain ⟨_, _, _, _, _, _, rfl⟩ := ServerHandshake.processInit_eq_ok.mp hok
          exact ⟨o.sessionId, _, hfresh, hentered, _, o.fragId, packets, rfl, rfl, rfl, hencode, rfl⟩
        · rintro (hunsigned | hfull)
          · exact absurd hsigns hunsigned
          · exact absurd hfull hroom

theorem Ledger.establish_iff (h : m.Ledger) (hok : m.answer S init o = .ok (response, keys))
    (hfresh : m.sessions.lookup o.sessionId = none) :
    m.AllOrNothing (m.establish S init addr o).1 addr (m.establish S init addr o).2 ↔ m.Completes S init o := by
  have hcreation : Creation m o.picker o.pickerV6 (Session.new o.sessionId keys (millis o.now)) addr
      init.securityLevel o.now _ := h.creation o.picker o.pickerV6 hfresh addr init.securityLevel o.now
  rw [establish_of_answer hok]
  generalize m.createSessionDualStackWithLevel o.picker o.pickerV6 (Session.new o.sessionId keys (millis o.now)) addr
    init.securityLevel o.now = r at hcreation ⊢
  cases hcreation with
  | refused e hnone =>
    refine iff_of_true (.inl ⟨fun _ => rfl, rfl, rfl⟩) ⟨hfresh, ?_, ?_⟩
    · rw [hnone]
      nofun
    · intro ip hip
      cases hnone.symm.trans hip
  | returned a ip e hfor halloc hv6 =>
    have hread : m.ipAllocator.ipToOffset = a.ipToOffset := by
      rw [← m.ipAllocator.ipToOffset_allocate o.picker, halloc]
    have hreturned : m.AllOrNothing { m with ipAllocator := a.release ip } addr [] ↔
        (m.ipAllocator.ipToOffset ip).isSome := by
      rw [hread, ← available_allocate_release h.ipSound halloc]
      exact allOrNothing_of_sessions (fun _ => rfl) rfl
    refine hreturned.trans ?_
    constructor
    · intro hsome
      refine ⟨hfresh, ?_, ?_⟩
      · rw [hv6]
        nofun
      · intro ip' hip' _
        cases hfor.symm.trans hip'
        exact hsome
    · intro hcond
      exact hcond.returnable ip hfor (.inl hv6)
  | entered a ip a6 ip6 hfor halloc halloc6 => exact h.deliver_iff hok hfresh hfor halloc halloc6

theorem lookup_deliver (ip : Block 4) (ip6 : Option (Block 16)) :
    ∃ kept, (kept = none ∨ kept = m.sessions.lookup o.sessionId) ∧
      ∀ k, (m.deliver S init addr o response keys ip ip6).1.sessions.lookup k =
        if k = o.sessionId then kept else m.sessions.lookup k := by
  have hremoved := m.lookup_removeSession o.sessionId
  have hsame : ∀ k, m.sessions.lookup k =
      if k = o.sessionId then m.sessions.lookup o.sessionId else m.sessions.lookup k := by
    intro k
    split
    · next hk => rw [hk]
    · rfl
  unfold deliver
  split
  · exact ⟨none, .inl rfl, hremoved⟩
  · split
    · exact ⟨_, .inr rfl, hsame⟩
    · dsimp only
      split
      · exact ⟨_, .inr rfl, hsame⟩
      · exact ⟨none, .inl rfl, hremoved⟩

theorem lookup_establish_of_answer (hok : m.answer S init o = .ok (response, keys)) (addr : SocketAddr) :
    ∃ entry, (∀ c, entry = some c → ∃ ip ip6, c = .withRateLimit (Session.new o.sessionId keys (millis o.now)) addr ip
        ip6 init.securityLevel m.sessionRateLimitPps m.sessionRateLimitBps o.now) ∧
      ∀ k, (m.establish S init addr o).1.sessions.lookup k =
        if k = o.sessionId then entry else m.sessions.lookup k := by
  have hcases := createSession_cases o.picker o.pickerV6 m (Session.new o.sessionId keys (millis o.now)) addr
    init.securityLevel o.now
  rw [establish_of_answer hok]
  generalize m.createSessionDualStackWithLevel o.picker o.pickerV6 (Session.new o.sessionId keys (millis o.now)) addr
    init.securityLevel o.now = r at hcases ⊢
  obtain ⟨m', outcome⟩ := r
  rcases hcases with ⟨e, rfl, hlookup⟩ | ⟨ip, ip6, rfl, hlookup⟩
  · exact ⟨none, nofun, hlookup⟩
  · obtain ⟨kept, hkept, hdeliver⟩ := @lookup_deliver S m' init addr o response keys ip ip6
    refine ⟨kept, ?_, fun k => (hdeliver k).trans ?_⟩
    · rintro c rfl
      exact ⟨ip, ip6, Option.some.inj ((hkept.resolve_left nofun).trans ((hlookup _).trans (if_pos rfl)))⟩
    · split
      · rfl
      · next hk => exact (hlookup k).trans (if_neg hk)

theorem lookup_establish_ne (hok : m.answer S init o = .ok (response, keys))
    (hkeys : c.session.keys ≠ keys) : (m.establish S init addr o).1.sessions.lookup o.sessionId ≠ some c := by
  obtain ⟨entry, hentry, hlookup⟩ := lookup_establish_of_answer hok addr
  rw [hlookup, if_pos rfl]
  intro hc
  obtain ⟨ip, ip6, rfl⟩ := hentry c hc
  exact hkeys rfl

theorem establish_of_not_answers (hfails : ¬S.Answers init o) : m.establish S init addr o = (m, []) := by
  rw [← answer_isOk] at hfails
  cases hanswer : m.answer S init o with
  | ok r => exact absurd ⟨r.1, r.2, hanswer⟩ hfails
  | error e =>
    rw [establish, hanswer]

variable {k : SessionId}

theorem lookup_establish_of_ne (hk : k ≠ o.sessionId) :
    (m.establish S init addr o).1.sessions.lookup k = m.sessions.lookup k := by
  by_cases hanswers : S.Answers init o
  · obtain ⟨response, keys, hok⟩ := answer_isOk.mpr hanswers
    obtain ⟨entry, -, hlookup⟩ := lookup_establish_of_answer hok addr
    exact (hlookup k).trans (if_neg hk)
  · rw [establish_of_not_answers hanswers]

theorem lookup_establish (hafter : (m.establish S init addr o).1.sessions.lookup k = some c) :
    m.sessions.lookup k = some c ∨
      k = o.sessionId ∧ ∃ ip ip6 keys, c = .withRateLimit (Session.new o.sessionId keys (millis o.now)) addr ip ip6
        init.securityLevel m.sessionRateLimitPps m.sessionRateLimitBps o.now := by
  by_cases hanswers : S.Answers init o
  · obtain ⟨response, keys, hok⟩ := answer_isOk.mpr hanswers
    obtain ⟨entry, hentry, hlookup⟩ := lookup_establish_of_answer hok addr
    rw [hlookup] at hafter
    split at hafter
    · next hk =>
        obtain ⟨ip, ip6, rfl⟩ := hentry c hafter
        exact .inr ⟨hk, ip, ip6, keys, rfl⟩
    · exact .inl hafter
  · rw [establish_of_not_answers hanswers] at hafter
    exact .inl hafter

end SessionManager

namespace VpnServer
variable {S : InitContext}

variable (server : VpnServer S)

/-- It opens, its level is accepted, it was not seen before and its credentials are accepted. -/
def admits (data : Bytes) (addr : SocketAddr) (o : InitOccasion) : Option HandshakeInit := do
  let init ← S.openInit data
  guard (S.securityLevelAccepted init.securityLevel)
  guard (server.handshakeReplay.checkAndInsert init.clientRandom o.instant).2
  guard (S.checkCredentials server.userStore init addr o.instant).2
  return init

variable {data : Bytes} {addr : SocketAddr} {o : InitOccasion} {init : HandshakeInit}

theorem admits_eq_some {server : VpnServer S} :
    server.admits data addr o = some init ↔
      S.openInit data = some init ∧ S.securityLevelAccepted init.securityLevel = true ∧
        (server.handshakeReplay.checkAndInsert init.clientRandom o.instant).2 = true ∧
        (S.checkCredentials server.userStore init addr o.instant).2 = true := by
  unfold admits
  simp only [Option.bind_eq_bind, Option.bind_eq_some_iff, Option.guard_eq_some', Option.pure_def,
    Option.some.injEq, exists_const]
  constructor
  · rintro ⟨init, hopen, hlevel, hfresh, haccepted, rfl⟩
    exact ⟨hopen, hlevel, hfresh, haccepted⟩
  · rintro ⟨hopen, hlevel, hfresh, haccepted⟩
    exact ⟨init, hopen, hlevel, hfresh, haccepted, rfl⟩

theorem handleHandshakeInit_eq (data : Bytes) (addr : SocketAddr) (o : InitOccasion) :
    ((server.handleHandshakeInitInternalPrechecked data addr o).1.sessions,
        (server.handleHandshakeInitInternalPrechecked data addr o).2) =
      match server.admits data addr o with
      | none => (server.sessions, [])
      | some init => server.sessions.establish S init addr o := by
  unfold handleHandshakeInitInternalPrechecked admits
  cases S.openInit data with
  | none => rfl
  | some init =>
    dsimp only [Option.bind_eq_bind, Option.bind_some]
    cases S.securityLevelAccepted init.securityLevel with
    | false => rfl
    | true =>
      cases (server.handshakeReplay.checkAndInsert init.clientRandom o.instant).2 with
      | false => rfl
      | true =>
        cases (S.checkCredentials server.userStore init addr o.instant).2 with
        | false => rfl
        | true => rfl

theorem handleHandshakeInit_of_admits {server : VpnServer S} (h : server.admits data addr o = some init) :
    (server.handleHandshakeInitInternalPrechecked data addr o).1.sessions =
        (server.sessions.establish S init addr o).1 ∧
      (server.handleHandshakeInitInternalPrechecked data addr o).2 = (server.sessions.establish S init addr o).2 := by
  have heq := server.handleHandshakeInit_eq data addr o
  rw [h] at heq
  exact Prod.mk.inj heq

/-- Handling an init is all or nothing exactly if one that gets as far as a session completes. -/
theorem handshake_init_all_or_nothing_iff (server : VpnServer S) (hreach : server.sessions.Reachable)
    (data : Bytes) (addr : SocketAddr) (o : InitOccasion)
    (hkeys : ∀ init response keys c, server.admits data addr o = some init →
      server.sessions.answer S init o = .ok (response, keys) →
      server.sessions.sessions.lookup o.sessionId = some c → c.session.keys ≠ keys) :
    server.sessions.AllOrNothing (server.handleHandshakeInitInternalPrechecked data addr o).1.sessions addr
        (server.handleHandshakeInitInternalPrechecked data addr o).2 ↔
      ∀ init, server.admits data addr o = some init → S.Answers init o → server.sessions.Completes S init o := by
  obtain ⟨hsessions, hqueued⟩ := Prod.mk.inj (server.handleHandshakeInit_eq data addr o)
  rw [hsessions, hqueued]
  cases hadmits : server.admits data addr o with
  | none => exact iff_of_true (.inl ⟨fun _ => rfl, rfl, rfl⟩) nofun
  | some init =>
    dsimp only
    by_cases hanswers : S.Answers init o
    · obtain ⟨response, keys, hok⟩ := answer_isOk.mpr hanswers
      have hone : (∀ init', some init = some init' → S.Answers init' o →
          server.sessions.Completes S init' o) ↔ server.sessions.Completes S init o := by
        constructor
        · exact fun h => h init rfl hanswers
        · intro h init' hinit _
          cases hinit
          exact h
      rw [hone]
      cases hlookup : server.sessions.sessions.lookup o.sessionId with
      | none => exact hreach.ledger.establish_iff hok hlookup
      | some c =>
        refine iff_of_false ?_ fun hcompletes => absurd (hcompletes.fresh.symm.trans hlookup) nofun
        exact not_allOrNothing_of_replaced hlookup
          (lookup_establish_ne hok (hkeys init response keys c hadmits hok hlookup))
    · rw [establish_of_not_answers hanswers]
      refine iff_of_true (.inl ⟨fun _ => rfl, rfl, rfl⟩) ?_
      intro init' hinit hanswers'
      cases hinit
      exact absurd hanswers' hanswers

end VpnServer

namespace AtomicitySample
open ForeignSample (home)
open InitSample

def text : AddrText := ⟨fun _ => none, fun _ => ""⟩

def config (n : Nat) : ServerConfig := { ServerConfig.default with dnsServers := List.replicate n "1.1.1.1" }

def dnsServer : Block 4 := ⟨[1, 1, 1, 1], rfl⟩

def context (n : Nat) : InitContext where
  toServerContext := ForeignSample.context
  kemKeypairFor _ := none
  kemKeypair_generated := nofun
  minSecurityLevel := .level3
  dnsServers := List.replicate n dnsServer
  dnsServersV6 := []
  mtu := 1420
  backend := ⟨Unit, fun _ _ _ _ => false, fun _ _ _ _ => ((), .ok false), fun _ _ _ => (), fun _ _ _ _ => ()⟩

variable (n : Nat)

theorem parseDnsServers_config : (config n).parseDnsServers = .ok (context n).dnsServers := by
  have hone : parseOctets "invalid DNS server: " "invalid DNS octet: " "1.1.1.1".toList = .ok dnsServer := by
    decide +kernel
  show (List.replicate n "1.1.1.1").mapM _ = Except.ok (List.replicate n dnsServer)
  induction n with
  | zero => rfl
  | succ n ih =>
    rw [List.replicate_succ, List.mapM_cons, hone, ih]
    rfl

def manager : SessionManager :=
  (SessionManager.new ⟨[10, 99, 0, 0], rfl⟩ 24 ⟨[10, 99, 0, 1], rfl⟩ 180000 254).withRateLimits 100000 125000000

theorem sessionManager_config : (config n).sessionManager text = .ok manager :=
  ServerConfig.sessionManager_default text (parseDnsServers_config n)

def server (n : Nat) : VpnServer (context n) := ⟨manager, .new, none⟩

def packet : Bytes := (PacketHeader.new .handshakeInit 0 0 0).toBytes ++ init.toBytes

theorem openInit_packet (n : Nat) : (context n).openInit packet = some init := by
  rw [packet, InitContext.openInit_packet (PacketHeader.new_wellFormed ..) rfl]
  exact toOption_eq_some.mpr (HandshakeInit.fromBytes_toBytes ⟨rfl, nofun⟩)

theorem admits_packet : (server n).admits packet home occasion = some init := by
  have hfresh : (HandshakeReplayCache.new.checkAndInsert init.clientRandom occasion.instant).2 = true := by
    decide +kernel
  exact VpnServer.admits_eq_some.mpr ⟨openInit_packet n, rfl, hfresh, rfl⟩

theorem answers_init : (context n).Answers init occasion where
  contributory := show Block.replicate 32 1 ≠ Block.replicate 32 0 by decide
  secretKey := Block.length_bytes _

theorem responseLength_init :
    manager.responseLength (context n) init = 6465 + min (16 + 4 * n) (2 ^ 32 - 1) := by
  have hdns : (context n).dnsServers.length = n := List.length_replicate
  have hconfig : manager.configLength (context n) = 16 + 4 * n := by
    rw [SessionManager.configLength, hdns]
    show 15 + 4 * n + 1 = _
    omega
  have hkey : ((context n).keypairFor init.securityLevel).publicKey.bytes.length =
      SecurityLevel.level3.mldsaPublicKeySize := Block.length_bytes _
  rw [SessionManager.responseLength, hconfig, hkey]
  show 8 + (32 + 1088) + 1952 + 3309 + 32 + 4 + min (16 + 4 * n) (2 ^ 32 - 1) + 32 + 8 = _
  omega

theorem signs (level : SecurityLevel) : (context n).Signs level := Block.length_bytes _

/-- With too many DNS servers for fragments, an admitted client stays in the table without a response. -/
theorem response_too_long_not_all_or_nothing :
    (config 10000).sessionManager text = .ok manager ∧
      (config 10000).parseDnsServers = .ok (context 10000).dnsServers ∧
      (server 10000).sessions = manager ∧
      ¬manager.AllOrNothing
        ((server 10000).handleHandshakeInitInternalPrechecked packet home occasion).1.sessions
        home
        ((server 10000).handleHandshakeInitInternalPrechecked packet home occasion).2 := by
  refine ⟨sessionManager_config _, parseDnsServers_config _, rfl, ?_⟩
  obtain ⟨hsessions, hqueued⟩ := VpnServer.handleHandshakeInit_of_admits (admits_packet 10000)
  rw [hsessions, hqueued]
  obtain ⟨response, keys, hok⟩ := answer_isOk.mpr (answers_init 10000)
  have hledger : manager.Ledger := SessionManager.IsNew.ledger (.ipv4 ..)
  intro h
  have hcompletes := (hledger.establish_iff hok rfl).mp h
  have hip : (manager.ipFor occasion.picker).isSome := by decide +kernel
  have hip6 : (manager.ipv6For occasion.pickerV6).isSome := by decide +kernel
  have hlength := hcompletes.encodable hip hip6 (signs 10000 .level3)
  rw [responseLength_init] at hlength
  exact absurd hlength (by decide)

theorem completes_init : manager.Completes (context 2) init occasion := by
  refine ⟨rfl, fun _ _ _ => ?_, ?_⟩
  · rw [responseLength_init]
    decide
  · intro ip hip _
    obtain rfl := Option.some.inj ((show manager.ipFor occasion.picker = some ⟨[10, 99, 0, 2], rfl⟩ by
      decide +kernel).symm.trans hip)
    decide +kernel

theorem handshake_init_all_or_nothing_small :
    manager.AllOrNothing
      ((server 2).handleHandshakeInitInternalPrechecked packet home occasion).1.sessions
      home ((server 2).handleHandshakeInitInternalPrechecked packet home occasion).2 := by
  have hnone : (server 2).sessions.sessions.lookup occasion.sessionId = none := rfl
  refine (VpnServer.handshake_init_all_or_nothing_iff (server 2) (.start (.ipv4 ..)) packet home occasion
    fun _ _ _ _ _ _ hc => absurd (hnone.symm.trans hc) (Option.some_ne_none _).symm).mpr ?_
  intro init' hadmits _
  cases (admits_packet 2).symm.trans hadmits
  exact completes_init

end AtomicitySample

end HpnVpn
