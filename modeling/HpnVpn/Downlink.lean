import HpnVpn.InitAtomicity
import HpnVpn.SendMmsg

/-! The downlink: a packet from the TUN device is sealed for the session that holds its destination, found through the
reverse maps. -/
namespace HpnVpn
open Wire Tables

/-! ### Destination of a packet -/

inductive IpVersion
  | v4
  | v6
deriving DecidableEq

def getIpVersion : Bytes → Option IpVersion
  | [] => none
  | first :: _ => if first >>> 4 = 4 then some .v4 else if first >>> 4 = 6 then some .v6 else none

def getDestinationIp (packet : Bytes) : Option (Block 4) :=
  if 20 ≤ packet.length ∧ packet.headD 0 >>> 4 = 4 then Block.ofBytes 4 ((packet.drop 16).take 4) else none

def getDestinationIpv6 (packet : Bytes) : Option (Block 16) :=
  if 40 ≤ packet.length ∧ packet.headD 0 >>> 4 = 6 then Block.ofBytes 16 ((packet.drop 24).take 16) else none

inductive DestinationAddr
  | v4 (ip : Block 4)
  | v6 (ip : Block 16)
deriving DecidableEq

def getDestinationAddr (packet : Bytes) : Option DestinationAddr := do
  match ← getIpVersion packet with
  | .v4 => (getDestinationIp packet).map .v4
  | .v6 => (getDestinationIpv6 packet).map .v6

/-- The IP header names an address of the session as the destination. -/
def DestinedTo (packet : Bytes) (c : ClientSession) : Prop :=
  (packet.headD 0 >>> 4 = 4 ∧ 20 ≤ packet.length ∧ (packet.drop 16).take 4 = c.tunnelIp.bytes) ∨
    (packet.headD 0 >>> 4 = 6 ∧ 40 ≤ packet.length ∧ ∃ ip, c.tunnelIpv6 = some ip ∧ (packet.drop 24).take 16 = ip.bytes)

theorem getDestinationAddr_spec {packet : Bytes} {destination : DestinationAddr}
    (h : getDestinationAddr packet = some destination) :
    match destination with
    | .v4 ip => packet.headD 0 >>> 4 = 4 ∧ 20 ≤ packet.length ∧ (packet.drop 16).take 4 = ip.bytes
    | .v6 ip => packet.headD 0 >>> 4 = 6 ∧ 40 ≤ packet.length ∧ (packet.drop 24).take 16 = ip.bytes := by
  obtain ⟨version, -, h⟩ := Option.bind_eq_some_iff.mp h
  cases version with
  | v4 =>
    obtain ⟨ip, hip, rfl⟩ := Option.map_eq_some_iff.mp h
    obtain ⟨hlong, hip⟩ := Option.ite_none_right_eq_some.mp hip
    exact ⟨hlong.2, hlong.1, Block.ofBytes_eq_some.mp hip⟩
  | v6 =>
    obtain ⟨ip, hip, rfl⟩ := Option.map_eq_some_iff.mp h
    obtain ⟨hlong, hip⟩ := Option.ite_none_right_eq_some.mp hip
    exact ⟨hlong.2, hlong.1, Block.ofBytes_eq_some.mp hip⟩

/-! ### The reader -/

namespace SessionManager

variable (A : Aes256Gcm) (m : SessionManager)

def getSessionAndAddrByIp (ip : Block 4) : Option (SessionId × SocketAddr) := do
  let sessionId ← m.ipToSession.lookup ip
  let session ← m.sessions.lookup sessionId
  return (sessionId, session.clientAddr)

def getSessionAndAddrByIpv6 (ip : Block 16) : Option (SessionId × SocketAddr) := do
  let sessionId ← m.ipv6ToSession.lookup ip
  let session ← m.sessions.lookup sessionId
  return (sessionId, session.clientAddr)

def getSessionAndAddr (packet : Bytes) : Option (SessionId × SocketAddr) := do
  match ← getDestinationAddr packet with
  | .v4 ip => m.getSessionAndAddrByIp ip
  | .v6 ip => m.getSessionAndAddrByIpv6 ip

def sealFor (packet : Bytes) (bufferLen : Nat) (c : ClientSession) : ClientSession × Option Bytes :=
  match c.session.encryptPacket A .data packet bufferLen with
  | (session, _, .error _) => ({ c with session }, none)
  | (session, _, .ok data) =>
    (({ c with session } : ClientSession).addBytesSent (UInt64.ofNat data.length), some data)

/-- The sealed packet ends up in the next free buffer of the batch, if there is one. -/
def readPacket {batchSize bufferSize : Nat} (m : SessionManager)
    (batch : SendMmsg batchSize bufferSize) (packet : Bytes) : SessionManager × SendMmsg batchSize bufferSize :=
  match m.getSessionAndAddr packet with
  | none => (m, batch)
  | some (sessionId, clientAddr) =>
    if batch.count < batchSize then
      match m.onSession sessionId (sealFor A packet bufferSize) none with
      | (m, none) => (m, batch)
      | (m, some data) => (m, (batch.add data clientAddr).1)
    else (m, batch)

end SessionManager

/-! ### Where the reverse maps point -/

def Points {ι : Type} [DecidableEq ι] (addrOf : ClientSession → Option ι)
    (sessions : Table SessionId ClientSession) (map : Table ι SessionId) : Prop :=
  ∀ ip sessionId, map.lookup ip = some sessionId → ∃ c, sessions.lookup sessionId = some c ∧ addrOf c = some ip

section points
variable {ι : Type} [DecidableEq ι] {addrOf : ClientSession → Option ι} {sessions : Table SessionId ClientSession}
  {map : Table ι SessionId} {k : SessionId} {c : ClientSession}

theorem Points.ne_of_none (h : Points addrOf sessions map) (hnone : sessions.lookup k = none) {ip : ι}
    {sessionId : SessionId} (hip : map.lookup ip = some sessionId) : sessionId ≠ k := by
  rintro rfl
  obtain ⟨c, hc, -⟩ := h ip sessionId hip
  cases hnone.symm.trans hc

theorem Points.remove (h : Points addrOf sessions map) (hc : sessions.lookup k = some c) :
    Points addrOf (sessions.erase k) (match addrOf c with
      | some ip => map.erase ip
      | none => map) := by
  intro ip sessionId hlookup
  have hold : map.lookup ip = some sessionId ∧ addrOf c ≠ some ip := by
    cases haddr : addrOf c with
    | none =>
      rw [haddr] at hlookup
      exact ⟨hlookup, nofun⟩
    | some own =>
      rw [haddr] at hlookup
      have hne : ip ≠ own := by
        rintro rfl
        rw [AList.lookup_erase] at hlookup
        cases hlookup
      rw [AList.lookup_erase_ne hne] at hlookup
      exact ⟨hlookup, fun heq => hne (Option.some.inj heq).symm⟩
  obtain ⟨c', hc', haddr'⟩ := h ip sessionId hold.1
  have hne : sessionId ≠ k := by
    rintro rfl
    cases hc.symm.trans hc'
    exact hold.2 haddr'
  exact ⟨c', (AList.lookup_erase_ne hne).trans hc', haddr'⟩

theorem Points.insert (h : Points addrOf sessions map) (hfresh : sessions.lookup k = none) (c : ClientSession) :
    Points addrOf (sessions.insert k c) (match addrOf c with
      | some ip => map.insert ip k
      | none => map) := by
  intro ip sessionId hlookup
  have hkept : map.lookup ip = some sessionId →
      ∃ c', (sessions.insert k c).lookup sessionId = some c' ∧ addrOf c' = some ip := by
    intro hold
    obtain ⟨c', hc', haddr⟩ := h ip sessionId hold
    exact ⟨c', (AList.lookup_insert_ne (h.ne_of_none hfresh hold)).trans hc', haddr⟩
  cases haddr : addrOf c with
  | none =>
    rw [haddr] at hlookup
    exact hkept hlookup
  | some own =>
    rw [haddr] at hlookup
    by_cases heq : ip = own
    · subst heq
      rw [AList.lookup_insert] at hlookup
      cases hlookup
      exact ⟨c, AList.lookup_insert _, haddr⟩
    · rw [AList.lookup_insert_ne heq] at hlookup
      exact hkept hlookup

theorem Points.onEntry (h : Points addrOf sessions map) {β : Type} {f : ClientSession → ClientSession × β}
    (hf : ∀ c, addrOf (f c).1 = addrOf c) (absent : β) :
    Points addrOf (onEntry sessions k f absent).1 map := by
  intro ip sessionId hlookup
  obtain ⟨c, hc, haddr⟩ := h ip sessionId hlookup
  rw [lookup_onEntry]
  split
  · rename_i heq
    rw [← heq, hc]
    exact ⟨_, rfl, (hf c).trans haddr⟩
  · exact ⟨c, hc, haddr⟩

end points

namespace SessionManager
variable {m : SessionManager}

structure MapsBack (m : SessionManager) : Prop where
  ip : Points (fun c => some c.tunnelIp) m.sessions m.ipToSession
  ipv6 : Points (fun c => c.tunnelIpv6) m.sessions m.ipv6ToSession

theorem MapsBack.removeSession (h : m.MapsBack) (sessionId : SessionId) : (m.removeSession sessionId).1.MapsBack := by
  unfold SessionManager.removeSession
  cases hc : m.sessions.lookup sessionId with
  | none => exact h
  | some c =>
    have hipv6 := h.ipv6.remove hc
    refine ⟨h.ip.remove hc, ?_⟩
    dsimp only at hipv6 ⊢
    cases haddr : c.tunnelIpv6 with
    | none =>
      rw [haddr] at hipv6
      exact hipv6
    | some ip6 =>
      rw [haddr] at hipv6
      exact hipv6

theorem MapsBack.insertSession (h : m.MapsBack) {session : Session}
    (hfresh : m.sessions.lookup session.sessionId = none) (clientAddr : SocketAddr) (ip : Block 4)
    (ip6 : Option (Block 16)) (level : SecurityLevel) (now : UInt64) :
    (m.insertSession session clientAddr ip ip6 level now).MapsBack := by
  have hipv6 := h.ipv6.insert hfresh (ClientSession.withRateLimit session clientAddr ip ip6 level
    m.sessionRateLimitPps m.sessionRateLimitBps now)
  refine ⟨h.ip.insert hfresh _, ?_⟩
  cases ip6 with
  | none => exact hipv6
  | some ip6 => exact hipv6

theorem MapsBack.createSession (h : m.MapsBack) (picker pickerV6 : Picker Nat) (session : Session)
    (clientAddr : SocketAddr) (level : SecurityLevel) (now : UInt64) :
    (m.createSessionDualStackWithLevel picker pickerV6 session clientAddr level now).1.MapsBack := by
  have hfresh : (m.removeSession session.sessionId).1.sessions.lookup session.sessionId = none := by
    rw [lookup_removeSession, if_pos rfl]
  have hremoved := h.removeSession session.sessionId
  unfold createSessionDualStackWithLevel
  generalize (m.removeSession session.sessionId).1 = m' at hremoved hfresh ⊢
  have hpools : ∀ a a6, ({ m' with ipAllocator := a, ipv6Allocator := a6 } : SessionManager).MapsBack :=
    fun _ _ => ⟨hremoved.ip, hremoved.ipv6⟩
  dsimp only
  split
  · exact hremoved
  split
  · exact hpools _ _
  split
  · exact hpools _ _
  all_goals
    apply MapsBack.insertSession (hpools _ _)
    exact hfresh

theorem MapsBack.getSessionAndAddr (h : m.MapsBack) {packet : Bytes} {sessionId : SessionId}
    {clientAddr : SocketAddr} (hfound : m.getSessionAndAddr packet = some (sessionId, clientAddr)) :
    ∃ c, m.sessions.lookup sessionId = some c ∧ DestinedTo packet c ∧ c.clientAddr = clientAddr := by
  obtain ⟨dest, hdest, hfound⟩ := Option.bind_eq_some_iff.mp hfound
  cases dest with
  | v4 ip =>
    obtain ⟨id, hid, hfound⟩ := Option.bind_eq_some_iff.mp hfound
    obtain ⟨c, hc, hfound⟩ := Option.bind_eq_some_iff.mp hfound
    cases hfound
    obtain ⟨c', hc', haddr⟩ := h.ip ip sessionId hid
    cases hc.symm.trans hc'
    obtain ⟨hversion, hlong, hbytes⟩ := getDestinationAddr_spec hdest
    cases haddr
    exact ⟨c, hc, .inl ⟨hversion, hlong, hbytes⟩, rfl⟩
  | v6 ip =>
    obtain ⟨id, hid, hfound⟩ := Option.bind_eq_some_iff.mp hfound
    obtain ⟨c, hc, hfound⟩ := Option.bind_eq_some_iff.mp hfound
    cases hfound
    obtain ⟨c', hc', haddr⟩ := h.ipv6 ip sessionId hid
    cases hc.symm.trans hc'
    obtain ⟨hversion, hlong, hbytes⟩ := getDestinationAddr_spec hdest
    exact ⟨c, hc, .inr ⟨hversion, hlong, ip, haddr, hbytes⟩, rfl⟩

end SessionManager

namespace DownlinkSample
open ForeignSample

def reply : Bytes := [69, 0, 0, 20, 0, 0, 0, 0, 64, 17, 0, 0, 1, 1, 1, 1, 10, 0, 0, 2]

def batch : SendMmsg 1 100 := .new 1 100

end DownlinkSample

end HpnVpn
