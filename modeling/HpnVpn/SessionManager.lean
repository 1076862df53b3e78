import HpnVpn.ClientSession
import HpnVpn.Tables

/-! The session manager: the live sessions, the address pools and the reverse maps. -/
namespace HpnVpn
open Wire Tables

inductive ServerError
  | config (reason : String)
  | session (reason : String)
  | ipAllocation (reason : String)
  | handshake (reason : String)
  | crypto (reason : String)
  | protocol (e : ProtocolError)
  | internal (reason : String)
deriving DecidableEq

/-! ### Address pools -/

/-- The state both address pools share: the offsets handed out so far and those given back. -/
structure OffsetPool where
  nextOffset : Nat
  released : Finset Nat
  maxOffset : Nat
deriving DecidableEq

namespace OffsetPool

/-- Offsets 0 and 1 are the network and the server. -/
def new (maxOffset : Nat) : OffsetPool := ⟨2, ∅, maxOffset⟩

def release (pool : OffsetPool) (offset : Nat) : OffsetPool :=
  if 2 ≤ offset ∧ offset ≤ pool.maxOffset then { pool with released := insert offset pool.released }
  else pool

end OffsetPool

structure IpAllocator where
  base : Block 4
  prefixLen : UInt8
  pool : OffsetPool
deriving DecidableEq

namespace IpAllocator

/-- Shifts use the amount modulo 32, as the release build does. -/
def new (base : Block 4) (prefixLen : UInt8) : IpAllocator where
  base := base
  prefixLen := prefixLen
  pool := .new (((1 : UInt32) <<< (32 - prefixLen.toUInt32)).toNat - 2)

variable (a : IpAllocator)

def offsetToIp (offset : Nat) : Block 4 := be32 (ofBe32 a.base + UInt32.ofNat offset)

def ipToOffset (ip : Block 4) : Option Nat :=
  if ofBe32 a.base ≤ ofBe32 ip then some (ofBe32 ip - ofBe32 a.base).toNat else none

def netmask : Block 4 :=
  be32 (~~~(((1 : UInt32) <<< (32 - a.prefixLen.toUInt32)) - 1))

/-- Allocate an address, a released one first; which of them is up to the hash set. -/
def allocate (picker : Picker Nat) (a : IpAllocator) : IpAllocator × Option (Block 4) :=
  match picker.pick a.pool.released with
  | some offset =>
    ({ a with pool := { a.pool with released := a.pool.released.erase offset } }, some (a.offsetToIp offset))
  | none =>
    if a.pool.nextOffset ≤ a.pool.maxOffset then
      ({ a with pool := { a.pool with nextOffset := a.pool.nextOffset + 1 } }, some (a.offsetToIp a.pool.nextOffset))
    else (a, none)

def release (a : IpAllocator) (ip : Block 4) : IpAllocator :=
  match a.ipToOffset ip with
  | some offset => { a with pool := a.pool.release offset }
  | none => a

end IpAllocator

structure Ipv6Allocator where
  baseHigh : Block 8
  baseLow : Block 8
  prefixLen : UInt8
  pool : OffsetPool
deriving DecidableEq

namespace Ipv6Allocator

def new (baseHigh baseLow : Block 8) (prefixLen : UInt8) : Ipv6Allocator where
  baseHigh := baseHigh
  baseLow := baseLow
  prefixLen := prefixLen
  pool := .new (
    let hostBits := min (128 - prefixLen) 63
    if hostBits ≥ 63 then 2 ^ 64 - 1 - 2 else ((1 : UInt64) <<< hostBits.toUInt64).toNat - 2)

/-- Only the lower half of the base is counted up; an overflow there is an error. -/
def offsetToIp (a : Ipv6Allocator) (offset : Nat) : Option (Block 16) :=
  if ofBE a.baseLow.bytes + offset < 2 ^ 64 then
    some (a.baseHigh.append (toBE 8 (ofBE a.baseLow.bytes + offset)))
  else none

def ipToOffset (a : Ipv6Allocator) (ip : Block 16) : Option Nat :=
  if ip.bytes.take 8 ≠ a.baseHigh.bytes then none
  else
    let ipLow := ofBE (ip.bytes.drop 8)
    if ofBE a.baseLow.bytes ≤ ipLow then some (ipLow - ofBE a.baseLow.bytes) else none

def allocate (picker : Picker Nat) (a : Ipv6Allocator) : Ipv6Allocator × Option (Block 16) :=
  match picker.pick a.pool.released with
  | some offset =>
    ({ a with pool := { a.pool with released := a.pool.released.erase offset } }, a.offsetToIp offset)
  | none =>
    if a.pool.nextOffset ≤ a.pool.maxOffset then
      match a.offsetToIp a.pool.nextOffset with
      | some ip => ({ a with pool := { a.pool with nextOffset := a.pool.nextOffset + 1 } }, some ip)
      | none => (a, none)
    else (a, none)

def release (a : Ipv6Allocator) (ip : Block 16) : Ipv6Allocator :=
  match a.ipToOffset ip with
  | some offset => { a with pool := a.pool.release offset }
  | none => a

end Ipv6Allocator

/-! ### The manager -/

/-- The timeout is in milliseconds; the number of sessions is counted apart from the table. -/
structure SessionManager where
  sessions : Table SessionId ClientSession
  ipToSession : Table (Block 4) SessionId
  ipv6ToSession : Table (Block 16) SessionId
  ipAllocator : IpAllocator
  ipv6Allocator : Option Ipv6Allocator
  serverIp : Block 4
  serverIpv6 : Option (Block 16)
  sessionTimeout : Nat
  maxSessions : Nat
  sessionCount : Nat
  sessionRateLimitPps : UInt32
  sessionRateLimitBps : UInt64

namespace SessionManager

def new (baseIp : Block 4) (prefixLen : UInt8) (serverIp : Block 4) (sessionTimeout maxSessions : Nat) :
    SessionManager where
  sessions := ∅
  ipToSession := ∅
  ipv6ToSession := ∅
  ipAllocator := .new baseIp prefixLen
  ipv6Allocator := none
  serverIp := serverIp
  serverIpv6 := none
  sessionTimeout := sessionTimeout
  maxSessions := maxSessions
  sessionCount := 0
  sessionRateLimitPps := defaultSessionRateLimitPps
  sessionRateLimitBps := defaultSessionRateLimitBps

def newDualStack (baseIp : Block 4) (prefixLen : UInt8) (serverIp : Block 4) (baseIpv6High baseIpv6Low : Block 8)
    (prefixV6 : UInt8) (serverIpv6 : Block 16) (sessionTimeout maxSessions : Nat) : SessionManager :=
  { new baseIp prefixLen serverIp sessionTimeout maxSessions with
    ipv6Allocator := some (.new baseIpv6High baseIpv6Low prefixV6)
    serverIpv6 := some serverIpv6 }

variable (m : SessionManager)

def withRateLimits (pps : UInt32) (bps : UInt64) : SessionManager :=
  { m with sessionRateLimitPps := pps, sessionRateLimitBps := bps }

def netmask (m : SessionManager) : Block 4 := m.ipAllocator.netmask

def ipv6Prefix : Option UInt8 := m.ipv6Allocator.map (·.prefixLen)

def removeSession (sessionId : SessionId) : SessionManager × Option ClientSession :=
  match m.sessions.lookup sessionId with
  | none => (m, none)
  | some c =>
    ({ m with
       sessions := m.sessions.erase sessionId
       sessionCount := m.sessionCount - 1
       ipToSession := m.ipToSession.erase c.tunnelIp
       ipAllocator := m.ipAllocator.release c.tunnelIp
       ipv6ToSession := match c.tunnelIpv6 with
         | some ip => m.ipv6ToSession.erase ip
         | none => m.ipv6ToSession
       ipv6Allocator := match c.tunnelIpv6 with
         | some ip => m.ipv6Allocator.map (·.release ip)
         | none => m.ipv6Allocator }, some c)

/-- Enter a session under its addresses, with the manager's rate limits. -/
def insertSession (session : Session) (clientAddr : SocketAddr) (tunnelIp : Block 4)
    (tunnelIpv6 : Option (Block 16)) (securityLevel : SecurityLevel) (now : UInt64) : SessionManager :=
  let clientSession := ClientSession.withRateLimit session clientAddr tunnelIp tunnelIpv6 securityLevel
    m.sessionRateLimitPps m.sessionRateLimitBps now
  { m with
    sessions := m.sessions.insert session.sessionId clientSession
    sessionCount := m.sessionCount + 1
    ipToSession := m.ipToSession.insert tunnelIp session.sessionId
    ipv6ToSession := match tunnelIpv6 with
      | some ip => m.ipv6ToSession.insert ip session.sessionId
      | none => m.ipv6ToSession }

/-- Create a session; one that has the id is removed first, and a slot without addresses is returned. -/
def createSessionDualStackWithLevel (picker pickerV6 : Picker Nat) (m : SessionManager) (session : Session)
    (clientAddr : SocketAddr) (securityLevel : SecurityLevel) (now : UInt64) :
    SessionManager × Except ServerError (Block 4 × Option (Block 16)) :=
  let m := (m.removeSession session.sessionId).1
  if m.maxSessions ≤ m.sessionCount then (m, .error (.session "max sessions reached"))
  else
    match m.ipAllocator.allocate picker with
    | (ipAllocator, none) =>
      ({ m with ipAllocator }, .error (.ipAllocation "no IPv4 addresses available"))
    | (ipAllocator, some tunnelIp) =>
      match m.ipv6Allocator.map (·.allocate pickerV6) with
      | some (ipv6Allocator, none) =>
        ({ m with ipAllocator := ipAllocator.release tunnelIp, ipv6Allocator := some ipv6Allocator },
          .error (.ipAllocation "no IPv6 addresses available"))
      | some (ipv6Allocator, some ip) =>
        (({ m with ipAllocator, ipv6Allocator := some ipv6Allocator } : SessionManager).insertSession
          session clientAddr tunnelIp (some ip) securityLevel now, .ok (tunnelIp, some ip))
      | none =>
        (({ m with ipAllocator } : SessionManager).insertSession
          session clientAddr tunnelIp none securityLevel now, .ok (tunnelIp, none))

def cleanupExpired (now : UInt64) : SessionManager × List SessionId :=
  let expired := (m.sessions.entries.filter fun e => e.2.isExpired now m.sessionTimeout).map (·.1)
  (expired.foldl (fun m sessionId => (m.removeSession sessionId).1) m, expired)

def onSession {β : Type} (m : SessionManager) (sessionId : SessionId) (f : ClientSession → ClientSession × β)
    (absent : β) : SessionManager × β :=
  let (sessions, answer) := onEntry m.sessions sessionId f absent
  ({ m with sessions }, answer)

def updateClientAddr (sessionId : SessionId) (newAddr : SocketAddr) : SessionManager :=
  (m.onSession sessionId (fun c => ({ c with clientAddr := newAddr }, ())) ()).1

/-! ### What the operations do to the table -/

section
variable {m : SessionManager} {sessionId k : SessionId}

theorem lookup_removeSession (m : SessionManager) (sessionId k : SessionId) :
    (m.removeSession sessionId).1.sessions.lookup k =
      if k = sessionId then none else m.sessions.lookup k := by
  unfold removeSession
  split
  case h_1 habsent =>
    split
    · rename_i heq
      rw [heq, habsent]
    · rfl
  case h_2 c hc =>
    dsimp only
    split
    · rename_i heq
      rw [heq, AList.lookup_erase]
    · rename_i hne
      exact AList.lookup_erase_ne hne

theorem removeSession_limits (m : SessionManager) (sessionId : SessionId) :
    (m.removeSession sessionId).1.sessionRateLimitPps = m.sessionRateLimitPps ∧
      (m.removeSession sessionId).1.sessionRateLimitBps = m.sessionRateLimitBps := by
  unfold removeSession
  split
  all_goals exact ⟨rfl, rfl⟩

theorem lookup_insertSession {session : Session} {clientAddr : SocketAddr} {tunnelIp : Block 4}
    {tunnelIpv6 : Option (Block 16)} {level : SecurityLevel} {now : UInt64} :
    (m.insertSession session clientAddr tunnelIp tunnelIpv6 level now).sessions.lookup k =
      if k = session.sessionId then
        some (.withRateLimit session clientAddr tunnelIp tunnelIpv6 level m.sessionRateLimitPps
          m.sessionRateLimitBps now)
      else m.sessions.lookup k := by
  unfold insertSession
  dsimp only
  split
  · rename_i heq
    rw [heq, AList.lookup_insert]
  · rename_i hne
    exact AList.lookup_insert_ne hne

theorem createSession_cases (picker pickerV6 : Picker Nat) (m : SessionManager) (session : Session)
    (clientAddr : SocketAddr) (level : SecurityLevel) (now : UInt64) :
    let r := m.createSessionDualStackWithLevel picker pickerV6 session clientAddr level now
    (∃ e, r.2 = .error e ∧ ∀ k, r.1.sessions.lookup k =
        if k = session.sessionId then none else m.sessions.lookup k) ∨
      ∃ ip ipv6, r.2 = .ok (ip, ipv6) ∧ ∀ k, r.1.sessions.lookup k =
        if k = session.sessionId then
          some (.withRateLimit session clientAddr ip ipv6 level m.sessionRateLimitPps m.sessionRateLimitBps now)
        else m.sessions.lookup k := by
  have hremoved := m.lookup_removeSession session.sessionId
  have hlimits := m.removeSession_limits session.sessionId
  unfold createSessionDualStackWithLevel
  generalize (m.removeSession session.sessionId).1 = m' at hremoved hlimits ⊢
  have hinserted : ∀ (m'' : SessionManager) ip ipv6, m''.sessions = m'.sessions →
      m''.sessionRateLimitPps = m'.sessionRateLimitPps → m''.sessionRateLimitBps = m'.sessionRateLimitBps →
      ∀ k, (m''.insertSession session clientAddr ip ipv6 level now).sessions.lookup k =
        if k = session.sessionId then
          some (.withRateLimit session clientAddr ip ipv6 level m.sessionRateLimitPps m.sessionRateLimitBps now)
        else m.sessions.lookup k := by
    intro m'' ip ipv6 hsessions hpps hbps k
    rw [lookup_insertSession, hsessions, hremoved, hpps, hbps, hlimits.1, hlimits.2]
    split <;> rfl
  dsimp only
  split
  · exact .inl ⟨_, rfl, hremoved⟩
  · split
    · exact .inl ⟨_, rfl, hremoved⟩
    · split
      · exact .inl ⟨_, rfl, hremoved⟩
      all_goals exact .inr ⟨_, _, rfl, hinserted _ _ _ rfl rfl rfl⟩

theorem lookup_cleanupExpired {now : UInt64} :
    (m.cleanupExpired now).1.sessions.lookup k = none ∨
      (m.cleanupExpired now).1.sessions.lookup k = m.sessions.lookup k := by
  rw [cleanupExpired]
  generalize (m.sessions.entries.filter _).map _ = expired
  induction expired generalizing m with
  | nil => exact .inr rfl
  | cons sessionId expired ih =>
    rw [List.foldl_cons]
    rcases ih (m := (m.removeSession sessionId).1) with h | h
    · exact .inl h
    · rw [h, lookup_removeSession]
      split
      · exact .inl rfl
      · exact .inr rfl

variable {β : Type} {f : ClientSession → ClientSession × β} {absent : β}

theorem lookup_onSession :
    (m.onSession sessionId f absent).1.sessions.lookup k =
      if k = sessionId then (m.sessions.lookup sessionId).map fun c => (f c).1 else m.sessions.lookup k :=
  lookup_onEntry

variable {c : ClientSession}

theorem lookup_onSession_self (h : m.sessions.lookup sessionId = some c) :
    (m.onSession sessionId f absent).1.sessions.lookup sessionId = some (f c).1 :=
  lookup_onEntry_self h

theorem onSession_answer (h : m.sessions.lookup sessionId = some c) : (m.onSession sessionId f absent).2 = (f c).2 := by
  rw [onSession, onEntry_of_some h]

theorem onSession_eq_self (h : m.sessions.lookup sessionId = some c) :
    (m.onSession sessionId f absent).1 = m ↔ (f c).1 = c := by
  have hentry : (onEntry m.sessions sessionId f absent).1 = m.sessions ↔ (f c).1 = c := onEntry_eq_self h
  rw [← hentry]
  constructor
  · intro heq
    exact congrArg SessionManager.sessions heq
  · intro heq
    show ({ m with sessions := (onEntry m.sessions sessionId f absent).1 } : SessionManager) = m
    rw [heq]

end

end SessionManager

end HpnVpn
