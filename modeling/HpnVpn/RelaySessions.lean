import HpnVpn.ClientSession
import HpnVpn.Tables

/-! The relay between clients and a server: it reads headers only and binds a session to the client whose handshake
got it.  Times are nanoseconds since the start. -/
namespace HpnVpn.Relay
open Wire Tables

def micros (now : Nat) : UInt64 := UInt64.ofNat (now / 1000)

def nowMs (now : Nat) : Nat := now / 1000000

/-- A full bucket holds one second of traffic; refilling and spending are the server's. -/
def rateLimiter (maxPps : UInt32) (maxBps : UInt64) (now : Nat) : SessionRateLimiter where
  maxPps := maxPps
  maxBps := maxBps
  packetTokens := maxPps.toUInt64
  byteTokens := maxBps
  lastRefillUs := micros now

structure RelaySession where
  clientAddr : SocketAddr
  lastActivityMs : Nat
  bytesSent : UInt64
  bytesReceived : UInt64
  packetsSent : UInt64
  packetsReceived : UInt64
  clientRateLimiter : SessionRateLimiter
  upstreamRateLimiter : SessionRateLimiter
deriving DecidableEq

namespace RelaySession

def withRateLimit (clientAddr : SocketAddr) (maxPps : UInt32) (maxBps : UInt64) (now : Nat) : RelaySession where
  clientAddr := clientAddr
  lastActivityMs := nowMs now
  bytesSent := 0
  bytesReceived := 0
  packetsSent := 0
  packetsReceived := 0
  clientRateLimiter := rateLimiter maxPps maxBps now
  upstreamRateLimiter := rateLimiter maxPps maxBps now

variable (s : RelaySession)

def touch (now : Nat) : RelaySession := { s with lastActivityMs := nowMs now }

def isExpired (timeoutMs now : Nat) : Bool := timeoutMs < nowMs now - s.lastActivityMs

def recordSent (bytes : Nat) : RelaySession :=
  { s with bytesSent := s.bytesSent + UInt64.ofNat bytes, packetsSent := s.packetsSent + 1 }

def recordReceived (bytes : Nat) : RelaySession :=
  { s with bytesReceived := s.bytesReceived + UInt64.ofNat bytes, packetsReceived := s.packetsReceived + 1 }

def checkRateLimit (accrue : Accrual) (s : RelaySession) (now bytes : Nat) : RelaySession × Bool :=
  let (limiter, ok) := s.clientRateLimiter.check accrue (micros now) (UInt64.ofNat bytes)
  ({ s with clientRateLimiter := limiter }, ok)

def checkUpstreamRateLimit (accrue : Accrual) (s : RelaySession) (now bytes : Nat) : RelaySession × Bool :=
  let (limiter, ok) := s.upstreamRateLimiter.check accrue (micros now) (UInt64.ofNat bytes)
  ({ s with upstreamRateLimiter := limiter }, ok)

end RelaySession

def defaultMaxSessionsPerIp : Nat := 100
def defaultMaxTrackedIps : Nat := 100000

structure SessionManager where
  sessions : Table SessionId RelaySession
  ipSessionCounts : Table IpAddr Nat
  timeoutMs : Nat
  maxSessions : Nat
  maxSessionsPerIp : Nat
  maxTrackedIps : Nat
  rateLimitPps : UInt32
  rateLimitBps : UInt64

inductive ClientPacketProcessResult
  | forward (isNew : Bool)
  | sessionRejected
  | roamingBlocked
  | rateLimited
deriving DecidableEq

namespace SessionManager

def withRateLimits (timeoutMs maxSessions : Nat) (rateLimitPps : UInt32) (rateLimitBps : UInt64) : SessionManager :=
  ⟨∅, ∅, timeoutMs, maxSessions, defaultMaxSessionsPerIp, defaultMaxTrackedIps, rateLimitPps, rateLimitBps⟩

/-- Take one session off an address; an address without sessions is forgotten. -/
def decrementCount (counts : Table IpAddr Nat) (ip : IpAddr) : Table IpAddr Nat :=
  match counts.lookup ip with
  | none => counts
  | some count => if count - 1 = 0 then counts.erase ip else counts.insert ip (count - 1)

variable (m : SessionManager)

def cleanupExpired (now : Nat) : SessionManager :=
  let removed := m.sessions.entries.filter fun entry => entry.2.isExpired m.timeoutMs now
  { m with
    sessions := retain m.sessions fun _ session => !session.isExpired m.timeoutMs now
    ipSessionCounts := (removed.map fun entry => entry.2.clientAddr.ip).foldl decrementCount m.ipSessionCounts }

def incrementCount (ip : IpAddr) : SessionManager × Bool :=
  if ip ∉ m.ipSessionCounts ∧ m.maxTrackedIps ≤ m.ipSessionCounts.keys.length then (m, false)
  else
    let count := (m.ipSessionCounts.lookup ip).getD 0
    if m.maxSessionsPerIp ≤ count then ({ m with ipSessionCounts := m.ipSessionCounts.insert ip count }, false)
    else ({ m with ipSessionCounts := m.ipSessionCounts.insert ip (count + 1) }, true)

/-- Make room for one more session, by expiring others if need be. -/
def makeRoom (now : Nat) : SessionManager × Bool :=
  if m.maxSessions ≤ m.sessions.keys.length then
    let m := m.cleanupExpired now
    (m, m.sessions.keys.length < m.maxSessions)
  else (m, true)

/-- Create a session; whether a new one was made.  A live entry stays as it is, whoever asks. -/
def getOrCreate (sessionId : SessionId) (clientAddr : SocketAddr) (now : Nat) :
    SessionManager × Bool :=
  match m.sessions.lookup sessionId with
  | some _ => (m, false)
  | none =>
    match m.makeRoom now with
    | (m, false) => (m, false)
    | (m, true) =>
      match m.incrementCount clientAddr.ip with
      | (m, false) => (m, false)
      | (m, true) =>
        ({ m with sessions := m.sessions.insert sessionId
                    (.withRateLimit clientAddr m.rateLimitPps m.rateLimitBps now) }, true)

/-- Bind the session of a handshake response to the client that asked for it. -/
def bindEstablished (sessionId : SessionId) (clientAddr : SocketAddr) (now : Nat) :
    SessionManager × Bool :=
  if sessionId = 0 then (m, false) else m.getOrCreate sessionId clientAddr now

def processUpstreamPacket (sessionId : SessionId) (now bytes : Nat) :
    SessionManager × Option SocketAddr :=
  let (sessions, addr) := onEntry m.sessions sessionId
    (fun session => ((session.recordReceived bytes).touch now, some session.clientAddr)) none
  ({ m with sessions }, addr)

def isRateLimited : Bool := m.rateLimitPps > 0 ∨ m.rateLimitBps > 0

def processClientEntry (accrue : Accrual) (limited : Bool) (clientAddr : SocketAddr) (now bytes : Nat)
    (session : RelaySession) : RelaySession × ClientPacketProcessResult :=
  if session.clientAddr ≠ clientAddr then (session, .roamingBlocked)
  else
    match if limited then session.checkRateLimit accrue now bytes else (session, true) with
    | (session, false) => (session, .rateLimited)
    | (session, true) => ((session.recordSent bytes).touch now, .forward false)

def processClientPacket (accrue : Accrual) (m : SessionManager) (sessionId : SessionId)
    (clientAddr : SocketAddr) (now bytes : Nat) : SessionManager × ClientPacketProcessResult :=
  if sessionId = 0 then (m, .sessionRejected)
  else
    let (sessions, result) := onEntry m.sessions sessionId
      (processClientEntry accrue m.isRateLimited clientAddr now bytes) .sessionRejected
    ({ m with sessions }, result)

def remove (sessionId : SessionId) : SessionManager :=
  match m.sessions.lookup sessionId with
  | none => m
  | some session =>
    { m with
      sessions := m.sessions.erase sessionId
      ipSessionCounts := decrementCount m.ipSessionCounts session.clientAddr.ip }

def checkUpstreamRateLimit (accrue : Accrual) (m : SessionManager) (sessionId : SessionId)
    (now bytes : Nat) : SessionManager × Bool :=
  let (sessions, ok) := onEntry m.sessions sessionId
    (fun session => session.checkUpstreamRateLimit accrue now bytes) false
  ({ m with sessions }, ok)

end SessionManager

/-! ### The limiter of handshake packets -/

def maxHandshakeRateTrackedIps : Nat := 16384
def handshakeRateIdleTtl : Nat := 10 * 10 ^ 9
def rateWindow : Nat := 10 ^ 9

structure HandshakeRateEntry where
  windowStart : Nat
  count : UInt32
deriving DecidableEq

namespace HandshakeRateEntry

variable (e : HandshakeRateEntry)

def roll (now : Nat) : HandshakeRateEntry :=
  if rateWindow ≤ now - e.windowStart then ⟨now, 0⟩ else e

def take (limit : UInt32) (now : Nat) : HandshakeRateEntry × Bool :=
  let e := e.roll now
  if limit ≤ e.count then (e, false) else ({ e with count := e.count + 1 }, true)

end HandshakeRateEntry

structure HandshakeRateLimiter where
  maxPps : UInt32
  entries : Table IpAddr HandshakeRateEntry
  globalWindow : HandshakeRateEntry
  globalMaxPps : UInt32

namespace HandshakeRateLimiter

def new (maxPps globalMaxPps : UInt32) (now : Nat) : HandshakeRateLimiter :=
  ⟨maxPps, ∅, ⟨now, 0⟩, globalMaxPps⟩

variable (l : HandshakeRateLimiter)

def allowGlobal (now : Nat) : HandshakeRateLimiter × Bool :=
  if l.globalMaxPps = 0 then (l, true)
  else
    let (globalWindow, ok) := l.globalWindow.take l.globalMaxPps now
    ({ l with globalWindow }, ok)

/-- Forget idle addresses when too many are tracked; whether that leaves room. -/
def makeRoom (now : Nat) : HandshakeRateLimiter × Bool :=
  if maxHandshakeRateTrackedIps ≤ l.entries.keys.length then
    let entries := retain l.entries fun _ entry => now - entry.windowStart ≤ handshakeRateIdleTtl
    ({ l with entries }, entries.keys.length < maxHandshakeRateTrackedIps)
  else (l, true)

def allow (ip : IpAddr) (now : Nat) : HandshakeRateLimiter × Bool :=
  match l.allowGlobal now with
  | (l, false) => (l, false)
  | (l, true) =>
    match l.makeRoom now with
    | (l, false) => (l, false)
    | (l, true) =>
      let (entry, ok) := ((l.entries.lookup ip).getD ⟨now, 0⟩).take l.maxPps now
      ({ l with entries := l.entries.insert ip entry }, ok)

end HandshakeRateLimiter

/-! ### The server -/

/-- The relay's shared state; `permits` is how many more handshakes may be in flight. -/
structure RelayServer where
  sessions : SessionManager
  handshakeRateLimiter : HandshakeRateLimiter
  permits : Nat

/-- The settings the relay is built from; the session timeout is in milliseconds. -/
structure RelayConfig where
  sessionTimeoutMs : Nat
  maxSessions : Nat
  rateLimitPps : Option UInt32
  rateLimitBps : Option UInt64
  maxConcurrentHandshakes : Option Nat
  handshakeRateLimitPps : Option UInt32
  handshakeGlobalRateLimitPps : Option UInt32

def defaultMaxConcurrentHandshakes : Nat := 256
def defaultHandshakeRateLimitPps : UInt32 := 64
def defaultGlobalHandshakeRateLimitPps : UInt32 := 256

def RelayServer.new (config : RelayConfig) (now : Nat) : RelayServer where
  sessions := .withRateLimits config.sessionTimeoutMs config.maxSessions (config.rateLimitPps.getD 0)
    (config.rateLimitBps.getD 0)
  handshakeRateLimiter := .new (config.handshakeRateLimitPps.getD defaultHandshakeRateLimitPps)
    (config.handshakeGlobalRateLimitPps.getD defaultGlobalHandshakeRateLimitPps) now
  permits := config.maxConcurrentHandshakes.getD defaultMaxConcurrentHandshakes

inductive Action
  | drop
  /-- open a socket for this handshake packet -/
  | forwardHandshake (data : Bytes) (clientAddr : SocketAddr)
  /-- send on the shared upstream socket -/
  | sendUpstream (data : Bytes)
  | sendClient (clientAddr : SocketAddr) (data : Bytes)
deriving DecidableEq

def isHandshakeType : MessageType → Bool
  | .handshakeInit | .encryptedHandshakeInit | .handshakeFragment | .cookieReply => true
  | _ => false

namespace RelayServer

def handleUpstreamPacket (accrue : Accrual) (r : RelayServer) (now : Nat) (data : Bytes) : RelayServer × Action :=
  if data.length < headerSize then (r, .drop)
  else
    match PacketHeader.decode data with
    | .error _ => (r, .drop)
    | .ok header =>
      match if r.sessions.isRateLimited then
          r.sessions.checkUpstreamRateLimit accrue header.sessionId now data.length
        else (r.sessions, true) with
      | (sessions, false) => ({ r with sessions }, .drop)
      | (sessions, true) =>
        match sessions.processUpstreamPacket header.sessionId now data.length with
        | (sessions, none) => ({ r with sessions }, .drop)
        | (sessions, some clientAddr) => ({ r with sessions }, .sendClient clientAddr data)

def admitHandshake (r : RelayServer) (now : Nat) (data : Bytes) (clientAddr : SocketAddr) : RelayServer × Action :=
  match r.handshakeRateLimiter.allow clientAddr.ip now with
  | (limiter, false) => ({ r with handshakeRateLimiter := limiter }, .drop)
  | (limiter, true) =>
    if r.permits = 0 then ({ r with handshakeRateLimiter := limiter }, .drop)
    else
      ({ r with handshakeRateLimiter := limiter, permits := r.permits - 1 }, .forwardHandshake data clientAddr)

def handleClientPacket (accrue : Accrual) (r : RelayServer) (now : Nat) (data : Bytes)
    (clientAddr : SocketAddr) : RelayServer × Action :=
  if data.length < headerSize then (r, .drop)
  else
    match PacketHeader.decode data with
    | .error _ => (r, .drop)
    | .ok header =>
      if isHandshakeType header.msgType then r.admitHandshake now data clientAddr
      else
        match r.sessions.processClientPacket accrue header.sessionId clientAddr now data.length with
        | (sessions, .forward _) => ({ r with sessions }, .sendUpstream data)
        | (sessions, _) => ({ r with sessions }, .drop)

end RelayServer

end HpnVpn.Relay
