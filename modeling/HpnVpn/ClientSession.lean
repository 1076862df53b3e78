import HpnVpn.Crypto
import HpnVpn.Session

/-! The server's record of one client: protocol session, registered and tunnel addresses, rate limiter.  Times are
microseconds. -/
namespace HpnVpn
open Wire

def defaultSessionRateLimitPps : UInt32 := 100000
def defaultSessionRateLimitBps : UInt64 := 125000000

def millis (now : UInt64) : Nat := now.toNat / 1000

def saturatingAdd (a b : UInt64) : UInt64 :=
  if a.toNat + b.toNat < 2 ^ 64 then a + b else UInt64.ofNat (2 ^ 64 - 1)

/-- Token bucket for packets and bytes; a maximum of zero means unlimited. -/
structure SessionRateLimiter where
  maxPps : UInt32
  maxBps : UInt64
  packetTokens : UInt64
  byteTokens : UInt64
  lastRefillUs : UInt64
deriving DecidableEq

/-- Tokens earned at `rate` per second; the rounding of the source's double product is a parameter. -/
abbrev Accrual := (rate elapsedUs : UInt64) → UInt64

namespace SessionRateLimiter

def new (maxPps : UInt32) (maxBps now : UInt64) : SessionRateLimiter where
  maxPps := maxPps
  maxBps := maxBps
  packetTokens := maxPps.toUInt64 * 2
  byteTokens := maxBps * 2
  lastRefillUs := now

def refill (accrue : Accrual) (l : SessionRateLimiter) (now : UInt64) : SessionRateLimiter :=
  let elapsedUs := if l.lastRefillUs ≤ now then now - l.lastRefillUs else 0
  if elapsedUs < 1000 then l
  else
    { l with
      lastRefillUs := now
      packetTokens :=
        if l.maxPps > 0 then
          min (saturatingAdd l.packetTokens (accrue l.maxPps.toUInt64 elapsedUs)) (l.maxPps.toUInt64 * 2)
        else l.packetTokens
      byteTokens :=
        if l.maxBps > 0 then
          min (saturatingAdd l.byteTokens (accrue l.maxBps elapsedUs)) (l.maxBps * 2)
        else l.byteTokens }

def consume (l : SessionRateLimiter) (bytes : UInt64) : SessionRateLimiter × Bool :=
  if l.maxPps > 0 ∧ l.packetTokens = 0 then (l, false)
  -- a packet token taken for a packet with too few byte tokens is put back
  else if l.maxBps > 0 ∧ l.byteTokens < bytes then (l, false)
  else
    ({ l with
       packetTokens := if l.maxPps > 0 then l.packetTokens - 1 else l.packetTokens
       byteTokens := if l.maxBps > 0 then l.byteTokens - bytes else l.byteTokens }, true)

def check (accrue : Accrual) (l : SessionRateLimiter) (now : UInt64) (bytes : UInt64) : SessionRateLimiter × Bool :=
  if l.maxPps = 0 ∧ l.maxBps = 0 then (l, true) else (l.refill accrue now).consume bytes

end SessionRateLimiter

structure ClientSession where
  session : Session
  clientAddr : SocketAddr
  tunnelIp : Block 4
  tunnelIpv6 : Option (Block 16)
  securityLevel : SecurityLevel
  lastActivityMs : Nat
  bytesSent : UInt64
  bytesReceived : UInt64
  srcMismatchCount : UInt32
  rateLimiter : SessionRateLimiter
deriving DecidableEq

namespace ClientSession

def withRateLimit (session : Session) (clientAddr : SocketAddr) (tunnelIp : Block 4)
    (tunnelIpv6 : Option (Block 16)) (securityLevel : SecurityLevel) (maxPps : UInt32) (maxBps : UInt64)
    (now : UInt64) : ClientSession where
  session := session
  clientAddr := clientAddr
  tunnelIp := tunnelIp
  tunnelIpv6 := tunnelIpv6
  securityLevel := securityLevel
  lastActivityMs := millis now
  bytesSent := 0
  bytesReceived := 0
  srcMismatchCount := 0
  rateLimiter := SessionRateLimiter.new maxPps maxBps now

variable (c : ClientSession)

def touch (now : UInt64) : ClientSession := { c with lastActivityMs := millis now }

def addBytesReceived (bytes : UInt64) : ClientSession :=
  { c with bytesReceived := c.bytesReceived + bytes }

def addBytesSent (bytes : UInt64) : ClientSession :=
  { c with bytesSent := c.bytesSent + bytes }

def isExpired (now : UInt64) (timeoutMs : Nat) : Bool :=
  millis now - c.lastActivityMs > timeoutMs

def incrementSrcMismatch : ClientSession :=
  { c with srcMismatchCount := c.srcMismatchCount + 1 }

def checkRateLimit (accrue : Accrual) (c : ClientSession) (now : UInt64) (bytes : Nat) : ClientSession × Bool :=
  let (limiter, ok) := c.rateLimiter.check accrue now (UInt64.ofNat bytes)
  ({ c with rateLimiter := limiter }, ok)

end ClientSession

end HpnVpn
