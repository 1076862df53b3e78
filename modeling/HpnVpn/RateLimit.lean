import HpnVpn.Tables
import HpnVpn.Types

/-! The per-address limit on handshake requests.  IPv6 addresses of one /64 share a bucket. -/
namespace HpnVpn
open Wire Tables

def rateLimitKey : IpAddr → IpAddr
  | .v4 octets => .v4 octets
  | .v6 octets => .v6 (.fit 16 (octets.bytes.take 8))

structure RateLimitEntry where
  count : Nat
  windowStart : Nat
deriving DecidableEq

/-- Times are nanoseconds of the monotonic clock. -/
structure HandshakeRateLimiter where
  requests : Table IpAddr RateLimitEntry
  maxPerWindow : Nat
  window : Nat
  lastCleanup : Nat
  maxTrackedIps : Nat

namespace HandshakeRateLimiter

def defaultMaxHandshakesPerMinute : Nat := 5
def rateLimitWindow : Nat := 60 * 10 ^ 9
def cleanupInterval : Nat := 300 * 10 ^ 9
def defaultMaxTrackedIps : Nat := 100000

def withLimits (maxPerMinute maxTrackedIps now : Nat) : HandshakeRateLimiter :=
  ⟨∅, maxPerMinute, rateLimitWindow, now, maxTrackedIps⟩

def new (now : Nat) : HandshakeRateLimiter := withLimits defaultMaxHandshakesPerMinute defaultMaxTrackedIps now

variable (l : HandshakeRateLimiter)

def cleanup (now : Nat) : HandshakeRateLimiter :=
  { l with requests := retain l.requests fun _ entry => now - entry.windowStart ≤ l.window }

def maybeCleanup (now : Nat) : HandshakeRateLimiter :=
  if cleanupInterval < now - l.lastCleanup then ({ l with lastCleanup := now } : HandshakeRateLimiter).cleanup now
  else l

/-- Whether a request is allowed; it is then counted.  New addresses are refused once too many are tracked. -/
def allow (addr : IpAddr) (now : Nat) : HandshakeRateLimiter × Bool :=
  let key := rateLimitKey addr
  let l := l.maybeCleanup now
  if key ∉ l.requests ∧ l.maxTrackedIps ≤ l.requests.keys.length then (l, false)
  else
    let entry := (l.requests.lookup key).getD ⟨0, now⟩
    if l.window < now - entry.windowStart then ({ l with requests := l.requests.insert key ⟨1, now⟩ }, true)
    else if l.maxPerWindow ≤ entry.count then ({ l with requests := l.requests.insert key entry }, false)
    else ({ l with requests := l.requests.insert key { entry with count := entry.count + 1 } }, true)

end HandshakeRateLimiter

end HpnVpn
