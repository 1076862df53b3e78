import HpnVpn.AuthLockout
import HpnVpn.InitAtomicity
import HpnVpn.RateLimit
import HpnVpn.Reassembly

/-! Handshake datagrams on the server's Linux control path: whole inits, plain or hidden, and fragments. -/
namespace HpnVpn
open Wire Tables

/-- A user store behind the tracker; `wallSecs` is the wall clock at an instant, `order` how the hash maps are
searched. -/
def AuthBackend.guarded (Store : Type)
    (verifyPassword : Store → (username password : String) → (now : Nat) → Store × Except ServerError Bool)
    (order : Nat → LockoutOrder) (wallSecs : Nat → Nat) : AuthBackend where
  State := AuthLockoutTracker × Store
  checkLockout s username ip now := (s.1.checkLockout username ip (wallSecs now)).isSome
  verifyPassword s username password now :=
    let (store, result) := verifyPassword s.2 username password now
    ((s.1, store), result)
  recordSuccess s username ip := (s.1.recordSuccess username ip, s.2)
  recordFailure s username ip now := ((s.1.recordFailure (order now) username ip (wallSecs now)).1, s.2)

structure ControlServer (S : InitContext) extends VpnServer S where
  rateLimiter : HandshakeRateLimiter
  fragmentReassembly : Reassembly

namespace ControlServer
variable {S : InitContext}

def handleHandshakeInitInternalPrechecked (s : ControlServer S) (data : Bytes) (addr : SocketAddr)
    (o : InitOccasion) : ControlServer S × List OutboundResponse :=
  let (server, responses) := s.toVpnServer.handleHandshakeInitInternalPrechecked data addr o
  ({ s with toVpnServer := server }, responses)

variable (s : ControlServer S)

def handleHandshakeInitInternal (data : Bytes) (addr : SocketAddr) (o : InitOccasion) :
    ControlServer S × List OutboundResponse :=
  let (rateLimiter, allowed) := s.rateLimiter.allow addr.ip o.instant
  if allowed = false then ({ s with rateLimiter }, [])
  else ({ s with rateLimiter } : ControlServer S).handleHandshakeInitInternalPrechecked data addr o

def chargeFragment (fragment : HandshakeFragment) (addr : SocketAddr) (now : Nat) :
    HandshakeRateLimiter × Bool :=
  if s.fragmentReassembly.contains addr fragment.fragId then (s.rateLimiter, true)
  else s.rateLimiter.allow addr.ip now

def collectFragment (data : Bytes) (addr : SocketAddr) (now : Nat)
    (order : Chooser FragmentKey) : Except ReassemblyPanic (ControlServer S × Option Bytes) :=
  match PacketHeader.decode data with
  | .error _ => return (s, none)
  | .ok header =>
    if header.msgType ≠ .handshakeFragment then return (s, none)
    else
      match HandshakeFragment.fromBytes (data.drop headerSize) with
      | .error _ => return (s, none)
      | .ok fragment => do
        let (rateLimiter, allowed) := s.chargeFragment fragment addr now
        if allowed = false then return ({ s with rateLimiter }, none)
        let (fragmentReassembly, completed) ← s.fragmentReassembly.insert addr fragment now order
        return ({ s with rateLimiter, fragmentReassembly },
          completed.map fun message => (PacketHeader.new message.1 0 0 0).toBytes ++ message.2)

def handleHandshakeFragmentInternal (data : Bytes) (addr : SocketAddr) (o : InitOccasion)
    (order : Chooser FragmentKey) : Except ReassemblyPanic (ControlServer S × List OutboundResponse) := do
  let (s, synth) ← s.collectFragment data addr o.instant order
  match synth with
  | none => return (s, [])
  | some packet => return s.handleHandshakeInitInternalPrechecked packet addr o

end ControlServer

inductive HandshakeControl
  | handshakeInit (data : Bytes) (addr : SocketAddr)
  | handshakeFragment (data : Bytes) (addr : SocketAddr)
deriving DecidableEq

def HandshakeControl.addr : HandshakeControl → SocketAddr
  | handshakeInit _ addr => addr
  | handshakeFragment _ addr => addr

namespace ControlServer
variable {S : InitContext}

variable (s : ControlServer S)

def handleControlMessage (ctrl : HandshakeControl) (o : InitOccasion)
    (order : Chooser FragmentKey) : Except ReassemblyPanic (ControlServer S × List OutboundResponse) :=
  match ctrl with
  | .handshakeInit data addr => return s.handleHandshakeInitInternal data addr o
  | .handshakeFragment data addr => s.handleHandshakeFragmentInternal data addr o order

def collect (ctrl : HandshakeControl) (now : Nat) (order : Chooser FragmentKey) :
    Except ReassemblyPanic (ControlServer S × Option Bytes) :=
  match ctrl with
  | .handshakeInit data addr =>
    return ({ s with rateLimiter := (s.rateLimiter.allow addr.ip now).1 },
      if (s.rateLimiter.allow addr.ip now).2 then some data else none)
  | .handshakeFragment data addr => s.collectFragment data addr now order

theorem handleControlMessage_eq (ctrl : HandshakeControl) (o : InitOccasion) (order : Chooser FragmentKey) :
    s.handleControlMessage ctrl o order =
      (s.collect ctrl o.instant order).map fun r =>
        match r.2 with
        | none => (r.1, [])
        | some packet => r.1.handleHandshakeInitInternalPrechecked packet ctrl.addr o := by
  cases ctrl with
  | handshakeInit data addr =>
    rw [handleControlMessage, handleHandshakeInitInternal, collect]
    rcases s.rateLimiter.allow addr.ip o.instant with ⟨rateLimiter, _ | _⟩
    all_goals rfl
  | handshakeFragment data addr =>
    rw [handleControlMessage, handleHandshakeFragmentInternal, collect]
    cases s.collectFragment data addr o.instant order with
    | error e => rfl
    | ok r =>
      obtain ⟨s', synth⟩ := r
      cases synth with
      | none => rfl
      | some packet => rfl

theorem collect_ok {s : ControlServer S} (h : s.fragmentReassembly.Sound) (ctrl : HandshakeControl) (now : Nat)
    (order : Chooser FragmentKey) :
    ∃ s' packet, s.collect ctrl now order = .ok (s', packet) ∧ s'.toVpnServer = s.toVpnServer ∧
      s'.fragmentReassembly.Sound := by
  cases ctrl with
  | handshakeInit data addr => exact ⟨_, _, rfl, rfl, h⟩
  | handshakeFragment data addr =>
    show ∃ s' packet, s.collectFragment data addr now order = .ok (s', packet) ∧ _
    unfold collectFragment
    split
    · exact ⟨s, none, rfl, rfl, h⟩
    split
    · exact ⟨s, none, rfl, rfl, h⟩
    split
    · exact ⟨s, none, rfl, rfl, h⟩
    rename_i fragment hparse
    have hf : fragment.WellFormed := (HandshakeFragment.fromBytes_eq_ok.mp hparse).1
    dsimp only
    split
    · exact ⟨_, none, rfl, rfl, h⟩
    obtain ⟨t, out, hinsert, hout⟩ := h.insert_outcome addr hf now order
    rw [hinsert, ok_bind]
    exact ⟨_, _, rfl, rfl, (h.live now).outcome hf hout⟩

end ControlServer

end HpnVpn
