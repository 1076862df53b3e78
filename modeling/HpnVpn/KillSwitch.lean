import HpnVpn.Runs
import Mathlib.Algebra.Group.Nat.Defs

/-! The kill switch of the client, and when it blocks traffic after the tunnel is lost. -/
namespace HpnVpn
open Runs

inductive KillSwitchMode
  | disabled
  | enabled
  | enabledAllowLan
deriving DecidableEq

namespace KillSwitchMode

def isActive : KillSwitchMode → Bool
  | .disabled => false
  | .enabled | .enabledAllowLan => true

def allowsLan : KillSwitchMode → Bool
  | .disabled | .enabledAllowLan => true
  | .enabled => false

end KillSwitchMode

inductive KillSwitchState
  | inactive
  | armed
  | engaged
  | bypassed
deriving DecidableEq

inductive DisconnectReason
  | userRequested
  | serverClosed
  | networkError
  | authFailure
  | sessionTimeout
  | systemEvent
  | unknown
deriving DecidableEq

def DisconnectReason.shouldEngageKillSwitch : DisconnectReason → Bool
  | .userRequested => false
  | .serverClosed | .networkError | .authFailure | .sessionTimeout | .systemEvent | .unknown => true

/-- Times are in nanoseconds of the monotonic clock. -/
structure KillSwitchManager where
  mode : KillSwitchMode
  state : KillSwitchState
  stateChangedAt : Nat
  reconnectAttempts : UInt32
  maxReconnectAttempts : UInt32
  baseReconnectDelay : Nat
deriving DecidableEq

namespace KillSwitchManager

def withReconnectSettings (mode : KillSwitchMode) (maxAttempts : UInt32) (baseDelay now : Nat) : KillSwitchManager :=
  ⟨mode, .inactive, now, 0, maxAttempts, baseDelay⟩

def new (mode : KillSwitchMode) (now : Nat) : KillSwitchManager := withReconnectSettings mode 5 2000000000 now

variable (m : KillSwitchManager)

def transitionTo (newState : KillSwitchState) (now : Nat) : KillSwitchManager :=
  if m.state ≠ newState then { m with state := newState, stateChangedAt := now } else m

/-- Select a mode; only a switch that is engaged reacts to being disabled. -/
def setMode (mode : KillSwitchMode) (now : Nat) : KillSwitchManager :=
  if m.mode ≠ mode then
    let m := { m with mode }
    if !mode.isActive ∧ m.state = .engaged then m.transitionTo .inactive now else m
  else m

def shouldBlockTraffic : Bool := m.mode.isActive && decide (m.state = .engaged)

def isLanAllowed : Bool := m.mode.allowsLan

/-- A connection that comes up under the disabled mode leaves the switch as it was. -/
def onVpnConnected (now : Nat) : KillSwitchManager :=
  if m.mode.isActive then { m.transitionTo .armed now with reconnectAttempts := 0 } else m

/-- The second component is whether traffic should be blocked. -/
def onVpnDisconnected (reason : DisconnectReason) (now : Nat) : KillSwitchManager × Bool :=
  if !m.mode.isActive then (m.transitionTo .inactive now, false)
  else if m.state = .armed ∧ reason.shouldEngageKillSwitch then (m.transitionTo .engaged now, true)
  else if !reason.shouldEngageKillSwitch then (m.transitionTo .inactive now, false)
  else (m, m.state = .engaged)

def maxBackoffExponent : UInt32 := 20
def maxReconnectDelay : Nat := 300 * 1000000000

/-- The delay before the attempt, if allowed; `draw` is the jitter's random word.  The product saturates far above the
cap. -/
def onReconnectAttempt (draw : UInt64) (now : Nat) : KillSwitchManager × Option Nat :=
  let attempts := m.reconnectAttempts + 1
  let m := { m with reconnectAttempts := attempts }
  if m.maxReconnectAttempts < attempts then (m, none)
  else
    let exponent := min (attempts - 1) maxBackoffExponent
    let delay := min (m.baseReconnectDelay * 2 ^ exponent.toNat) maxReconnectDelay
    let jitter := draw.toNat % 500 * 1000000
    -- the attempt itself has to get out
    (if m.state = .engaged then m.transitionTo .bypassed now else m, some (delay + jitter))

def onReconnectSuccess (now : Nat) : KillSwitchManager :=
  { m with reconnectAttempts := 0 }.transitionTo .armed now

def onReconnectFailed (now : Nat) : KillSwitchManager :=
  if m.mode.isActive then m.transitionTo .engaged now else m

def reset (now : Nat) : KillSwitchManager :=
  { m.transitionTo .inactive now with reconnectAttempts := 0 }

def timeInCurrentState (now : Nat) : Nat := now - m.stateChangedAt

section
variable (m : KillSwitchManager) (s : KillSwitchState) (now : Nat)

@[simp] theorem transitionTo_state : (m.transitionTo s now).state = s := by
  unfold transitionTo
  split
  · rfl
  · rename_i h
    exact not_not.mp h

@[simp] theorem transitionTo_mode : (m.transitionTo s now).mode = m.mode := by
  unfold transitionTo
  split
  · rfl
  · rfl

@[simp] theorem setMode_mode (mode : KillSwitchMode) : (m.setMode mode now).mode = mode := by
  unfold setMode
  dsimp only
  split
  · split
    · exact transitionTo_mode _ _ _
    · rfl
  · rename_i h
    exact not_not.mp h

theorem setMode_state {mode : KillSwitchMode} (h : mode.isActive = true ∨ m.state ≠ .engaged) :
    (m.setMode mode now).state = m.state := by
  unfold setMode
  dsimp only
  split
  · split
    · rename_i hdisabled
      rcases h with hactive | hother
      · rw [hactive] at hdisabled
        cases hdisabled.1
      · exact absurd hdisabled.2 hother
    · rfl
  · rfl

theorem shouldBlockTraffic_iff {m : KillSwitchManager} :
    m.shouldBlockTraffic = true ↔ m.mode.isActive = true ∧ m.state = .engaged := by
  rw [shouldBlockTraffic, Bool.and_eq_true_iff, decide_eq_true_eq]

end

/-- Under an active mode, an unwanted loss of the tunnel blocks traffic just if the switch was armed or engaged. -/
theorem onVpnDisconnected_blocks_iff {m : KillSwitchManager} (hactive : m.mode.isActive = true)
    {reason : DisconnectReason} (hreason : reason ≠ .userRequested) (now : Nat) :
    (m.onVpnDisconnected reason now).1.shouldBlockTraffic = true ↔ m.state = .armed ∨ m.state = .engaged := by
  have hengages : reason.shouldEngageKillSwitch = true := by
    cases reason with
    | userRequested => exact absurd rfl hreason
    | _ => rfl
  unfold onVpnDisconnected
  rw [hactive, hengages]
  by_cases harmed : m.state = .armed
  · rw [if_neg (by decide), if_pos ⟨harmed, rfl⟩, shouldBlockTraffic_iff, transitionTo_mode, transitionTo_state]
    exact iff_of_true ⟨hactive, rfl⟩ (.inl harmed)
  · rw [if_neg (by decide), if_neg (fun h => harmed h.1), if_neg (by decide), shouldBlockTraffic_iff]
    exact ⟨fun h => .inr h.2, fun h => ⟨hactive, h.resolve_left harmed⟩⟩

end KillSwitchManager

/-! ### Runs -/

inductive KillSwitchEvent
  | setMode (mode : KillSwitchMode)
  | connected
  | disconnected (reason : DisconnectReason)
  | reconnectAttempt (draw : UInt64)
  | reconnectSuccess
  | reconnectFailed
  | reset
deriving DecidableEq

structure KillSwitchCall where
  now : Nat
  event : KillSwitchEvent
deriving DecidableEq

/-- The switch, and whether the tunnel is up: the last connect or successful reconnect was not followed by a
disconnect. -/
structure KillSwitchRun where
  manager : KillSwitchManager
  up : Bool
deriving DecidableEq

namespace KillSwitchRun

def start (m : KillSwitchManager) : KillSwitchRun := ⟨m, false⟩

variable (r : KillSwitchRun)

def step (call : KillSwitchCall) : KillSwitchRun :=
  match call.event with
  | .setMode mode => { r with manager := r.manager.setMode mode call.now }
  | .connected => ⟨r.manager.onVpnConnected call.now, true⟩
  | .disconnected reason => ⟨(r.manager.onVpnDisconnected reason call.now).1, false⟩
  | .reconnectAttempt draw => { r with manager := (r.manager.onReconnectAttempt draw call.now).1 }
  | .reconnectSuccess => ⟨r.manager.onReconnectSuccess call.now, true⟩
  | .reconnectFailed => { r with manager := r.manager.onReconnectFailed call.now }
  | .reset => { r with manager := r.manager.reset call.now }

/-- The reports after which traffic need not be blocked any more. -/
def Releases : KillSwitchEvent → Prop
  | .setMode mode => mode.isActive = false
  | .connected | .reconnectAttempt _ | .reconnectSuccess | .reset => True
  | .disconnected reason => reason = .userRequested
  | .reconnectFailed => False

/-- The tunnel is up, a mode is active and the loss of the tunnel is not the user's wish. -/
def MustBlock (reason : DisconnectReason) : Prop :=
  r.up = true ∧ r.manager.mode.isActive = true ∧ reason ≠ .userRequested

/-- Every such loss blocks traffic at once and for as long as nothing releases it. -/
def FailsClosed (m : KillSwitchManager) (calls : List KillSwitchCall) : Prop :=
  ∀ before now reason held after, calls = before ++ ⟨now, .disconnected reason⟩ :: (held ++ after) →
    (exec step (start m) before).MustBlock reason → (∀ call ∈ held, ¬Releases call.event) →
    (exec step (start m) (before ++ ⟨now, .disconnected reason⟩ :: held)).manager.shouldBlockTraffic = true

/-- A loss that must be blocked meets a switch that is armed or engaged. -/
def Guarded (call : KillSwitchCall) : Prop :=
  ∀ reason, call.event = .disconnected reason → r.MustBlock reason →
    r.manager.state = .armed ∨ r.manager.state = .engaged

theorem blocks_step (call : KillSwitchCall) (h : r.manager.shouldBlockTraffic = true)
    (hheld : ¬Releases call.event) : (r.step call).manager.shouldBlockTraffic = true := by
  obtain ⟨hactive, hengaged⟩ := KillSwitchManager.shouldBlockTraffic_iff.mp h
  obtain ⟨now, event⟩ := call
  cases event with
  | setMode mode =>
    have hmode : mode.isActive = true := Bool.not_eq_false _ ▸ hheld
    apply KillSwitchManager.shouldBlockTraffic_iff.mpr
    refine ⟨?_, ?_⟩
    · show (r.manager.setMode mode now).mode.isActive = true
      rw [KillSwitchManager.setMode_mode]
      exact hmode
    · exact (KillSwitchManager.setMode_state _ _ (.inl hmode)).trans hengaged
  | disconnected reason =>
    exact (KillSwitchManager.onVpnDisconnected_blocks_iff hactive hheld now).mpr (.inr hengaged)
  | reconnectFailed =>
    apply KillSwitchManager.shouldBlockTraffic_iff.mpr
    show (r.manager.onReconnectFailed now).mode.isActive = true ∧ (r.manager.onReconnectFailed now).state = .engaged
    rw [KillSwitchManager.onReconnectFailed, if_pos hactive, KillSwitchManager.transitionTo_mode,
      KillSwitchManager.transitionTo_state]
    exact ⟨hactive, rfl⟩
  | connected => exact absurd trivial hheld
  | reconnectAttempt draw => exact absurd trivial hheld
  | reconnectSuccess => exact absurd trivial hheld
  | reset => exact absurd trivial hheld

/-- The switch fails closed just if every unwanted loss under an active mode finds it armed or engaged. -/
theorem failsClosed_iff_guarded (m : KillSwitchManager) (calls : List KillSwitchCall) :
    FailsClosed m calls ↔ Meets Guarded step (start m) calls := by
  rw [meets_iff_forall_split]
  constructor
  · rintro h before ⟨now, event⟩ after heq reason rfl hmust
    have hblocks := h before now reason [] after heq hmust (by simp)
    rw [exec_append] at hblocks
    exact (KillSwitchManager.onVpnDisconnected_blocks_iff hmust.2.1 hmust.2.2 now).mp hblocks
  · intro h before now reason held after heq hmust hheld
    have hguarded := h before ⟨now, .disconnected reason⟩ (held ++ after) heq reason rfl hmust
    rw [exec_append]
    exact exec_invariant_of blocks_step held _
      ((KillSwitchManager.onVpnDisconnected_blocks_iff hmust.2.1 hmust.2.2 now).mpr hguarded)
      (meets_of_forall (fun call hcall _ => hheld call hcall) _)

end KillSwitchRun

/-! A switch that is enabled when the tunnel is already up does not see it go down. -/

namespace KillSwitchSample

def enabledLate : List KillSwitchCall := [⟨0, .connected⟩, ⟨60000000000, .setMode .enabled⟩]

theorem enabled_late_not_blocked :
    let r := exec KillSwitchRun.step (.start (.new .disabled 0)) enabledLate
    let lost := r.step ⟨120000000000, .disconnected .networkError⟩
    r.MustBlock .networkError ∧ lost.manager.shouldBlockTraffic = false ∧
      ¬KillSwitchRun.FailsClosed (.new .disabled 0) (enabledLate ++ [⟨120000000000, .disconnected .networkError⟩]) := by
  have hmust : (exec KillSwitchRun.step (.start (.new .disabled 0)) enabledLate).MustBlock .networkError :=
    ⟨by decide, by decide, by decide⟩
  have hopen : ((exec KillSwitchRun.step (.start (.new .disabled 0)) enabledLate).step
      ⟨120000000000, .disconnected .networkError⟩).manager.shouldBlockTraffic = false := by
    decide
  refine ⟨hmust, hopen, ?_⟩
  intro h
  have hblocks := h enabledLate 120000000000 .networkError [] [] rfl hmust (by simp)
  exact absurd (hblocks.symm.trans hopen) (by decide)

end KillSwitchSample

end HpnVpn
