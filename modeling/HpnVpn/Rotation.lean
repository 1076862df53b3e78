import Mathlib.Data.Nat.Basic

/-! A secret that is replaced once a period, with the one before it kept. -/
namespace Rotation

/-- The secret in use, the one before it, and the time of the last change. -/
structure Secrets (κ : Type) where
  current : κ
  previous : Option κ
  lastRotation : Nat
deriving DecidableEq

namespace Secrets
variable {κ : Type} {period now time : Nat} {s : Secrets κ} {key fresh : κ}

def maybeRotate (period : Nat) (s : Secrets κ) (now : Nat) (fresh : κ) : Secrets κ :=
  if period ≤ now - s.lastRotation then ⟨fresh, some s.current, now⟩ else s

def Holds (s : Secrets κ) (key : κ) : Prop := key = s.current ∨ s.previous = some key

/-- A secret in use at `time` is in use, or is kept and was replaced later, or a period has gone by. -/
def Tracks (period : Nat) (s : Secrets κ) (key : κ) (time : Nat) : Prop :=
  key = s.current ∨ (s.previous = some key ∧ time ≤ s.lastRotation) ∨ time + period ≤ s.lastRotation

theorem tracks_current (s : Secrets κ) : s.Tracks period s.current time := .inl rfl

theorem lastRotation_maybeRotate_le (h : s.lastRotation ≤ now) :
    (s.maybeRotate period now fresh).lastRotation ≤ now := by
  unfold maybeRotate
  split
  · exact Nat.le_refl now
  · exact h

theorem Tracks.maybeRotate (h : s.Tracks period key time) (htime : time ≤ now) (hlast : s.lastRotation ≤ now)
    (fresh : κ) : (s.maybeRotate period now fresh).Tracks period key time := by
  unfold Secrets.maybeRotate
  split
  · rcases h with rfl | ⟨-, hkept⟩ | hgone
    · exact .inr (.inl ⟨rfl, htime⟩)
    · exact .inr (.inr (show time + period ≤ now by omega))
    · exact .inr (.inr (Nat.le_trans hgone hlast))
  · exact h

theorem Tracks.holds (h : s.Tracks period key time) (hlast : s.lastRotation < time + period) : s.Holds key := by
  rcases h with hcurrent | ⟨hprevious, -⟩ | hgone
  · exact .inl hcurrent
  · exact .inr hprevious
  · omega

end Secrets

end Rotation
