import HpnVpn.Runs
import Mathlib.Algebra.Group.Nat.Defs

/-! The client's pool of packet buffers.  An empty pool allocates more, as a counter allows; dropped, such a buffer
goes into the pool without its mark. -/
namespace HpnVpn
open Runs

def defaultOverflowMultiplier : Nat := 4
def minOverflowCap : Nat := 64

/-- The buffers in the channel, those handed out without and with the overflow mark, and the waiting calls of `get`.
-/
structure BufferPool where
  size : Nat
  available : Nat
  pooled : Nat
  overflow : Nat
  overflowInUse : Nat
  waiting : Nat
deriving DecidableEq

inductive PoolEvent
  | get
  | drop (overflow : Bool)
  | wake
deriving DecidableEq

namespace BufferPool

def new (size : Nat) : BufferPool := ⟨size, size, 0, 0, 0, 0⟩

def maxOverflowAllocations (p : BufferPool) : Nat :=
  max (min (p.size * defaultOverflowMultiplier) (2 ^ 64 - 1)) minOverflowCap

def handedOut (p : BufferPool) : Nat := p.pooled + p.overflow

def get (p : BufferPool) : BufferPool :=
  if 0 < p.available then { p with available := p.available - 1, pooled := p.pooled + 1 }
  else if p.overflowInUse < p.maxOverflowAllocations then
    { p with overflowInUse := p.overflowInUse + 1, overflow := p.overflow + 1 }
  else { p with waiting := p.waiting + 1 }

/-- The channel takes a buffer while it has room; one without any room takes it for a call that waits. -/
def trySend (p : BufferPool) : BufferPool :=
  if p.available < p.size then { p with available := p.available + 1 }
  else if p.size = 0 ∧ 0 < p.waiting then { p with waiting := p.waiting - 1, pooled := p.pooled + 1 }
  else p

/-- A call that waits gets the buffer it waits for; no wait ends otherwise. -/
def step (p : BufferPool) : PoolEvent → BufferPool
  | .get => p.get
  | .drop true =>
    if 0 < p.overflow then
      trySend { p with overflowInUse := p.overflowInUse - 1, overflow := p.overflow - 1 }
    else p
  | .drop false => if 0 < p.pooled then trySend { p with pooled := p.pooled - 1 } else p
  | .wake =>
    if 0 < p.waiting ∧ 0 < p.available then
      { p with waiting := p.waiting - 1, available := p.available - 1, pooled := p.pooled + 1 }
    else p

def Full (p : BufferPool) : Prop := p.size ≤ p.available ∧ ¬(p.size = 0 ∧ 0 < p.waiting)

instance (p : BufferPool) : Decidable p.Full := inferInstanceAs (Decidable (_ ∧ _))

/-- An overflow buffer is dropped only when it cannot go into the pool. -/
def Sheds (p : BufferPool) : PoolEvent → Prop
  | .drop true => p.Full
  | _ => True

instance (p : BufferPool) : (e : PoolEvent) → Decidable (p.Sheds e)
  | .drop true => inferInstanceAs (Decidable p.Full)
  | .drop false | .get | .wake => isTrue trivial

/-- The pool has its buffers, in the channel or handed out, and the counter shows the others. -/
structure Balanced (size : Nat) (p : BufferPool) : Prop where
  size_eq : p.size = size
  own : p.available + p.pooled = p.size
  counted : p.overflowInUse = p.overflow
  limited : p.overflow ≤ p.maxOverflowAllocations

variable {size : Nat} {p : BufferPool}

theorem balanced_new (size : Nat) : Balanced size (new size) := ⟨rfl, rfl, rfl, Nat.zero_le _⟩

theorem trySend_of_lt (h : p.available < p.size) : p.trySend = { p with available := p.available + 1 } := if_pos h

theorem trySend_of_full (h : p.Full) : p.trySend = p := by
  rw [trySend, if_neg (Nat.not_lt.mpr h.1), if_neg h.2]

theorem Balanced.get (h : Balanced size p) : Balanced size p.get := by
  obtain ⟨hsize, hown, hcounted, hlimited⟩ := h
  unfold BufferPool.get
  split
  · exact ⟨hsize, by dsimp only; omega, hcounted, hlimited⟩
  · split
    · refine ⟨hsize, hown, by dsimp only; omega, ?_⟩
      show p.overflow + 1 ≤ p.maxOverflowAllocations
      omega
    · exact ⟨hsize, hown, hcounted, hlimited⟩

theorem Balanced.step (p : BufferPool) (e : PoolEvent) (h : Balanced size p) (hsheds : p.Sheds e) :
    Balanced size (p.step e) := by
  cases e with
  | get => exact h.get
  | wake =>
    obtain ⟨hsize, hown, hcounted, hlimited⟩ := h
    rw [BufferPool.step]
    split
    · exact ⟨hsize, by dsimp only; omega, hcounted, hlimited⟩
    · exact ⟨hsize, hown, hcounted, hlimited⟩
  | drop overflow =>
    obtain ⟨hsize, hown, hcounted, hlimited⟩ := h
    cases overflow with
    | true =>
      rw [BufferPool.step]
      split
      · have hsend : trySend { p with overflowInUse := p.overflowInUse - 1, overflow := p.overflow - 1 } = _ :=
          trySend_of_full hsheds
        rw [hsend]
        refine ⟨hsize, hown, congrArg (· - 1) hcounted, ?_⟩
        exact Nat.le_trans (Nat.sub_le _ _) hlimited
      · exact ⟨hsize, hown, hcounted, hlimited⟩
    | false =>
      rw [BufferPool.step]
      split
      case isTrue hpos =>
        -- a buffer of the pool's own always finds room again
        have hroom : p.available < p.size := by omega
        have hsend : trySend { p with pooled := p.pooled - 1 } = _ := trySend_of_lt hroom
        rw [hsend]
        exact ⟨hsize, by dsimp only; omega, hcounted, hlimited⟩
      case isFalse => exact ⟨hsize, hown, hcounted, hlimited⟩

/-- While overflow buffers stay out of the pool, no more buffers are out than the pool has and the counter allows. -/
theorem handedOut_le_of_sheds (size : Nat) (events : List PoolEvent) (h : Meets Sheds step (new size) events) :
    (exec step (new size) events).handedOut ≤ size + (new size).maxOverflowAllocations := by
  obtain ⟨hsize, hown, -, hlimited⟩ := exec_invariant_of Balanced.step events (new size) (balanced_new size) h
  have hmax : (exec step (new size) events).maxOverflowAllocations = (new size).maxOverflowAllocations := by
    rw [maxOverflowAllocations, hsize]
    rfl
  rw [hmax] at hlimited
  rw [handedOut]
  omega

end BufferPool

namespace PoolSample
open BufferPool

theorem handedOut_le_of_sheds_both :
    Meets Sheds BufferPool.step (new 1) [.get, .get, .drop false, .drop true] ∧
      (exec BufferPool.step (new 1) [.get, .get, .drop false, .drop true]).handedOut ≤ 1 + 64 :=
  ⟨by decide, handedOut_le_of_sheds 1 [.get, .get, .drop false, .drop true] (by decide)⟩

/-- All that the pool may hand out, then an overflow buffer comes back and two more are asked for; nobody waits. -/
def mixed : List PoolEvent := List.replicate (1 + 64) .get ++ [.drop true, .get, .get]

theorem mixed_exceeds :
    (exec BufferPool.step (new 1) mixed).waiting = 0 ∧
      1 + (new 1).maxOverflowAllocations < (exec BufferPool.step (new 1) mixed).handedOut := by
  decide +kernel

end PoolSample

end HpnVpn
