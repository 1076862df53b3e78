import Mathlib.Data.List.Basic
import Mathlib.Tactic.Ring

/-! First-in first-out queues drained in batches, and the loop that swaps the tail of an array to its front. -/
namespace BatchQueue

structure Fifo (δ : Type) where
  sent : List δ
  pending : List δ
deriving DecidableEq

namespace Fifo
variable {δ : Type}

def empty : Fifo δ := ⟨[], []⟩

variable (q : Fifo δ)

def enqueue (d : δ) : Fifo δ := { q with pending := q.pending ++ [d] }

def transmit (n : Nat) : Fifo δ := ⟨q.sent ++ q.pending.take n, q.pending.drop n⟩

def discard : Fifo δ := { q with pending := [] }

end Fifo

variable {α : Type} {n : Nat}

/-- `for i in 0..k { v.swap(i, d + i) }` -/
def swapUp (d : Nat) : Nat → Vector α n → Vector α n
  | 0, v => v
  | k + 1, v => (swapUp d k v).swapIfInBounds k (d + k)

private theorem getElem?_swapIfInBounds (v : Vector α n) {i j : Nat} (hi : i < n) (hj : j < n) (k : Nat) :
    (v.swapIfInBounds i j)[k]? = if j = k then v[i]? else if i = k then v[j]? else v[k]? := by
  have hswap : v.swapIfInBounds i j = v.swap i j hi hj := by
    apply Vector.toArray_inj.mp
    rw [Vector.toArray_swapIfInBounds, Vector.toArray_swap, Array.swapIfInBounds_def]
    simp [hi, hj]
  rw [hswap, Vector.getElem?_swap]
  simp [hi, hj]

/-- After the loop the first `k` cells are those from `d` places higher; those past the last swap are as they were. -/
theorem getElem?_swapUp (v : Vector α n) {d k : Nat} (hd : 0 < d) (hk : d + k ≤ n) :
    (∀ j < k, (swapUp d k v)[j]? = v[d + j]?) ∧ (∀ j, d + k ≤ j → (swapUp d k v)[j]? = v[j]?) := by
  induction k with
  | zero => exact ⟨fun j hj => absurd hj (Nat.not_lt_zero j), fun j _ => rfl⟩
  | succ k ih =>
    obtain ⟨hfront, htail⟩ := ih (by omega)
    have hget := getElem?_swapIfInBounds (swapUp d k v) (show k < n by omega) (show d + k < n by omega)
    refine ⟨fun j hj => ?_, fun j hj => ?_⟩
    · rw [swapUp, hget, if_neg (by omega)]
      by_cases heq : k = j
      · subst heq
        rw [if_pos rfl]
        exact htail (d + k) le_rfl
      · rw [if_neg heq]
        exact hfront j (by omega)
    · rw [swapUp, hget, if_neg (by omega), if_neg (by omega)]
      exact htail j (by omega)

end BatchQueue
