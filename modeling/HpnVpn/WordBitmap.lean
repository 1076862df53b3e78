import Mathlib.Tactic.Ring
import HpnVpn.Runs

/-! Bitmaps as arrays of words, and the two moves of a shift: whole words, then bits with a carry.  Both run in place
from the last word down. -/
namespace WordBitmap
open Runs

/-! ### Loops that run down an array in place -/

/-- A descending loop that rewrites cell `i` from cells at or below `i` rewrites every cell from the
array it started with. -/
theorem forRev_set {α : Type} {n lo : Nat} {value : Nat → Vector α n → α}
    (hlocal : ∀ i v v', (∀ j ≤ i, v[j]? = v'[j]?) → value i v = value i v')
    (k : Nat) (v : Vector α n) (j : Nat) :
    (forRev lo (fun i v => v.setIfInBounds i (value i v)) k v)[j]? =
      if lo ≤ j ∧ j < lo + k ∧ j < n then some (value j v) else v[j]? := by
  induction k generalizing v with
  | zero =>
    rw [forRev, if_neg (by omega)]
  | succ k ih =>
    -- the cell just written lies above every cell the rest of the loop reads
    have hbelow : ∀ i < lo + k, ∀ x : α, value i (v.setIfInBounds (lo + k) x) = value i v := by
      intro i hi x
      refine hlocal i _ _ fun j hj => ?_
      rw [Vector.getElem?_setIfInBounds_ne (by omega)]
    rw [forRev, ih]
    by_cases hj : lo ≤ j ∧ j < lo + k ∧ j < n
    · rw [if_pos hj, if_pos ⟨hj.1, by omega, hj.2.2⟩, hbelow j hj.2.1]
    · rw [if_neg hj]
      by_cases hlast : j = lo + k
      · subst hlast
        by_cases hn : lo + k < n
        · rw [if_pos ⟨by omega, by omega, hn⟩]
          simp [hn]
        · rw [if_neg (by omega)]
          simp [hn]
      · rw [if_neg (by omega), Vector.getElem?_setIfInBounds_ne (by omega)]

/-! ### Bits of an array of words -/

section bits
variable {w n : Nat}

def word (v : Vector (BitVec w) n) (i : Nat) : BitVec w := v[i]?.getD 0#w

/-- Position `d` of the bitmap: word `d / w`, bit `d % w`. -/
def bit (v : Vector (BitVec w) n) (d : Nat) : Bool := (word v (d / w)).getLsbD (d % w)

variable {v v' : Vector (BitVec w) n}

theorem word_congr {i : Nat} (h : v[i]? = v'[i]?) : word v i = word v' i := by
  rw [word, word, h]

theorem word_of_size_le (v : Vector (BitVec w) n) {i : Nat} (h : n ≤ i) : word v i = 0#w := by
  rw [word, Vector.getElem?_eq_none h, Option.getD_none]

@[simp] theorem word_replicate_zero (i : Nat) : word (Vector.replicate n (0#w)) i = 0#w := by
  by_cases h : i < n
  · simp [word, h]
  · exact word_of_size_le _ (by omega)

@[simp] theorem bit_replicate_zero (d : Nat) : bit (Vector.replicate n (0#w)) d = false := by
  rw [bit, word_replicate_zero, BitVec.getLsbD_zero]

def clearFirst (k : Nat) (v : Vector (BitVec w) n) : Vector (BitVec w) n :=
  v.mapIdx fun i x => if i < k then 0#w else x

theorem word_clearFirst (k : Nat) (v : Vector (BitVec w) n) (i : Nat) :
    word (clearFirst k v) i = if i < k then 0#w else word v i := by
  unfold word clearFirst
  rw [Vector.getElem?_mapIdx]
  cases v[i]? with
  | none => simp
  | some x => split <;> simp [*]

theorem word_setIfInBounds (v : Vector (BitVec w) n) (i : Nat) (x : BitVec w) (j : Nat) :
    word (v.setIfInBounds i x) j = if i = j ∧ i < n then x else word v j := by
  unfold word
  by_cases hij : i = j
  · subst hij
    by_cases hi : i < n
    · rw [Vector.getElem?_setIfInBounds_self_of_lt hi, if_pos ⟨rfl, hi⟩, Option.getD_some]
    · rw [if_neg (by omega), Vector.getElem?_eq_none (by omega), Vector.getElem?_eq_none (by omega)]
  · rw [Vector.getElem?_setIfInBounds_ne hij, if_neg (by omega)]

private theorem eq_of_div_mod {a b : Nat} (hdiv : a / w = b / w) (hmod : a % w = b % w) : a = b := by
  rw [← Nat.div_add_mod a w, ← Nat.div_add_mod b w, hdiv, hmod]

theorem bit_setBit (v : Vector (BitVec w) n) {d : Nat} (hd : d < w * n) (e : Nat) :
    bit (v.setIfInBounds (d / w) (word v (d / w) ||| 1#w <<< (d % w))) e = (decide (e = d) || bit v e) := by
  have hw : 0 < w := Nat.pos_of_ne_zero (by rintro rfl; omega)
  have hword : d / w < n := Nat.div_lt_of_lt_mul hd
  unfold bit
  rw [word_setIfInBounds]
  by_cases hi : d / w = e / w
  · rw [if_pos ⟨hi, hword⟩, ← BitVec.twoPow_eq, BitVec.getLsbD_or, BitVec.getLsbD_twoPow, hi, Bool.or_comm]
    congr 1
    by_cases he : e = d
    · subst he
      simp [Nat.mod_lt _ hw]
    · have hmod : d % w ≠ e % w := fun h => he (eq_of_div_mod hi.symm h.symm)
      simp [he, hmod]
  · have he : e ≠ d := by
      rintro rfl
      exact hi rfl
    rw [if_neg (fun h => hi h.1), decide_eq_false he, Bool.false_or]

/-- Moving every word up by `ws` places moves every bit up by `ws * w` positions. -/
theorem bit_of_wordShift {ws : Nat}
    (hmove : ∀ i < n, word v' i = if i < ws then 0#w else word v (i - ws))
    {d : Nat} (hd : d < w * n) :
    bit v' d = (decide (ws * w ≤ d) && bit v (d - ws * w)) := by
  have hw : 0 < w := Nat.pos_of_ne_zero (by rintro rfl; omega)
  have hword : d / w < n := Nat.div_lt_of_lt_mul hd
  have hle : ws * w ≤ d ↔ ws ≤ d / w := (Nat.le_div_iff_mul_le hw).symm
  unfold bit
  rw [hmove _ hword]
  by_cases hws : ws ≤ d / w
  · rw [if_neg (by omega), decide_eq_true (hle.mpr hws), Bool.true_and,
      Nat.mul_comm ws w, Nat.sub_mul_div, Nat.sub_mul_mod (by rw [Nat.mul_comm]; exact hle.mpr hws)]
  · rw [if_pos (by omega), decide_eq_false (fun h => hws (hle.mp h)), Bool.false_and, BitVec.getLsbD_zero]

/-- Shifting every word left by `bs` bits, with the carry out of the word below, moves every bit up by
`bs` positions. -/
theorem bit_of_bitShift {bs : Nat} (hbs : bs < w)
    (hmove : ∀ i < n, word v' i = word v i <<< bs ||| (if i = 0 then 0#w else word v (i - 1) >>> (w - bs)))
    {d : Nat} (hd : d < w * n) :
    bit v' d = (decide (bs ≤ d) && bit v (d - bs)) := by
  have hw : 0 < w := by omega
  have hword : d / w < n := Nat.div_lt_of_lt_mul hd
  have hr : d % w < w := Nat.mod_lt _ hw
  have hdm : w * (d / w) + d % w = d := Nat.div_add_mod d w
  unfold bit
  rw [hmove _ hword, BitVec.getLsbD_or, BitVec.getLsbD_shiftLeft]
  by_cases hcarry : d % w < bs
  · rw [decide_eq_true hcarry]
    by_cases hzero : d / w = 0
    · have hlt : ¬bs ≤ d := by
        rw [hzero] at hdm
        omega
      simp [hzero, hlt]
    · -- the bit comes out of the word below
      obtain ⟨q, hq⟩ : ∃ q, d / w = q + 1 := Nat.exists_eq_succ_of_ne_zero hzero
      have hdq : d = w * q + (w + d % w) := by
        rw [hq, Nat.mul_succ] at hdm
        omega
      have hsub : d - bs = (w - bs + d % w) + w * q := by omega
      have hdiv : (d - bs) / w = q := by
        rw [hsub, Nat.add_mul_div_left _ _ hw, Nat.div_eq_of_lt (by omega), Nat.zero_add]
      have hmod : (d - bs) % w = w - bs + d % w := by
        rw [hsub, Nat.add_mul_mod_self_left, Nat.mod_eq_of_lt (by omega)]
      have hle : bs ≤ d := by omega
      rw [if_neg hzero, hdiv, hmod, hq, Nat.add_sub_cancel, BitVec.getLsbD_ushiftRight]
      simp [hle]
  · have hsub : d - bs = (d % w - bs) + w * (d / w) := by omega
    have hdiv : (d - bs) / w = d / w := by
      rw [hsub, Nat.add_mul_div_left _ _ hw, Nat.div_eq_of_lt (by omega), Nat.zero_add]
    have hmod : (d - bs) % w = d % w - bs := by
      rw [hsub, Nat.add_mul_mod_self_left, Nat.mod_eq_of_lt (by omega)]
    have hle : bs ≤ d := by omega
    have hhigh : (if d / w = 0 then 0#w else word v (d / w - 1) >>> (w - bs)).getLsbD (d % w) = false := by
      split
      · exact BitVec.getLsbD_zero
      · rw [BitVec.getLsbD_ushiftRight]
        exact BitVec.getLsbD_of_ge _ _ (by omega)
    rw [hhigh, hdiv, hmod]
    simp [hcarry, hr, hle]

/-! ### The words as one number -/

/-- The first `k` words, the lowest first. -/
def number (v : Vector (BitVec w) n) : Nat → Nat
  | 0 => 0
  | k + 1 => 2 ^ (w * k) * (word v k).toNat + number v k

theorem number_lt (v : Vector (BitVec w) n) (k : Nat) : number v k < 2 ^ (w * k) := by
  induction k with
  | zero => exact Nat.one_pos
  | succ k ih =>
    rw [number, Nat.mul_succ, Nat.pow_add]
    calc 2 ^ (w * k) * (word v k).toNat + number v k
        < 2 ^ (w * k) * (word v k).toNat + 2 ^ (w * k) := Nat.add_lt_add_left ih _
      _ ≤ 2 ^ (w * k) * 2 ^ w := Nat.mul_le_mul_left _ (word v k).isLt

theorem testBit_number (hw : 0 < w) (v : Vector (BitVec w) n) (k d : Nat) :
    (number v k).testBit d = (decide (d < w * k) && bit v d) := by
  induction k with
  | zero => simp [number]
  | succ k ih =>
    rw [number, Nat.testBit_two_pow_mul_add _ (number_lt v k), Nat.mul_succ]
    split
    · next hlow => rw [ih, decide_eq_true hlow, decide_eq_true (by omega)]
    · next hhigh =>
      by_cases hin : d < w * k + w
      · have hmod : d % w = d - w * k := by
          rw [show d = d - w * k + w * k by omega, Nat.add_mul_mod_self_left, Nat.mod_eq_of_lt (by omega)]
          omega
        have hdiv : d / w = k := by
          rw [show d = d - w * k + w * k by omega, Nat.add_mul_div_left _ _ hw, Nat.div_eq_of_lt (by omega), Nat.zero_add]
        rw [bit, hdiv, hmod, decide_eq_true hin, Bool.true_and]
        rfl
      · rw [decide_eq_false hin, Bool.false_and]
        exact BitVec.getLsbD_of_ge _ _ (by omega)

end bits

end WordBitmap
