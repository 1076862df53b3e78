import HpnVpn.Types
import HpnVpn.WordBitmap
import HpnVpn.SlidingWindow
import HpnVpn.Runs

/-! The anti-replay window of a session: the largest counter and a bitmap of 8192 positions below it, as 64 words of
128 bits. -/
namespace HpnVpn
open WordBitmap Runs

def replayWindowSize : UInt64 := 8192

def bitmapWords : Nat := replayWindowSize.toNat / 128

theorem bitmap_positions : 128 * bitmapWords = replayWindowSize.toNat := by decide

abbrev Bitmap := Vector (BitVec 128) bitmapWords

structure AntiReplayWindow where
  lastCounter : UInt64
  bitmap : Bitmap
deriving DecidableEq

namespace AntiReplayWindow

def new : AntiReplayWindow := ⟨0, Vector.replicate bitmapWords 0⟩

def shiftBitmap (bitmap : Bitmap) (shift : UInt64) : Bitmap :=
  if shift ≥ replayWindowSize then Vector.replicate bitmapWords 0
  else
    let shift := shift.toNat
    let wordShift := shift / 128
    let bitShift := shift % 128
    let bitmap :=
      if wordShift > 0 then
        clearFirst wordShift
          (forRev wordShift (fun i b => b.setIfInBounds i (word b (i - wordShift))) (bitmapWords - wordShift) bitmap)
      else bitmap
    if bitShift > 0 then
      let bitmap :=
        forRev 1 (fun i b => b.setIfInBounds i (word b i <<< bitShift ||| word b (i - 1) >>> (128 - bitShift)))
          (bitmapWords - 1) bitmap
      bitmap.setIfInBounds 0 (word bitmap 0 <<< bitShift)
    else bitmap

def checkAndUpdate (w : AntiReplayWindow) (counter : Counter) : AntiReplayWindow × Bool :=
  if counter > w.lastCounter then
    let bitmap := shiftBitmap w.bitmap (counter - w.lastCounter)
    (⟨counter, bitmap.setIfInBounds 0 (word bitmap 0 ||| 1)⟩, true)
  else
    let diff := w.lastCounter - counter
    if diff ≥ replayWindowSize then (w, false)
    else
      let wordIdx := diff.toNat / 128
      let bitIdx := diff.toNat % 128
      if wordIdx ≥ bitmapWords then (w, false)
      else
        let mask := 1#128 <<< bitIdx
        if word w.bitmap wordIdx &&& mask ≠ 0 then (w, false)
        else ({ w with bitmap := w.bitmap.setIfInBounds wordIdx (word w.bitmap wordIdx ||| mask) }, true)

def check (w : AntiReplayWindow) (counter : Counter) : Bool :=
  if counter > w.lastCounter then true
  else
    let diff := w.lastCounter - counter
    if diff ≥ replayWindowSize then false
    else
      let wordIdx := diff.toNat / 128
      let bitIdx := diff.toNat % 128
      if wordIdx ≥ bitmapWords then false
      else word w.bitmap wordIdx &&& 1#128 <<< bitIdx == 0

def reset (_ : AntiReplayWindow) : AntiReplayWindow := ⟨0, Vector.replicate bitmapWords 0⟩

/-! ### The shift -/

variable (bitmap : Bitmap)

theorem word_moveWords {ws : Nat} {i : Nat} (hi : i < bitmapWords) :
    word (clearFirst ws (forRev ws (fun i b => b.setIfInBounds i (word b (i - ws)))
      (bitmapWords - ws) bitmap)) i = if i < ws then 0#128 else word bitmap (i - ws) := by
  have hlocal : ∀ (i : Nat) (b b' : Bitmap), (∀ j ≤ i, b[j]? = b'[j]?) → word b (i - ws) = word b' (i - ws) :=
    fun i b b' h => word_congr (h (i - ws) (Nat.sub_le i ws))
  rw [word_clearFirst]
  by_cases hws : i < ws
  · rw [if_pos hws, if_pos hws]
  · rw [if_neg hws, if_neg hws]
    conv_lhs => rw [word, forRev_set hlocal, if_pos ⟨by omega, by omega, hi⟩, Option.getD_some]

theorem word_moveBits {bs : Nat} {i : Nat} (hi : i < bitmapWords) :
    let moved := forRev 1 (fun i (b : Bitmap) =>
      b.setIfInBounds i (word b i <<< bs ||| word b (i - 1) >>> (128 - bs))) (bitmapWords - 1) bitmap
    word (moved.setIfInBounds 0 (word moved 0 <<< bs)) i =
      word bitmap i <<< bs ||| (if i = 0 then 0#128 else word bitmap (i - 1) >>> (128 - bs)) := by
  intro moved
  have hlocal : ∀ (i : Nat) (b b' : Bitmap), (∀ j ≤ i, b[j]? = b'[j]?) →
      word b i <<< bs ||| word b (i - 1) >>> (128 - bs) = word b' i <<< bs ||| word b' (i - 1) >>> (128 - bs) := by
    intro i b b' h
    rw [word_congr (h i le_rfl), word_congr (h (i - 1) (Nat.sub_le i 1))]
  have hmoved : ∀ j, moved[j]? = if 1 ≤ j ∧ j < 1 + (bitmapWords - 1) ∧ j < bitmapWords then
      some (word bitmap j <<< bs ||| word bitmap (j - 1) >>> (128 - bs)) else bitmap[j]? :=
    fun j => forRev_set hlocal _ _ j
  rw [word_setIfInBounds]
  by_cases hzero : i = 0
  · subst hzero
    have h0 : moved[0]? = bitmap[0]? := by rw [hmoved, if_neg (by omega)]
    rw [if_pos ⟨rfl, hi⟩, if_pos rfl, BitVec.or_zero, word_congr h0]
  · rw [if_neg (fun h => hzero h.1.symm), if_neg hzero, word, hmoved, if_pos ⟨by omega, by omega, hi⟩, Option.getD_some]

/-- `shift_bitmap` moves every position up by `shift`, for every `shift`. -/
theorem bit_shiftBitmap (shift : UInt64) {d : Nat} (hd : d < replayWindowSize.toNat) :
    bit (shiftBitmap bitmap shift) d = (decide (shift.toNat ≤ d) && bit bitmap (d - shift.toNat)) := by
  have hd' : d < 128 * bitmapWords := bitmap_positions ▸ hd
  by_cases hbig : shift ≥ replayWindowSize
  · have hle : replayWindowSize.toNat ≤ shift.toNat := UInt64.le_iff_toNat_le.mp hbig
    rw [shiftBitmap, if_pos hbig, BitVec.ofNat_eq_ofNat, bit_replicate_zero, decide_eq_false (by omega), Bool.false_and]
  · let wordShift := shift.toNat / 128
    let bitShift := shift.toNat % 128
    let moved : Bitmap :=
      if wordShift > 0 then
        clearFirst wordShift
          (forRev wordShift (fun i b => b.setIfInBounds i (word b (i - wordShift))) (bitmapWords - wordShift) bitmap)
      else bitmap
    have hsplit : wordShift * 128 + bitShift = shift.toNat := by
      rw [Nat.mul_comm]
      exact Nat.div_add_mod shift.toNat 128
    have hmoved : ∀ e < 128 * bitmapWords,
        bit moved e = (decide (wordShift * 128 ≤ e) && bit bitmap (e - wordShift * 128)) := by
      intro e he
      by_cases hws : wordShift > 0
      · have heq : moved = clearFirst wordShift
            (forRev wordShift (fun i b => b.setIfInBounds i (word b (i - wordShift)))
              (bitmapWords - wordShift) bitmap) := if_pos hws
        rw [heq]
        exact bit_of_wordShift (fun i hi => word_moveWords bitmap hi) he
      · have heq : moved = bitmap := if_neg hws
        have hzero : wordShift = 0 := by omega
        rw [heq, hzero]
        simp
    rw [shiftBitmap, if_neg hbig]
    by_cases hbs : bitShift > 0
    · have hbits := bit_of_bitShift (v := moved) (show bitShift < 128 by omega) (fun i hi => word_moveBits moved hi) hd'
      rw [if_pos hbs]
      refine hbits.trans ?_
      rw [hmoved _ (by omega), ← Bool.and_assoc, ← Bool.decide_and, Nat.sub_sub, Nat.add_comm bitShift, hsplit]
      congr 2
      exact propext ⟨by omega, by omega⟩
    · have hzero : bitShift = 0 := by omega
      rw [if_neg hbs, hmoved d hd', ← hsplit, hzero, Nat.add_zero]

/-- The words are one number of 8192 bits, and the shift multiplies it by a power of two. -/
theorem shiftBitmap_number (bitmap : Bitmap) (shift : UInt64) :
    number (shiftBitmap bitmap shift) 64 = number bitmap 64 * 2 ^ shift.toNat % 2 ^ 8192 := by
  apply Nat.eq_of_testBit_eq
  intro d
  rw [testBit_number (by decide), Nat.testBit_mod_two_pow, Nat.testBit_mul_two_pow, testBit_number (by decide)]
  by_cases hd : d < 8192
  · rw [bit_shiftBitmap bitmap shift hd]
    simp [hd, show d - shift.toNat < 8192 by omega]
  · simp [hd]

/-! ### One counter -/

def numbers (counters : List Counter) : Set Nat := {n | ∃ c ∈ counters, c.toNat = n}

theorem numbers_cons (c : Counter) (counters : List Counter) :
    numbers (c :: counters) = insert c.toNat (numbers counters) := by
  ext n
  simp [numbers, eq_comm]

variable {c : Counter}

theorem toNat_mem_numbers {counters : List Counter} : c.toNat ∈ numbers counters ↔ c ∈ counters := by
  constructor
  · rintro ⟨a, ha, heq⟩
    rwa [← UInt64.toNat_inj.mp heq]
  · exact fun h => ⟨c, h, rfl⟩

def Tracks (w : AntiReplayWindow) (accepted : List Counter) : Prop :=
  SlidingWindow.Tracks replayWindowSize.toNat w.lastCounter.toNat (bit w.bitmap) (numbers accepted)

/-- Larger than every accepted counter, or at most 8191 below the largest and not one of them. -/
def Fresh (accepted : List Counter) (c : Counter) : Prop :=
  (∀ a ∈ accepted, a < c) ∨ (∃ m ∈ accepted, (∀ a ∈ accepted, a ≤ m) ∧ m.toNat ≤ c.toNat + 8191) ∧ c ∉ accepted

variable {accepted : List Counter}

theorem fresh_iff : Fresh accepted c ↔ SlidingWindow.Fresh replayWindowSize.toNat (numbers accepted) c.toNat := by
  have hsize : replayWindowSize.toNat = 8192 := by decide
  have hnew : (∀ a ∈ accepted, a < c) ↔ ∀ n ∈ numbers accepted, n < c.toNat := by
    simp [numbers, UInt64.lt_iff_toNat_lt]
  have hmax : ∀ m : Counter, (∀ a ∈ accepted, a ≤ m) ↔ ∀ n ∈ numbers accepted, n ≤ m.toNat := by
    intro m
    simp [numbers, UInt64.le_iff_toNat_le]
  have hlargest : (∃ m ∈ accepted, (∀ a ∈ accepted, a ≤ m) ∧ m.toNat ≤ c.toNat + 8191) ↔
      ∃ n ∈ numbers accepted, (∀ k ∈ numbers accepted, k ≤ n) ∧ n < c.toNat + 8192 := by
    constructor
    · rintro ⟨m, hm, hle, hin⟩
      exact ⟨m.toNat, ⟨m, hm, rfl⟩, (hmax m).mp hle, by omega⟩
    · rintro ⟨_, ⟨m, hm, rfl⟩, hle, hin⟩
      exact ⟨m, hm, (hmax m).mpr hle, by omega⟩
  rw [Fresh, SlidingWindow.Fresh, hsize, hnew, hlargest, toNat_mem_numbers]

theorem tracks_new : new.Tracks [] := by
  have hempty : numbers [] = ∅ := by simp [numbers]
  rw [Tracks, hempty]
  exact SlidingWindow.tracks_empty.congr fun d _ => bit_replicate_zero d

theorem tracks_reset (w : AntiReplayWindow) : w.reset.Tracks [] := tracks_new

private theorem mask_and_eq_zero (x : BitVec 128) {b : Nat} (hb : b < 128) :
    x &&& 1#128 <<< b = 0 ↔ x.getLsbD b = false := by
  rw [← BitVec.twoPow_eq]
  constructor
  · intro h
    have hbit := congrArg (fun y : BitVec 128 => y.getLsbD b) h
    simpa [hb] using hbit
  · intro h
    rw [BitVec.and_twoPow, h]
    rfl

variable {w : AntiReplayWindow} {counter : Counter}

theorem tracks_advance (h : w.Tracks accepted) (hnew : w.lastCounter < counter) :
    (w.checkAndUpdate counter).2 = true ∧ (w.checkAndUpdate counter).1.Tracks (counter :: accepted) := by
  have hlt : w.lastCounter.toNat < counter.toNat := UInt64.lt_iff_toNat_lt.mp hnew
  have hsub : (counter - w.lastCounter).toNat = counter.toNat - w.lastCounter.toNat :=
    UInt64.toNat_sub_of_le _ _ (UInt64.le_of_lt hnew)
  rw [checkAndUpdate, if_pos hnew, Tracks, numbers_cons]
  refine ⟨rfl, (SlidingWindow.Tracks.advance h hlt).congr fun d hd => ?_⟩
  have hset := bit_setBit (shiftBitmap w.bitmap (counter - w.lastCounter)) (show 0 < 128 * bitmapWords by decide) d
  rw [SlidingWindow.advanceBit, ← hsub, ← bit_shiftBitmap w.bitmap _ hd]
  exact hset

theorem tracks_mark (h : w.Tracks accepted) (hold : counter ≤ w.lastCounter)
    (hin : w.lastCounter.toNat - counter.toNat < replayWindowSize.toNat) :
    let d := w.lastCounter.toNat - counter.toNat
    AntiReplayWindow.Tracks ⟨w.lastCounter, w.bitmap.setIfInBounds (d / 128)
      (word w.bitmap (d / 128) ||| 1#128 <<< (d % 128))⟩ (counter :: accepted) := by
  intro d
  rw [Tracks, numbers_cons]
  have hle : counter.toNat ≤ w.lastCounter.toNat := UInt64.le_iff_toNat_le.mp hold
  refine (SlidingWindow.Tracks.mark h hle hin).congr fun e _ => ?_
  exact bit_setBit w.bitmap (bitmap_positions ▸ hin) e

theorem checkAndUpdate_spec (h : w.Tracks accepted) (counter : Counter) :
    (Fresh accepted counter ∧ (w.checkAndUpdate counter).2 = true ∧
        (w.checkAndUpdate counter).1.Tracks (counter :: accepted)) ∨
      (¬Fresh accepted counter ∧ w.checkAndUpdate counter = (w, false)) := by
  by_cases hnew : w.lastCounter < counter
  · have hlt : w.lastCounter.toNat < counter.toNat := UInt64.lt_iff_toNat_lt.mp hnew
    exact .inl ⟨fresh_iff.mpr (SlidingWindow.Tracks.fresh_of_lt h hlt), tracks_advance h hnew⟩
  · have hold : counter ≤ w.lastCounter := UInt64.not_lt.mp hnew
    have hle : counter.toNat ≤ w.lastCounter.toNat := UInt64.le_iff_toNat_le.mp hold
    have hdiff : (w.lastCounter - counter).toNat = w.lastCounter.toNat - counter.toNat :=
      UInt64.toNat_sub_of_le _ _ hold
    rw [checkAndUpdate, if_neg hnew]
    simp only [ge_iff_le, hdiff, UInt64.le_iff_toNat_le]
    by_cases hout : replayWindowSize.toNat ≤ w.lastCounter.toNat - counter.toNat
    · rw [if_pos hout]
      have hpos : 0 < replayWindowSize.toNat := by decide
      rw [fresh_iff]
      exact .inr ⟨SlidingWindow.Tracks.not_fresh_of_old h hpos (by omega), rfl⟩
    · have hin : w.lastCounter.toNat - counter.toNat < replayWindowSize.toNat := Nat.lt_of_not_le hout
      have hword : ¬bitmapWords ≤ (w.lastCounter.toNat - counter.toNat) / 128 :=
        Nat.not_le.mpr (Nat.div_lt_of_lt_mul (bitmap_positions ▸ hin))
      have hfresh := fresh_iff.trans (SlidingWindow.Tracks.fresh_iff_bit h hle hin)
      have hmask := mask_and_eq_zero (word w.bitmap ((w.lastCounter.toNat - counter.toNat) / 128))
        (Nat.mod_lt (w.lastCounter.toNat - counter.toNat) (show 0 < 128 by decide))
      rw [if_neg hout, if_neg hword]
      by_cases hseen : bit w.bitmap (w.lastCounter.toNat - counter.toNat) = false
      · rw [if_neg (not_not.mpr (hmask.mpr hseen))]
        exact .inl ⟨hfresh.mpr hseen, rfl, tracks_mark h hold hin⟩
      · rw [if_pos (fun hzero => hseen (hmask.mp hzero))]
        exact .inr ⟨fun hf => hseen (hfresh.mp hf), rfl⟩

theorem Tracks.fresh_of_within (h : w.Tracks accepted)
    (hnew : c ∉ accepted) (hwithin : ∀ a ∈ accepted, a.toNat ≤ c.toNat + 8191) :
    Fresh accepted c := by
  rcases h.last_mem with ⟨m, hm, hlast⟩ | ⟨hempty, -⟩
  · refine .inr ⟨⟨m, hm, fun a ha => ?_, hwithin m hm⟩, hnew⟩
    rw [UInt64.le_iff_toNat_le, hlast]
    exact h.le_last _ ⟨a, ha, rfl⟩
  · refine .inl fun a ha => absurd (show a.toNat ∈ numbers accepted from ⟨a, ha, rfl⟩) ?_
    rw [hempty]
    exact Set.notMem_empty _

theorem checkAndUpdate_accepts_iff (h : w.Tracks accepted)
    (counter : Counter) : (w.checkAndUpdate counter).2 = true ↔ Fresh accepted counter := by
  rcases checkAndUpdate_spec h counter with ⟨hfresh, hok, -⟩ | ⟨hfresh, hno⟩
  · exact iff_of_true hok hfresh
  · refine iff_of_false ?_ hfresh
    rw [hno]
    exact Bool.false_ne_true

theorem checkAndUpdate_refused (h : (w.checkAndUpdate counter).2 = false) : (w.checkAndUpdate counter).1 = w := by
  unfold checkAndUpdate at h ⊢
  split
  case isTrue hnew => rw [if_pos hnew] at h; cases h
  case isFalse hnew =>
      rw [if_neg hnew] at h
      dsimp only at h ⊢
      split
      case isTrue => rfl
      case isFalse hin =>
          rw [if_neg hin] at h
          split
          case isTrue => rfl
          case isFalse hword =>
              rw [if_neg hword] at h
              split
              case isTrue => rfl
              case isFalse hseen => rw [if_neg hseen] at h; cases h

theorem checkAndUpdate_ne (h : (w.checkAndUpdate counter).2 = true) : (w.checkAndUpdate counter).1 ≠ w := by
  unfold checkAndUpdate at h ⊢
  split
  case isTrue hnew =>
      intro heq
      have hlast : counter = w.lastCounter := congrArg AntiReplayWindow.lastCounter heq
      exact UInt64.lt_irrefl _ (hlast ▸ hnew)
  case isFalse hnew =>
      rw [if_neg hnew] at h
      dsimp only at h ⊢
      split
      case isTrue hout => rw [if_pos hout] at h; cases h
      case isFalse hin =>
          rw [if_neg hin] at h
          split
          case isTrue hword => rw [if_pos hword] at h; cases h
          case isFalse hword =>
              rw [if_neg hword] at h
              split
              case isTrue hseen => rw [if_pos hseen] at h; cases h
              case isFalse hseen =>
                  -- the bit was clear, so setting it changes its word
                  intro heq
                  have hbitmap := congrArg AntiReplayWindow.bitmap heq
                  have hsame := congrArg (fun b => word b ((w.lastCounter - counter).toNat / 128)) hbitmap
                  rw [word_setIfInBounds, if_pos ⟨rfl, by omega⟩] at hsame
                  have hlt : (w.lastCounter - counter).toNat % 128 < 128 := Nat.mod_lt _ (by omega)
                  have hclear := (mask_and_eq_zero _ hlt).mp (not_not.mp hseen)
                  generalize (w.lastCounter - counter).toNat % 128 = k at hsame hclear hlt
                  have hbit := congrArg (fun x : BitVec 128 => x.getLsbD k) hsame
                  have hset : (1#128 <<< k).getLsbD k = true := by
                    rw [← BitVec.twoPow_eq, BitVec.getLsbD_twoPow]
                    simp [hlt]
                  rw [BitVec.getLsbD_or, hclear, hset] at hbit
                  cases hbit

theorem check_eq (w : AntiReplayWindow) (counter : Counter) : w.check counter = (w.checkAndUpdate counter).2 := by
  unfold check checkAndUpdate
  split
  · rfl
  · dsimp only
    split
    · rfl
    · split
      · rfl
      · split <;> simp_all

/-! ### Sequences of counters -/

abbrev History := AntiReplayWindow × List Counter

def observe (s : History) (c : Counter) : History :=
  let (w, ok) := s.1.checkAndUpdate c
  (w, if ok then c :: s.2 else s.2)

theorem Fresh.notMem (h : Fresh accepted c) : c ∉ accepted := by
  rcases h with hnew | ⟨-, hmem⟩
  · exact fun hmem => UInt64.lt_irrefl c (hnew c hmem)
  · exact hmem

def Exact (s : History) : Prop := s.1.Tracks s.2 ∧ s.2.Nodup

theorem exact_observe (s : History) (c : Counter) (h : Exact s) : Exact (observe s c) := by
  obtain ⟨htracks, hnodup⟩ := h
  rw [observe]
  rcases checkAndUpdate_spec htracks c with ⟨hfresh, hok, htracks'⟩ | ⟨-, hno⟩
  · simp only [hok, if_true]
    exact ⟨htracks', List.nodup_cons.mpr ⟨hfresh.notMem, hnodup⟩⟩
  · simp only [hno, Bool.false_eq_true, if_false]
    exact ⟨htracks, hnodup⟩

/-- On a fresh window each counter is accepted exactly when it is fresh for those accepted so far, and none twice. -/
theorem checkAndUpdate_exact (before : List Counter) (c : Counter) :
    let (w, accepted) := Runs.exec observe (new, []) before
    ((w.checkAndUpdate c).2 = true ↔
      (∀ a ∈ accepted, a < c) ∨ (∃ m ∈ accepted, (∀ a ∈ accepted, a ≤ m) ∧ m.toNat ≤ c.toNat + 8191) ∧ c ∉ accepted) ∧
      accepted.Nodup := by
  obtain ⟨htracks, hnodup⟩ :=
    Runs.exec_invariant exact_observe before (new, []) ⟨tracks_new, List.nodup_nil⟩
  exact ⟨checkAndUpdate_accepts_iff htracks c, hnodup⟩

inductive Call
  | checkAndUpdate (counter : Counter)
  | check (counter : Counter)
  | reset

/-- What a call leaves and what it returns. -/
def call (w : AntiReplayWindow) : Call → AntiReplayWindow × Option Bool
  | .checkAndUpdate counter => (w.checkAndUpdate counter).map id some
  | .check counter => (w, some (w.check counter))
  | .reset => (w.reset, none)

def calls (w : AntiReplayWindow) : List Call → AntiReplayWindow × List (Option Bool)
  | [] => (w, [])
  | c :: later => ((w.call c).1.calls later).map id ((w.call c).2 :: ·)

/-- A check answers what the update would answer and changes nothing, and a reset window is a fresh one. -/
theorem check_exact (before : List Call) :
    let w := (new.calls before).1
    (∀ counter, w.call (.check counter) = (w, (w.call (.checkAndUpdate counter)).2)) ∧
      ∀ later, (w.call .reset).1.calls later = new.calls later :=
  ⟨fun counter => congrArg (_, some ·) (check_eq _ counter), fun _ => rfl⟩

end AntiReplayWindow
end HpnVpn
