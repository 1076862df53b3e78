import Mathlib.Data.Set.Insert

/-! Sliding replay windows: the largest number accepted and a bit for each of the `size` numbers below it.  `Tracks`
ties the bits to the accepted numbers. -/
namespace SlidingWindow

variable {size last : Nat} {bit : Nat → Bool} {accepted : Set Nat}

/-- Numbers above everything accepted, or inside the window and not accepted. -/
def Fresh (size : Nat) (accepted : Set Nat) (c : Nat) : Prop :=
  (∀ a ∈ accepted, a < c) ∨ (∃ m ∈ accepted, (∀ a ∈ accepted, a ≤ m) ∧ m < c + size) ∧ c ∉ accepted

/-- The window `(last, bit)` has accepted exactly the numbers in `accepted`, as far as it can still
tell. -/
structure Tracks (size last : Nat) (bit : Nat → Bool) (accepted : Set Nat) : Prop where
  le_last : ∀ a ∈ accepted, a ≤ last
  last_mem : last ∈ accepted ∨ (accepted = ∅ ∧ last = 0)
  bit_iff : ∀ d < size, bit d = true ↔ d ≤ last ∧ last - d ∈ accepted

theorem tracks_empty : Tracks size 0 (fun _ => false) ∅ where
  le_last := by simp
  last_mem := .inr ⟨rfl, rfl⟩
  bit_iff := by simp

def advanceBit (last c : Nat) (bit : Nat → Bool) (d : Nat) : Bool :=
  decide (d = 0) || (decide (c - last ≤ d) && bit (d - (c - last)))

variable {c : Nat}

theorem Tracks.advance (h : Tracks size last bit accepted) (hc : last < c) :
    Tracks size c (advanceBit last c bit) (insert c accepted) where
  le_last := by
    intro a ha
    rcases Set.mem_insert_iff.mp ha with rfl | ha
    · exact Nat.le_refl a
    · exact (h.le_last a ha).trans hc.le
  last_mem := .inl (Set.mem_insert c accepted)
  bit_iff := by
    intro d hd
    rw [Set.mem_insert_iff, advanceBit, Bool.or_eq_true, Bool.and_eq_true, decide_eq_true_eq, decide_eq_true_eq]
    by_cases hshift : c - last ≤ d
    · have hold := h.bit_iff (d - (c - last)) (by omega)
      have hsub : d ≤ c → last - (d - (c - last)) = c - d := by omega
      rw [hold]
      constructor
      · rintro (rfl | ⟨-, hle, hmem⟩)
        · exact ⟨by omega, .inl (by omega)⟩
        · exact ⟨by omega, .inr (hsub (by omega) ▸ hmem)⟩
      · rintro ⟨hle, heq | hmem⟩
        · exact .inl (by omega)
        · exact .inr ⟨hshift, by omega, (hsub hle).symm ▸ hmem⟩
    · -- positions the move shifts in are clear: the numbers there lie above `last`
      have hclear : d ≤ c → c - d ∉ accepted := by
        intro hle hmem
        have := h.le_last _ hmem
        omega
      constructor
      · rintro (rfl | ⟨hle, -⟩)
        · exact ⟨by omega, .inl (by omega)⟩
        · exact absurd hle hshift
      · rintro ⟨hle, heq | hmem⟩
        · exact .inl (by omega)
        · exact absurd hmem (hclear hle)

def markBit (last c : Nat) (bit : Nat → Bool) (d : Nat) : Bool :=
  decide (d = last - c) || bit d

theorem Tracks.mark (h : Tracks size last bit accepted) (hc : c ≤ last) (hin : last - c < size) :
    Tracks size last (markBit last c bit) (insert c accepted) where
  le_last := by
    intro a ha
    rcases Set.mem_insert_iff.mp ha with rfl | ha
    · exact hc
    · exact h.le_last a ha
  last_mem := by
    left
    rcases h.last_mem with hmem | ⟨-, rfl⟩
    · exact Set.mem_insert_of_mem c hmem
    · obtain rfl : c = 0 := by omega
      exact Set.mem_insert 0 accepted
  bit_iff := by
    intro d hd
    rw [markBit, Bool.or_eq_true, decide_eq_true_eq, h.bit_iff d hd, Set.mem_insert_iff]
    constructor
    · rintro (rfl | ⟨hle, hmem⟩)
      · exact ⟨by omega, .inl (by omega)⟩
      · exact ⟨hle, .inr hmem⟩
    · rintro ⟨hle, heq | hmem⟩
      · exact .inl (by omega)
      · exact .inr ⟨hle, hmem⟩

theorem Tracks.congr (h : Tracks size last bit accepted) {bit' : Nat → Bool}
    (hbit : ∀ d < size, bit' d = bit d) : Tracks size last bit' accepted where
  le_last := h.le_last
  last_mem := h.last_mem
  bit_iff := by
    intro d hd
    rw [hbit d hd]
    exact h.bit_iff d hd

theorem Tracks.fresh_of_lt (h : Tracks size last bit accepted) (hc : last < c) : Fresh size accepted c :=
  .inl fun a ha => (h.le_last a ha).trans_lt hc

theorem Tracks.not_fresh_of_old (h : Tracks size last bit accepted) (hsize : 0 < size)
    (hold : c + size ≤ last) : ¬Fresh size accepted c := by
  have hmem : last ∈ accepted := by
    rcases h.last_mem with hmem | ⟨-, rfl⟩
    · exact hmem
    · omega
  rintro (hnew | ⟨⟨m, -, hmax, hin⟩, -⟩)
  · have := hnew last hmem
    omega
  · have := hmax last hmem
    omega

theorem Tracks.fresh_iff_bit (h : Tracks size last bit accepted) (hc : c ≤ last)
    (hin : last - c < size) : Fresh size accepted c ↔ bit (last - c) = false := by
  have hbit : bit (last - c) = true ↔ c ∈ accepted := by
    rw [h.bit_iff _ hin, Nat.sub_sub_self hc]
    exact and_iff_right (Nat.sub_le last c)
  rw [← Bool.not_eq_true, hbit]
  constructor
  · rintro (hnew | ⟨-, hmem⟩) hmem'
    · exact Nat.lt_irrefl c (hnew c hmem')
    · exact hmem hmem'
  · intro hmem
    rcases h.last_mem with hlast | ⟨rfl, -⟩
    · exact .inr ⟨⟨last, hlast, h.le_last, by omega⟩, hmem⟩
    · exact .inl fun a ha => absurd ha (Set.notMem_empty a)

end SlidingWindow
