import HpnVpn.Bytes

/-! Leading zero bits of a byte string, counted byte by byte, and what the count says about the bits. -/
namespace LeadingZeros
open Wire

def bits (b : UInt8) : List Bool := (List.range 8).map fun i => b.toNat.testBit (7 - i)

@[simp] theorem length_bits (b : UInt8) : (bits b).length = 8 := by simp [bits]

def byteZeros (b : UInt8) : Nat := ((bits b).takeWhile not).length

theorem byteZeros_le (b : UInt8) : byteZeros b ≤ 8 := by
  have h := (List.takeWhile_sublist not (l := bits b)).length_le
  rwa [length_bits] at h

/-- Zero bits are counted up to the first byte that is not zero. -/
def leadingZeros : Bytes → Nat
  | [] => 0
  | b :: rest => if byteZeros b < 8 then byteZeros b else byteZeros b + leadingZeros rest

theorem leadingZeros_eq (bytes : Bytes) : leadingZeros bytes = ((bytes.flatMap bits).takeWhile not).length := by
  induction bytes with
  | nil => rfl
  | cons b rest ih =>
    rw [leadingZeros, List.flatMap_cons, List.takeWhile_append, length_bits]
    have hle := byteZeros_le b
    change _ = (if byteZeros b = 8 then _ else _ : List Bool).length
    by_cases hfull : byteZeros b = 8
    · rw [if_neg (by omega), if_pos hfull, List.length_append, length_bits, ih, hfull]
    · rw [if_pos (by omega), if_neg hfull]
      rfl

theorem replicate_isPrefix_iff {d : Nat} {l : List Bool} :
    List.replicate d false <+: l ↔ d ≤ (l.takeWhile not).length := by
  induction l generalizing d with
  | nil =>
    rw [List.prefix_nil, List.takeWhile_nil, List.length_nil, List.replicate_eq_nil_iff]
    omega
  | cons bit l ih =>
    cases d with
    | zero => simp
    | succ d =>
      rw [List.replicate_succ, List.cons_prefix_cons, ih]
      cases bit <;> simp

theorem le_leadingZeros_iff {d : Nat} {bytes : Bytes} :
    d ≤ leadingZeros bytes ↔ List.replicate d false <+: bytes.flatMap bits := by
  rw [leadingZeros_eq, replicate_isPrefix_iff]

end LeadingZeros
