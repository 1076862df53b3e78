import HpnVpn.Types

/-! How the standard library reads numbers and addresses from texts. -/
namespace HpnVpn
open Wire

/-- A decimal number below 256; a plus sign may stand in front. -/
def parseU8 (text : List Char) : Option UInt8 := do
  let digits := match text with
    | '+' :: rest => rest
    | _ => text
  guard (digits ≠ [])
  let n ← digits.foldlM (fun n c => do
    guard c.isDigit
    let n := 10 * n + (c.toNat - '0'.toNat)
    guard (n ≤ 255)
    return n) 0
  return UInt8.ofNat n

/-- The characters the standard library trims from a text. -/
def isTrimmed (c : Char) : Bool :=
  c.toNat ∈ [0x20, 0x85, 0xA0, 0x1680, 0x2028, 0x2029, 0x202F, 0x205F, 0x3000] ∨
    0x09 ≤ c.toNat ∧ c.toNat ≤ 0x0D ∨ 0x2000 ≤ c.toNat ∧ c.toNat ≤ 0x200A

def trimmed (text : String) : List Char :=
  ((text.toList.dropWhile isTrimmed).reverse.dropWhile isTrimmed).reverse

/-- A decimal number below 256 without a sign or leading zeros. -/
def parseOctet (text : List Char) : Option UInt8 := do
  guard (text.all Char.isDigit ∧ (text.length ≤ 1 ∨ text.head? ≠ some '0'))
  parseU8 text

def parseIpv4 (text : List Char) : Option (Block 4) :=
  match text.splitOn '.' with
  | [a, b, c, d] => do
    let a ← parseOctet a
    let b ← parseOctet b
    let c ← parseOctet c
    let d ← parseOctet d
    return ipv4 a b c d
  | _ => none

end HpnVpn
