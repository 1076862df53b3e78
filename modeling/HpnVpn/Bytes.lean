import Mathlib.Data.List.Basic
import Mathlib.Data.Nat.ModEq
import Mathlib.Tactic.Ring
import Mathlib.Tactic.NormNum

/-! Byte strings, fixed-size blocks, fixed-width integers and sequential reads.  A decoder is a chain of reads, each
taking one block or stopping with the error its caller names. -/
namespace Wire

abbrev Bytes := List UInt8

structure Block (n : Nat) where
  bytes : Bytes
  length_eq : bytes.length = n
deriving DecidableEq

namespace Block
variable {n m : Nat}

@[simp] theorem length_bytes (b : Block n) : b.bytes.length = n := b.length_eq

variable {a b : Block n}

@[ext] theorem ext (h : a.bytes = b.bytes) : a = b := by
  cases a
  cases b
  simp_all

@[simp] theorem bytes_inj : a.bytes = b.bytes ↔ a = b :=
  ⟨ext, congrArg _⟩

def replicate (n : Nat) (b : UInt8) : Block n := ⟨List.replicate n b, by simp⟩

instance : Inhabited (Block n) := ⟨replicate n 0⟩

def fit (n : Nat) (bytes : Bytes) : Block n := ⟨(bytes ++ List.replicate n 0).take n, by simp⟩

def slice (b : Block n) (i m : Nat) (h : i + m ≤ n) : Block m :=
  ⟨(b.bytes.drop i).take m, by
    rw [List.length_take, List.length_drop, length_bytes]
    omega⟩

def ofBytes (n : Nat) (bytes : Bytes) : Option (Block n) :=
  if h : bytes.length = n then some ⟨bytes, h⟩ else none

@[simp] theorem ofBytes_bytes (b : Block n) : ofBytes n b.bytes = some b :=
  dif_pos b.length_eq

theorem ofBytes_eq_some {bytes : Bytes} : ofBytes n bytes = some b ↔ bytes = b.bytes := by
  constructor
  · intro h
    unfold ofBytes at h
    split at h
    · exact congrArg Block.bytes (Option.some.inj h)
    · cases h
  · intro h
    rw [h, ofBytes_bytes]

def append (a : Block n) (b : Block m) : Block (n + m) :=
  ⟨a.bytes ++ b.bytes, by simp⟩

@[simp] theorem bytes_append (a : Block n) (b : Block m) : (a.append b).bytes = a.bytes ++ b.bytes := rfl

theorem append_injective {a' : Block n} {b b' : Block m} (h : a.append b = a'.append b') : a = a' ∧ b = b' := by
  have hbytes := congrArg Block.bytes h
  obtain ⟨ha, hb⟩ := List.append_inj hbytes (by simp)
  exact ⟨ext ha, ext hb⟩

end Block

variable {n : Nat}

theorem block_append_inj {a b : Block n} {x y : Bytes} (h : a.bytes ++ x = b.bytes ++ y) : a = b ∧ x = y := by
  obtain ⟨ha, hx⟩ := List.append_inj h (by simp)
  exact ⟨Block.ext ha, hx⟩

/-! ### Fixed-width integers -/

def toLE : Nat → Nat → Bytes
  | 0, _ => []
  | w + 1, n => UInt8.ofNat n :: toLE w (n / 256)

def ofLE : Bytes → Nat
  | [] => 0
  | b :: bs => b.toNat + 256 * ofLE bs

@[simp] theorem toLE_length (w n : Nat) : (toLE w n).length = w := by
  induction w generalizing n with
  | zero => rfl
  | succ w ih => simp [toLE, ih]

variable {w : Nat}

theorem ofLE_toLE (h : n < 256 ^ w) : ofLE (toLE w n) = n := by
  induction w generalizing n with
  | zero =>
    simp only [pow_zero, Nat.lt_one_iff] at h
    simp [toLE, ofLE, h]
  | succ w ih =>
    have hdiv : n / 256 < 256 ^ w := by
      rw [Nat.div_lt_iff_lt_mul (by norm_num)]
      rwa [pow_succ] at h
    have hbyte : (UInt8.ofNat n).toNat = n % 256 := by simp
    rw [toLE, ofLE, ih hdiv, hbyte]
    omega

theorem ofLE_lt (b : Bytes) : ofLE b < 256 ^ b.length := by
  induction b with
  | nil => simp [ofLE]
  | cons a bs ih =>
    have ha : a.toNat < 256 := a.toNat_lt
    rw [ofLE, List.length_cons, pow_succ]
    omega

theorem ofLE_append (x y : Bytes) : ofLE (x ++ y) = ofLE x + 256 ^ x.length * ofLE y := by
  induction x with
  | nil => simp [ofLE]
  | cons b x ih =>
    rw [List.cons_append, ofLE, ofLE, ih, List.length_cons, Nat.pow_succ]
    ring

theorem toLE_ofLE (b : Bytes) : toLE b.length (ofLE b) = b := by
  induction b with
  | nil => rfl
  | cons a bs ih =>
    have ha : a.toNat < 256 := a.toNat_lt
    have hdiv : (a.toNat + 256 * ofLE bs) / 256 = ofLE bs := by omega
    have hbyte : UInt8.ofNat (a.toNat + 256 * ofLE bs) = a := by
      apply UInt8.toNat_inj.mp
      simp only [UInt8.toNat_ofNat']
      omega
    rw [List.length_cons, toLE, ofLE, hdiv, ih, hbyte]

def toBE (w n : Nat) : Block w := ⟨(toLE w n).reverse, by simp⟩

def ofBE (b : Bytes) : Nat := ofLE b.reverse

theorem ofBE_toBE (h : n < 256 ^ w) : ofBE (toBE w n).bytes = n := by
  simp [ofBE, toBE, ofLE_toLE h]

theorem ofBE_append (x y : Bytes) : ofBE (x ++ y) = ofBE x * 256 ^ y.length + ofBE y := by
  rw [ofBE, List.reverse_append, ofLE_append, List.length_reverse, Nat.add_comm, Nat.mul_comm]
  rfl

variable (b : Block w) (text : String)

theorem ofBE_lt : ofBE b.bytes < 256 ^ w := by
  have h := ofLE_lt b.bytes.reverse
  simpa [ofBE] using h

theorem toBE_ofBE : toBE w (ofBE b.bytes) = b := by
  ext1
  have h := toLE_ofLE b.bytes.reverse
  simp only [List.length_reverse, Block.length_bytes] at h
  simp [toBE, ofBE, h]

def be16 (x : UInt16) : Block 2 := toBE 2 x.toNat
def be32 (x : UInt32) : Block 4 := toBE 4 x.toNat
def be64 (x : UInt64) : Block 8 := toBE 8 x.toNat

def ofBe16 (b : Block 2) : UInt16 := UInt16.ofNat (ofBE b.bytes)
def ofBe32 (b : Block 4) : UInt32 := UInt32.ofNat (ofBE b.bytes)
def ofBe64 (b : Block 8) : UInt64 := UInt64.ofNat (ofBE b.bytes)

@[simp] theorem ofBe16_be16 (x : UInt16) : ofBe16 (be16 x) = x := by
  have h : x.toNat < 256 ^ 2 := x.toNat_lt
  simp [ofBe16, be16, ofBE_toBE h]

@[simp] theorem ofBe32_be32 (x : UInt32) : ofBe32 (be32 x) = x := by
  have h : x.toNat < 256 ^ 4 := x.toNat_lt
  simp [ofBe32, be32, ofBE_toBE h]

@[simp] theorem ofBe64_be64 (x : UInt64) : ofBe64 (be64 x) = x := by
  have h : x.toNat < 256 ^ 8 := x.toNat_lt
  simp [ofBe64, be64, ofBE_toBE h]

theorem be16_injective : Function.Injective be16 :=
  Function.LeftInverse.injective ofBe16_be16

theorem be32_injective : Function.Injective be32 :=
  Function.LeftInverse.injective ofBe32_be32

theorem be64_injective : Function.Injective be64 :=
  Function.LeftInverse.injective ofBe64_be64

@[simp] theorem be16_ofBe16 (b : Block 2) : be16 (ofBe16 b) = b := by
  have h : ofBE b.bytes < 2 ^ 16 := ofBE_lt b
  rw [be16, ofBe16, UInt16.toNat_ofNat', Nat.mod_eq_of_lt h, toBE_ofBE]

@[simp] theorem be32_ofBe32 (b : Block 4) : be32 (ofBe32 b) = b := by
  have h : ofBE b.bytes < 2 ^ 32 := ofBE_lt b
  rw [be32, ofBe32, UInt32.toNat_ofNat', Nat.mod_eq_of_lt h, toBE_ofBE]

@[simp] theorem be64_ofBe64 (b : Block 8) : be64 (ofBe64 b) = b := by
  have h : ofBE b.bytes < 2 ^ 64 := ofBE_lt b
  rw [be64, ofBe64, UInt64.toNat_ofNat', Nat.mod_eq_of_lt h, toBE_ofBE]

def le64 (x : UInt64) : Block 8 := ⟨toLE 8 x.toNat, by simp⟩

theorem le64_injective : Function.Injective le64 := by
  intro x y h
  have hbytes : toLE 8 x.toNat = toLE 8 y.toNat := congrArg Block.bytes h
  have hx : x.toNat < 256 ^ 8 := x.toNat_lt
  have hy : y.toNat < 256 ^ 8 := y.toNat_lt
  apply UInt64.toNat_inj.mp
  rw [← ofLE_toLE hx, hbytes, ofLE_toLE hy]

/-! ### Fallible steps -/

section fallible
variable {ε α β : Type}

theorem bind_ok_iff {first : Except ε α} {next : α → Except ε β} {result : β} :
    first >>= next = .ok result ↔ ∃ a, first = .ok a ∧ next a = .ok result := by
  rcases first with e | a
  · exact ⟨nofun, nofun⟩
  · exact ⟨fun h => ⟨a, rfl, h⟩, fun ⟨_, ha, h⟩ => by cases ha; exact h⟩

@[simp] theorem ok_bind (a : α) (next : α → Except ε β) : (Except.ok a >>= next) = next a := rfl

@[simp] theorem error_bind (e : ε) (next : α → Except ε β) : (Except.error e >>= next) = .error e := rfl

theorem toOption_eq_some {step : Except ε α} {result : α} : step.toOption = some result ↔ step = .ok result := by
  cases step <;> simp [Except.toOption]

theorem mapError_ok_iff {ε' : Type} {step : Except ε α} {rename : ε → ε'} {result : α} :
    step.mapError rename = .ok result ↔ step = .ok result := by
  rcases step with e | a
  · exact ⟨nofun, nofun⟩
  · rw [Except.mapError, Except.ok.injEq, Except.ok.injEq]

def ensure (p : Prop) [Decidable p] (err : ε) : Except ε Unit :=
  if p then .ok () else .error err

variable {err : ε}

@[simp] theorem ensure_eq_ok {p : Prop} [Decidable p] {u : Unit} : ensure p err = .ok u ↔ p := by
  unfold ensure
  split <;> simp [*]

theorem ensure_of {p : Prop} [Decidable p] (h : p) : ensure p err = .ok () := if_pos h

theorem ensure_of_not {p : Prop} [Decidable p] (h : ¬p) : ensure p err = .error err :=
  if_neg h

def okOr (o : Option α) (err : ε) : Except ε α :=
  match o with
  | some a => .ok a
  | none => .error err

@[simp] theorem okOr_some (a : α) (err : ε) : okOr (some a) err = .ok a := rfl

@[simp] theorem okOr_eq_ok {o : Option α} {a : α} : okOr o err = .ok a ↔ o = some a := by
  cases o <;> simp [okOr]

end fallible

/-! ### Sequential reads -/

def takeBlock {ε : Type} (err : ε) (n : Nat) (cursor : Bytes) : Except ε (Block n × Bytes) :=
  if h : n ≤ cursor.length then
    .ok (⟨cursor.take n, by simp [h]⟩, cursor.drop n)
  else .error err

section takeBlock
variable {ε : Type} {err : ε} {n : Nat}

@[simp] theorem takeBlock_append (b : Block n) (rest : Bytes) : takeBlock err n (b.bytes ++ rest) = .ok (b, rest) := by
  have hlen : n ≤ (b.bytes ++ rest).length := by simp
  rw [takeBlock, dif_pos hlen]
  congr 2
  · ext1
    simp
  · simp

theorem takeBlock_of_length {bytes : Bytes} (h : bytes.length = n) (rest : Bytes) :
    takeBlock err n (bytes ++ rest) = .ok (⟨bytes, h⟩, rest) :=
  takeBlock_append ⟨bytes, h⟩ rest

@[simp] theorem takeBlock_bytes (b : Block n) : takeBlock err n b.bytes = .ok (b, []) := by
  have h : takeBlock err n (b.bytes ++ []) = .ok (b, []) := takeBlock_append b []
  rwa [List.append_nil] at h

theorem takeBlock_eq_ok {cursor rest : Bytes} {b : Block n} :
    takeBlock err n cursor = .ok (b, rest) ↔ cursor = b.bytes ++ rest := by
  constructor
  · intro h
    unfold takeBlock at h
    split at h
    · obtain ⟨rfl, rfl⟩ := h
      simp
    · cases h
  · rintro rfl
    exact takeBlock_append b rest

end takeBlock

def takeByte {ε : Type} (err : ε) (cursor : Bytes) : Except ε (UInt8 × Bytes) :=
  match cursor with
  | [] => .error err
  | b :: rest => .ok (b, rest)

@[simp] theorem takeByte_cons {ε : Type} {err : ε} (b : UInt8) (rest : Bytes) :
    takeByte err (b :: rest) = .ok (b, rest) := rfl

def takeBlocks {ε : Type} (err : ε) (n : Nat) : Nat → Bytes → Except ε (List (Block n) × Bytes)
  | 0, cursor => .ok ([], cursor)
  | count + 1, cursor => do
    let (b, rest) ← takeBlock err n cursor
    let (bs, rest) ← takeBlocks err n count rest
    return (b :: bs, rest)

def concat {n : Nat} (blocks : List (Block n)) : Bytes := blocks.flatMap Block.bytes

@[simp] theorem concat_length (blocks : List (Block n)) : (concat blocks).length = n * blocks.length := by
  induction blocks with
  | nil => rfl
  | cons b bs ih =>
    rw [concat, List.flatMap_cons, List.length_append, ← concat, ih, Block.length_bytes,
      List.length_cons, Nat.mul_succ, Nat.add_comm]

@[simp] theorem takeBlocks_concat {ε : Type} {err : ε} (blocks : List (Block n)) (rest : Bytes) :
    takeBlocks err n blocks.length (concat blocks ++ rest) = .ok (blocks, rest) := by
  induction blocks with
  | nil => rfl
  | cons b bs ih =>
    rw [concat, List.flatMap_cons, List.append_assoc, ← concat, List.length_cons, takeBlocks, takeBlock_append, ok_bind]
    dsimp only
    rw [ih]
    rfl

theorem takeBlocks_length {ε : Type} {err : ε} {count : Nat} {cursor : Bytes} {blocks : List (Block n)}
    {rest : Bytes} (h : takeBlocks err n count cursor = .ok (blocks, rest)) : blocks.length = count := by
  induction count generalizing cursor blocks rest with
  | zero =>
    cases h
    rfl
  | succ count ih =>
    obtain ⟨⟨b, tail⟩, -, h⟩ := bind_ok_iff.mp h
    obtain ⟨⟨bs, rest'⟩, hbs, h⟩ := bind_ok_iff.mp h
    cases h
    rw [List.length_cons, ih hbs]

/-! ### Text -/

def utf8 (text : String) : Bytes := text.toUTF8.data.toList

def fromUtf8 (bytes : Bytes) : Option String := String.fromUTF8? ⟨bytes.toArray⟩

theorem fromUtf8_utf8 : fromUtf8 (utf8 text) = some text := by
  have hbytes : (⟨(utf8 text).toArray⟩ : ByteArray) = text.toByteArray := by
    rw [Array.toArray_toList]
    rfl
  unfold fromUtf8 String.fromUTF8?
  rw [hbytes, dif_pos text.isValidUTF8]
  rfl

theorem fromUtf8_eq_some {bytes : Bytes} {text : String} : fromUtf8 bytes = some text ↔ bytes = utf8 text := by
  constructor
  · intro h
    unfold fromUtf8 String.fromUTF8? at h
    split at h
    · cases h
      rfl
    · cases h
  · rintro rfl
    exact fromUtf8_utf8 text

theorem utf8_eq_flatMap : utf8 text = text.toList.flatMap String.utf8EncodeChar := by
  have hencode : text.toByteArray = text.toList.utf8Encode := String.utf8Encode_toList.symm
  unfold utf8
  rw [String.toUTF8_eq_toByteArray, hencode, List.utf8Encode, List.data_toByteArray]

theorem length_utf8 : (utf8 text).length = text.utf8ByteSize := rfl

end Wire
