import Mathlib.Data.List.Nodup
import Mathlib.Data.Nat.ModEq

/-! Rings between a producer and a consumer, with a power of two of slots and 32-bit indices that wrap around.  As
long as neither side overtakes the other, a ring is a queue. -/
namespace Rings

variable {α : Type}

structure Ring (α : Type) where
  logSize : Nat
  logSize_lt : logSize < 32
  entries : Nat → α
  producer : UInt32
  consumer : UInt32

namespace Ring

def empty (logSize : Nat) (logSize_lt : logSize < 32) (a : α) : Ring α := ⟨logSize, logSize_lt, fun _ => a, 0, 0⟩

def size (r : Ring α) : Nat := 2 ^ r.logSize

def mask (r : Ring α) : UInt32 := UInt32.ofNat (r.size - 1)

def slot (r : Ring α) (idx : UInt32) : Nat := (idx &&& r.mask).toNat

def get (r : Ring α) (idx : UInt32) : α := r.entries (r.slot idx)

def write (r : Ring α) (idx : UInt32) (a : α) : Ring α :=
  { r with entries := Function.update r.entries (r.slot idx) a }

def writeAll (r : Ring α) (idx : UInt32) : List α → Ring α
  | [] => r
  | a :: entries => (r.write idx a).writeAll (idx + 1) entries

def window (r : Ring α) (start : UInt32) (n : Nat) : List α :=
  (List.range n).map fun i => r.get (start + UInt32.ofNat i)

def used (r : Ring α) : Nat := (r.producer - r.consumer).toNat

def contents (r : Ring α) : List α := r.window r.consumer r.used

variable {r : Ring α}

/-! ### Slots -/

theorem size_pos : 0 < r.size := Nat.two_pow_pos _

theorem size_lt : r.size < 2 ^ 32 := Nat.pow_lt_pow_right (by decide) r.logSize_lt

theorem size_dvd : r.size ∣ 2 ^ 32 := Nat.pow_dvd_pow 2 r.logSize_lt.le

variable (idx : UInt32)

theorem slot_eq : r.slot idx = idx.toNat % r.size := by
  have hmask : r.mask.toNat = 2 ^ r.logSize - 1 := by
    have hlt := r.size_lt
    exact Nat.mod_eq_of_lt (by show r.size - 1 < _; omega)
  rw [slot, UInt32.toNat_and, hmask, Nat.and_two_pow_sub_one_eq_mod]
  rfl

theorem slot_add (start : UInt32) (i : Nat) : r.slot (start + UInt32.ofNat i) = (start.toNat + i) % r.size := by
  rw [slot_eq, UInt32.toNat_add, Nat.mod_mod_of_dvd _ r.size_dvd, UInt32.toNat_ofNat',
    Nat.add_mod, Nat.mod_mod_of_dvd _ r.size_dvd, ← Nat.add_mod]

variable {start : UInt32}

theorem slot_injective {i j : Nat} (hi : i < r.size) (hj : j < r.size)
    (h : r.slot (start + UInt32.ofNat i) = r.slot (start + UInt32.ofNat j)) : i = j := by
  rw [slot_add, slot_add] at h
  have hmod : i ≡ j [MOD r.size] := Nat.ModEq.add_left_cancel' start.toNat h
  exact hmod.eq_of_lt_of_lt hi hj

def slots (r : Ring α) (start : UInt32) (n : Nat) : List Nat :=
  (List.range n).map fun i => r.slot (start + UInt32.ofNat i)

theorem nodup_slots {n : Nat} (hn : n ≤ r.size) : (r.slots start n).Nodup := by
  refine List.Nodup.map_on (fun i hi j hj h => ?_) List.nodup_range
  rw [List.mem_range] at hi hj
  exact slot_injective (hi.trans_le hn) (hj.trans_le hn) h

theorem slots_add (start : UInt32) (m n : Nat) :
    r.slots start (m + n) = r.slots start m ++ r.slots (start + UInt32.ofNat m) n := by
  rw [slots, List.range_add, List.map_append, List.map_map]
  apply congrArg (r.slots start m ++ ·)
  apply List.map_congr_left
  intro i _
  rw [Function.comp_apply, UInt32.ofNat_add, UInt32.add_assoc]

/-! ### Windows -/

@[simp] theorem length_window (start : UInt32) (n : Nat) : (r.window start n).length = n := by
  rw [window, List.length_map, List.length_range]

theorem ofNat_succ_add (start : UInt32) (n : Nat) : start + UInt32.ofNat (n + 1) = start + 1 + UInt32.ofNat n := by
  rw [UInt32.ofNat_add, UInt32.add_comm (UInt32.ofNat n), ← UInt32.add_assoc]
  rfl

theorem window_add (start : UInt32) (m n : Nat) :
    r.window start (m + n) = r.window start m ++ r.window (start + UInt32.ofNat m) n := by
  rw [window, List.range_add, List.map_append, List.map_map]
  apply congrArg (r.window start m ++ ·)
  apply List.map_congr_left
  intro i _
  rw [Function.comp_apply, UInt32.ofNat_add, UInt32.add_assoc]

variable {n : Nat}

/-! ### Writing -/

theorem get_write_of_ne {idx idx' : UInt32} (h : r.slot idx' ≠ r.slot idx) (a : α) :
    (r.write idx a).get idx' = r.get idx' := by
  show Function.update r.entries (r.slot idx) a (r.slot idx') = _
  rw [Function.update_of_ne h]
  rfl

theorem get_write_self (a : α) : (r.write idx a).get idx = a := by
  show Function.update r.entries (r.slot idx) a (r.slot idx) = _
  rw [Function.update_self]

@[simp] theorem size_writeAll (entries : List α) : (r.writeAll idx entries).size = r.size := by
  induction entries generalizing r idx with
  | nil => rfl
  | cons a entries ih => exact ih ..

@[simp] theorem producer_writeAll (entries : List α) :
    (r.writeAll idx entries).producer = r.producer := by
  induction entries generalizing r idx with
  | nil => rfl
  | cons a entries ih => exact ih ..

@[simp] theorem consumer_writeAll (entries : List α) :
    (r.writeAll idx entries).consumer = r.consumer := by
  induction entries generalizing r idx with
  | nil => rfl
  | cons a entries ih => exact ih ..

variable {entries : List α}

theorem get_writeAll_before {i : Nat} (hi : i < n) (hfit : n + entries.length ≤ r.size) :
    (r.writeAll (start + UInt32.ofNat n) entries).get (start + UInt32.ofNat i) = r.get (start + UInt32.ofNat i) := by
  induction entries generalizing r n with
  | nil => rfl
  | cons a entries ih =>
    rw [List.length_cons] at hfit
    have hne : r.slot (start + UInt32.ofNat i) ≠ r.slot (start + UInt32.ofNat n) := by
      intro heq
      have := slot_injective (by omega) (by omega) heq
      omega
    have hnext : start + UInt32.ofNat n + 1 = start + UInt32.ofNat (n + 1) := by
      rw [ofNat_succ_add, UInt32.add_assoc, UInt32.add_assoc, UInt32.add_comm 1]
    calc (r.writeAll (start + UInt32.ofNat n) (a :: entries)).get (start + UInt32.ofNat i)
        = ((r.write (start + UInt32.ofNat n) a).writeAll (start + UInt32.ofNat (n + 1)) entries).get
            (start + UInt32.ofNat i) := by rw [writeAll, hnext]
      _ = (r.write (start + UInt32.ofNat n) a).get (start + UInt32.ofNat i) :=
            ih (by omega) (show n + 1 + entries.length ≤ r.size by omega)
      _ = r.get (start + UInt32.ofNat i) := get_write_of_ne hne a

theorem window_writeAll_before (hfit : n + entries.length ≤ r.size) :
    (r.writeAll (start + UInt32.ofNat n) entries).window start n = r.window start n :=
  List.map_congr_left fun _ hi => get_writeAll_before (List.mem_range.mp hi) hfit

theorem window_writeAll_self (hfit : entries.length ≤ r.size) :
    (r.writeAll start entries).window start entries.length = entries := by
  induction entries generalizing r start with
  | nil => rfl
  | cons a entries ih =>
    rw [List.length_cons] at hfit
    have hone : start + 1 = start + UInt32.ofNat 1 := rfl
    have hfirst : (r.writeAll start (a :: entries)).window start 1 = [a] := by
      rw [writeAll, hone,
        window_writeAll_before (show 1 + entries.length ≤ (r.write start a).size by show _ ≤ r.size; omega)]
      show [(r.write start a).get (start + 0)] = [a]
      rw [UInt32.add_zero, get_write_self]
    have hrest : (r.writeAll start (a :: entries)).window (start + UInt32.ofNat 1) entries.length = entries :=
      ih (show entries.length ≤ r.size by omega)
    rw [List.length_cons, Nat.add_comm, window_add, hfirst, hrest]
    rfl

/-! ### A ring is a queue -/

@[simp] theorem used_empty {logSize : Nat} {logSize_lt : logSize < 32} {a : α} :
    (empty logSize logSize_lt a).used = 0 := by
  show ((0 : UInt32) - 0).toNat = 0
  rfl

theorem contents_empty {logSize : Nat} {logSize_lt : logSize < 32} {a : α} :
    (empty logSize logSize_lt a).contents = [] := by
  rw [contents, used_empty]
  rfl

@[simp] theorem length_contents : r.contents.length = r.used := length_window ..

theorem consumer_add_used : r.consumer + UInt32.ofNat r.used = r.producer := by
  rw [used, UInt32.ofNat_toNat, UInt32.add_comm, UInt32.sub_add_cancel]

def push (r : Ring α) (entries : List α) : Ring α :=
  { r.writeAll r.producer entries with producer := r.producer + UInt32.ofNat entries.length }

def advance (r : Ring α) (n : Nat) : Ring α := { r with consumer := r.consumer + UInt32.ofNat n }

theorem used_push (hfit : r.used + entries.length ≤ r.size) : (r.push entries).used = r.used + entries.length := by
  have hlt := r.size_lt
  show (r.producer + UInt32.ofNat entries.length - (r.writeAll r.producer entries).consumer).toNat = _
  rw [consumer_writeAll, ← consumer_add_used, UInt32.add_assoc, UInt32.add_comm, UInt32.add_sub_cancel,
    ← UInt32.ofNat_add, UInt32.toNat_ofNat']
  exact Nat.mod_eq_of_lt (by omega)

theorem contents_push (hfit : r.used + entries.length ≤ r.size) :
    (r.push entries).contents = r.contents ++ entries := by
  have hread : ∀ start n, (r.push entries).window start n = (r.writeAll r.producer entries).window start n :=
    fun _ _ => rfl
  have hconsumer : (r.push entries).consumer = r.consumer := consumer_writeAll ..
  rw [contents, used_push hfit, hconsumer, hread, window_add, consumer_add_used,
    window_writeAll_self (by omega), ← consumer_add_used, window_writeAll_before hfit, contents]

theorem used_advance (hn : n ≤ r.used) : (r.advance n).used = r.used - n := by
  have hlt : r.used < 2 ^ 32 := UInt32.toNat_lt _
  have hproducer : r.producer = UInt32.ofNat (r.used - n) + (r.consumer + UInt32.ofNat n) := by
    rw [UInt32.add_comm, UInt32.add_assoc, ← UInt32.ofNat_add, Nat.add_sub_cancel' hn, consumer_add_used]
  show (r.producer - (r.consumer + UInt32.ofNat n)).toNat = _
  rw [hproducer, UInt32.add_sub_cancel, UInt32.toNat_ofNat']
  exact Nat.mod_eq_of_lt (by omega)

theorem contents_advance (hn : n ≤ r.used) : (r.advance n).contents = r.contents.drop n := by
  have hsplit : r.contents = r.window r.consumer n ++ r.window (r.consumer + UInt32.ofNat n) (r.used - n) := by
    rw [← window_add, Nat.add_sub_cancel' hn]
    rfl
  rw [hsplit, List.drop_left' (length_window ..), contents, used_advance hn]
  rfl

end Ring

/-! ### The producer's end -/

/-- Slots are reserved first, then written, then submitted; `cached` is where the next reservation starts. -/
structure ProducerEnd (α : Type) extends Ring α where
  cached : UInt32

namespace ProducerEnd

def new (logSize : Nat) (logSize_lt : logSize < 32) (a : α) : ProducerEnd α := ⟨.empty logSize logSize_lt a, 0⟩

def freeSlots (p : ProducerEnd α) : UInt32 := p.mask + 1 - (p.cached - p.consumer)

def reserve (p : ProducerEnd α) (count : Nat) : Option (UInt32 × ProducerEnd α) :=
  if p.freeSlots.toNat < count then none
  else some (p.cached, { p with cached := p.cached + UInt32.ofNat count })

def write (p : ProducerEnd α) (idx : UInt32) (a : α) : ProducerEnd α := { p with toRing := p.toRing.write idx a }

def submit (p : ProducerEnd α) (count : Nat) : ProducerEnd α :=
  { p with producer := p.producer + UInt32.ofNat count }

def take (p : ProducerEnd α) (n : Nat) : ProducerEnd α := { p with toRing := p.toRing.advance n }

structure Settled (p : ProducerEnd α) : Prop where
  cached_eq : p.cached = p.producer
  used_le : p.used ≤ p.size

variable {p : ProducerEnd α}

theorem settled_new {logSize : Nat} {logSize_lt : logSize < 32} {a : α} : (new logSize logSize_lt a).Settled :=
  ⟨rfl, Ring.used_empty.trans_le (Nat.zero_le _)⟩

theorem contents_new {logSize : Nat} {logSize_lt : logSize < 32} {a : α} : (new logSize logSize_lt a).contents = [] :=
  Ring.contents_empty

theorem freeSlots_of_cached {n : Nat} (h : p.cached = p.consumer + UInt32.ofNat n) (hn : n ≤ p.size) :
    p.freeSlots.toNat = p.size - n := by
  have hlt := p.size_lt
  have hpos := p.size_pos
  have hmask : p.mask + 1 = UInt32.ofNat p.size := by
    rw [Ring.mask, show (1 : UInt32) = UInt32.ofNat 1 from rfl, ← UInt32.ofNat_add, Nat.sub_add_cancel hpos]
  have htoNat : ∀ k ≤ p.size, (UInt32.ofNat k).toNat = k := fun k hk => Nat.mod_eq_of_lt (hk.trans_lt hlt)
  rw [freeSlots, hmask, h, UInt32.add_comm, UInt32.add_sub_cancel, UInt32.toNat_sub_of_le, htoNat _ le_rfl, htoNat _ hn]
  rw [UInt32.le_iff_toNat_le, htoNat _ le_rfl, htoNat _ hn]
  exact hn

theorem Settled.freeSlots_eq (h : p.Settled) : p.freeSlots.toNat = p.size - p.used :=
  freeSlots_of_cached (h.cached_eq.trans Ring.consumer_add_used.symm) h.used_le

theorem Settled.reserve_eq (h : p.Settled) {count : Nat} (hfit : p.used + count ≤ p.size) :
    p.reserve count = some (p.producer, { p with cached := p.producer + UInt32.ofNat count }) := by
  rw [reserve, h.freeSlots_eq, if_neg (by omega), h.cached_eq]

theorem Settled.reserve_eq_none (h : p.Settled) {count : Nat} (hfull : p.size < p.used + count) :
    p.reserve count = none := by
  have hle := h.used_le
  rw [reserve, h.freeSlots_eq, if_pos (by omega)]

def push (p : ProducerEnd α) (entries : List α) : ProducerEnd α :=
  ⟨p.toRing.push entries, p.producer + UInt32.ofNat entries.length⟩

theorem settled_push {entries : List α} (hfit : p.used + entries.length ≤ p.size) : (p.push entries).Settled := by
  refine ⟨rfl, ?_⟩
  show (p.toRing.push entries).used ≤ (p.toRing.writeAll p.producer entries).size
  rw [Ring.used_push hfit, Ring.size_writeAll]
  exact hfit

theorem Settled.take (h : p.Settled) {n : Nat} (hn : n ≤ p.used) : (p.take n).Settled := by
  refine ⟨h.cached_eq, ?_⟩
  show (p.toRing.advance n).used ≤ p.size
  rw [Ring.used_advance hn]
  exact (Nat.sub_le ..).trans h.used_le

end ProducerEnd

/-! ### The consumer's end -/

structure ConsumerEnd (α : Type) extends Ring α where
  cached : UInt32

namespace ConsumerEnd

def new (logSize : Nat) (logSize_lt : logSize < 32) (a : α) : ConsumerEnd α := ⟨.empty logSize logSize_lt a, 0⟩

def available (c : ConsumerEnd α) : UInt32 := c.producer - c.cached

def peek (c : ConsumerEnd α) (i : Nat) : α := c.get (c.cached + UInt32.ofNat i)

def release (c : ConsumerEnd α) (count : Nat) : ConsumerEnd α :=
  { c with cached := c.cached + UInt32.ofNat count, consumer := c.cached + UInt32.ofNat count }

def put (c : ConsumerEnd α) (entries : List α) : ConsumerEnd α := { c with toRing := c.toRing.push entries }

structure Settled (c : ConsumerEnd α) : Prop where
  cached_eq : c.cached = c.consumer
  used_le : c.used ≤ c.size

variable {c : ConsumerEnd α}

theorem settled_new {logSize : Nat} {logSize_lt : logSize < 32} {a : α} : (new logSize logSize_lt a).Settled :=
  ⟨rfl, Ring.used_empty.trans_le (Nat.zero_le _)⟩

theorem contents_new {logSize : Nat} {logSize_lt : logSize < 32} {a : α} : (new logSize logSize_lt a).contents = [] :=
  Ring.contents_empty

theorem Settled.available_eq (h : c.Settled) : c.available.toNat = c.used := by
  rw [available, h.cached_eq]
  rfl

theorem Settled.map_peek (h : c.Settled) {n : Nat} (hn : n ≤ c.used) :
    (List.range n).map c.peek = c.contents.take n := by
  have hpeek : (List.range n).map c.peek = c.window c.consumer n := by
    rw [← h.cached_eq]
    rfl
  rw [hpeek, Ring.contents, ← Nat.add_sub_cancel' hn, Ring.window_add, List.take_left' (Ring.length_window ..)]

theorem Settled.release_eq (h : c.Settled) (n : Nat) :
    c.release n = ⟨c.toRing.advance n, c.consumer + UInt32.ofNat n⟩ := by
  rw [release, h.cached_eq]
  rfl

theorem Settled.release (h : c.Settled) {n : Nat} (hn : n ≤ c.used) : (c.release n).Settled := by
  rw [h.release_eq]
  refine ⟨rfl, ?_⟩
  rw [Ring.used_advance hn]
  exact (Nat.sub_le ..).trans h.used_le

theorem Settled.contents_release (h : c.Settled) {n : Nat} (hn : n ≤ c.used) :
    (c.release n).contents = c.contents.drop n := by
  rw [h.release_eq]
  exact Ring.contents_advance hn

theorem Settled.put (h : c.Settled) {entries : List α} (hfit : c.used + entries.length ≤ c.size) :
    (c.put entries).Settled := by
  constructor
  · show c.cached = (c.toRing.writeAll c.producer entries).consumer
    rw [Ring.consumer_writeAll, h.cached_eq]
  · show (c.toRing.push entries).used ≤ (c.toRing.writeAll c.producer entries).size
    rw [Ring.used_push hfit, Ring.size_writeAll]
    exact hfit

end ConsumerEnd

end Rings
