import HpnVpn.AfXdp
import HpnVpn.Rings

/-! The AF_XDP socket: frames go round between a stack of free ones, the four rings and the kernel, named by their
address. -/
namespace HpnVpn
open Rings

/-! ### Configuration -/

def isPowerOfTwo (n : Nat) : Bool := 2 ^ n.log2 = n

structure UmemConfig where
  frameSize : Nat
  headroom : Nat
  numFrames : Nat
deriving DecidableEq

namespace UmemConfig

def xdpMinFrameSize : Nat := 2048
def xdpMaxFrameSize : Nat := 4096

def default : UmemConfig := ⟨2048, 256, 16384⟩

def new (frameSize headroom numFrames : Nat) : Except AfXdpError UmemConfig :=
  if frameSize < xdpMinFrameSize ∨ xdpMaxFrameSize < frameSize then
    .error (.invalidFrameSize frameSize xdpMinFrameSize xdpMaxFrameSize)
  else if isPowerOfTwo frameSize = false then
    .error (.config s!"frame_size must be power of 2, got {frameSize}")
  else if frameSize ≤ headroom then
    .error (.config s!"headroom {headroom} must be less than frame_size {frameSize}")
  else if isPowerOfTwo numFrames = false then
    .error (.config s!"num_frames must be power of 2, got {numFrames}")
  else .ok ⟨frameSize, headroom, numFrames⟩

def totalSize (config : UmemConfig) : Nat := config.frameSize * config.numFrames

def maxPacketSize (config : UmemConfig) : Nat := config.frameSize - config.headroom

theorem headroom_lt_of_new {frameSize headroom numFrames : Nat} {config : UmemConfig}
    (h : new frameSize headroom numFrames = .ok config) : config.headroom < config.frameSize := by
  unfold new at h
  split at h
  · cases h
  split at h
  · cases h
  split at h
  · cases h
  split at h
  · cases h
  · rename_i hheadroom _
    cases h
    exact Nat.lt_of_not_le hheadroom

end UmemConfig

structure RingConfig where
  logSize : Nat
  logSize_lt : logSize < 32

def RingConfig.new (size : UInt32) : Except AfXdpError RingConfig :=
  if h : isPowerOfTwo size.toNat = true then
    .ok ⟨size.toNat.log2, by
      have hsize : 2 ^ size.toNat.log2 = size.toNat := of_decide_eq_true h
      exact (Nat.pow_lt_pow_iff_right (by decide)).mp (hsize.trans_lt size.toNat_lt)⟩
  else .error (.invalidRingSize size.toNat)

structure XskConfig where
  interface : String
  umem : UmemConfig
  ringSize : UInt32
  fillPrefill : Nat
deriving DecidableEq

namespace XskConfig

def default : XskConfig := ⟨"", .default, 4096, 2048⟩

def validate (config : XskConfig) : Except AfXdpError Unit := do
  if config.interface = "" then throw (.config "interface name is required")
  if isPowerOfTwo config.ringSize.toNat = false then throw (.invalidRingSize config.ringSize.toNat)
  let { frameSize, headroom, numFrames } := config.umem
  let _ ← UmemConfig.new frameSize headroom numFrames
  let fillPrefill := config.fillPrefill
  if numFrames < fillPrefill then
    throw (.config s!"fill_prefill {fillPrefill} exceeds num_frames {numFrames}")

end XskConfig

/-! ### Frames -/

/-- The stack of free frames, the next one first.  A frame is given back at most once, so there is room. -/
structure Umem where
  config : UmemConfig
  freeStack : List Nat

namespace Umem

def new (config : UmemConfig) : Umem :=
  ⟨config, ((List.range config.numFrames).map (· * config.frameSize)).reverse⟩

variable (umem : Umem)

def allocFrame : Option (Nat × Umem) :=
  match umem.freeStack with
  | [] => none
  | addr :: freeStack => some (addr, { umem with freeStack })

def freeFrame (addr : Nat) : Umem := { umem with freeStack := addr :: umem.freeStack }

def availableFrames : Nat := umem.freeStack.length

def validateAddr (addr : Nat) : Bool :=
  addr < umem.config.totalSize && addr % umem.config.frameSize == 0

/-- Where the packet starts; the sums do not overflow, for the region is in memory. -/
def validatePacketBounds (addr len : Nat) : Except AfXdpError Nat :=
  let maxPacketSize := umem.config.maxPacketSize
  let headroom := umem.config.headroom
  let totalSize := umem.config.totalSize
  if umem.validateAddr addr = false then .error (.invalidFrameAddress addr)
  else if maxPacketSize < len then
    .error (.config s!"packet length {len} exceeds max packet size {maxPacketSize}")
  else if totalSize < addr + headroom + len then
    .error (.config s!"packet range out of bounds: addr={addr}, len={len}, headroom={headroom}, total_size={totalSize}")
  else .ok (addr + headroom)

end Umem

/-! ### The socket -/

structure XdpDesc where
  addr : Nat
  len : Nat
deriving DecidableEq

abbrev FillRing := ProducerEnd Nat
abbrev CompletionRing := ConsumerEnd Nat
abbrev RxRing := ConsumerEnd XdpDesc
abbrev TxRing := ProducerEnd XdpDesc

/-! A fill or TX ring over runs, with the slots reserved and not yet consumed, the oldest first, and the number of
entries submitted and not yet consumed. -/

structure RingRun (α : Type) where
  ring : ProducerEnd α
  unconsumed : List Nat
  submitted : Nat

inductive RingCall (α : Type)
  | reserve (count : UInt32)
  | write (idx : UInt32) (a : α)
  | submit (count : UInt32)
  | consume (n : Nat)

namespace RingRun
variable {α : Type}

def new (config : RingConfig) (a : α) : RingRun α := ⟨.new config.logSize config.logSize_lt a, [], 0⟩

def step (s : RingRun α) : RingCall α → RingRun α
  | .reserve count =>
    match s.ring.reserve count.toNat with
    | none => s
    | some (idx, ring) => { s with ring, unconsumed := s.unconsumed ++ s.ring.slots idx count.toNat }
  | .write idx a => { s with ring := s.ring.write idx a }
  | .submit count => { s with ring := s.ring.submit count.toNat, submitted := s.submitted + count.toNat }
  | .consume n =>
    -- of what was reserved, the kernel takes no more than was submitted
    let n := min n (min s.submitted s.unconsumed.length)
    ⟨s.ring.take n, s.unconsumed.drop n, s.submitted - n⟩

structure Accounted (size : Nat) (s : RingRun α) : Prop where
  size_eq : s.ring.size = size
  cached : s.ring.cached = s.ring.consumer + UInt32.ofNat s.unconsumed.length
  le : s.unconsumed.length ≤ size
  slots : s.unconsumed = s.ring.slots s.ring.consumer s.unconsumed.length

variable {size : Nat} {s : RingRun α}

theorem Accounted.freeSlots (h : s.Accounted size) : s.ring.freeSlots.toNat = size - s.unconsumed.length := by
  rw [ProducerEnd.freeSlots_of_cached h.cached (h.size_eq ▸ h.le), h.size_eq]

theorem Accounted.nodup (h : s.Accounted size) : s.unconsumed.Nodup := by
  rw [h.slots]
  exact Ring.nodup_slots (h.size_eq ▸ h.le)

theorem Accounted.reserve (h : s.Accounted size) {count : Nat} {idx : UInt32} {ring : ProducerEnd α}
    (hok : s.ring.reserve count = some (idx, ring)) :
    Accounted size { s with ring, unconsumed := s.unconsumed ++ s.ring.slots idx count } := by
  rw [ProducerEnd.reserve, h.freeSlots] at hok
  have hle := h.le
  split at hok
  · cases hok
  · cases hok
    refine ⟨h.size_eq, ?_, ?_, ?_⟩
    all_goals dsimp only
    all_goals rw [List.length_append, Ring.slots, List.length_map, List.length_range]
    · rw [UInt32.ofNat_add, ← UInt32.add_assoc, ← h.cached]
    · omega
    · conv_rhs => rw [Ring.slots_add, ← h.cached]
      exact congrArg (· ++ _) h.slots

theorem Accounted.step (h : s.Accounted size) (c : RingCall α) : (s.step c).Accounted size := by
  cases c with
  | reserve count =>
    rw [RingRun.step]
    split
    · exact h
    · exact h.reserve ‹_›
  | write idx a => exact ⟨h.size_eq, h.cached, h.le, h.slots⟩
  | submit count => exact ⟨h.size_eq, h.cached, h.le, h.slots⟩
  | consume n =>
    rw [RingRun.step]
    generalize hn : min n (min s.submitted s.unconsumed.length) = k
    have hk : k ≤ s.unconsumed.length := by omega
    have hle := h.le
    have hsplit : s.unconsumed = s.ring.slots s.ring.consumer k ++
        s.ring.slots (s.ring.consumer + UInt32.ofNat k) (s.unconsumed.length - k) := by
      rw [← Ring.slots_add, Nat.add_sub_cancel' hk]
      exact h.slots
    refine ⟨h.size_eq, ?_, ?_, ?_⟩
    all_goals dsimp only [ProducerEnd.take, Ring.advance]
    all_goals rw [List.length_drop]
    · rw [UInt32.add_assoc, ← UInt32.ofNat_add, Nat.add_sub_cancel' hk, h.cached]
    · omega
    · conv_lhs => rw [hsplit, List.drop_left' (by rw [Ring.slots, List.length_map, List.length_range])]
      rfl

/-- However far the indices have wrapped around: the free slots are those not reserved or consumed since, the kernel
consumes in order, and the slots of a reservation differ from one another and from all that are not consumed. -/
theorem ring_accounting (config : RingConfig) (a : α) (calls : List (RingCall α)) :
    let s := Runs.exec step (new config a) calls
    s.ring.freeSlots.toNat = 2 ^ config.logSize - s.unconsumed.length ∧ s.unconsumed.length ≤ 2 ^ config.logSize ∧
      s.unconsumed = s.ring.slots s.ring.consumer s.unconsumed.length ∧ s.unconsumed.Nodup ∧
      ∀ count idx ring, s.ring.reserve count = some (idx, ring) → (s.unconsumed ++ s.ring.slots idx count).Nodup := by
  have h : Accounted (2 ^ config.logSize) (Runs.exec step (new config a) calls) :=
    Runs.exec_invariant (fun _ c h => h.step c) calls _ ⟨rfl, rfl, Nat.zero_le _, rfl⟩
  exact ⟨h.freeSlots, h.le, h.slots, h.nodup, fun _ _ _ hok => (h.reserve hok).nodup⟩

end RingRun

structure XskSocket where
  umem : Umem
  fill : FillRing
  comp : CompletionRing
  rx : RxRing
  tx : TxRing

namespace XskSocket

/-- Write up to `remaining` free frames to the fill ring; returns how many there were in the end. -/
def writeFrames (start : UInt32) : (i remaining : Nat) → Umem → FillRing → Umem × FillRing × Nat
  | i, 0, umem, fill => (umem, fill, i)
  | i, remaining + 1, umem, fill =>
    match umem.allocFrame with
    | none => (umem, fill, i)
    | some (addr, umem) => writeFrames start (i + 1) remaining umem (fill.write (start + UInt32.ofNat i) addr)

variable (s : XskSocket)

def prefillFillRing (count : Nat) : Except AfXdpError XskSocket :=
  let actual := min count s.umem.availableFrames
  if actual = 0 then .ok s
  else
    match s.fill.reserve actual with
    | none => .error (.config "fill ring too small for prefill")
    | some (startIdx, fill) =>
      let (umem, fill, written) := writeFrames startIdx 0 actual s.umem fill
      if written < actual then .error .umemExhausted else .ok { s with umem, fill := fill.submit actual }

/-- The completed frames go back to the stack at the addresses that the ring has. -/
def reclaimCompleted : XskSocket :=
  let completed := s.comp.available.toNat
  { s with
    umem := ((List.range completed).map s.comp.peek).foldl Umem.freeFrame s.umem
    comp := if 0 < completed then s.comp.release completed else s.comp }

def refillFrames (count : Nat) : XskSocket :=
  let s := s.reclaimCompleted
  let available := min s.umem.availableFrames count
  if available = 0 then s
  else
    match s.fill.reserve available with
    | none => s
    | some (startIdx, fill) =>
      let (umem, fill, written) := writeFrames startIdx 0 available s.umem fill
      { s with umem, fill := fill.submit written }

/-- Receive a batch, with the descriptors the handler is called on. -/
def recv (maxBatch : Nat) : XskSocket × List XdpDesc :=
  let available := min s.rx.available.toNat maxBatch
  if available = 0 then (s, [])
  else (({ s with rx := s.rx.release available }).refillFrames available, (List.range available).map s.rx.peek)

/-- How many descriptors are processed: all, or up to where the handler wants no more. -/
def processed (s : XskSocket) (handler : Nat → Bool) : (i remaining : Nat) → Nat
  | i, 0 => i
  | i, remaining + 1 =>
    let desc := s.rx.peek i
    match s.umem.validatePacketBounds desc.addr desc.len with
    | .error _ => s.processed handler (i + 1) remaining
    | .ok _ => if handler i then s.processed handler (i + 1) remaining else i + 1

/-- Receive a batch with access to the packets; `handler` says for each whether to go on. -/
def recvBatch (maxBatch : Nat) (handler : Nat → Bool) : XskSocket × Nat :=
  let available := min s.rx.available.toNat maxBatch
  if available = 0 then (s, 0)
  else
    let processed := s.processed handler 0 available
    (({ s with rx := s.rx.release processed }).refillFrames processed, processed)

def sendReserve (len : Nat) : XskSocket × Option Nat :=
  if s.umem.config.maxPacketSize < len then (s, none)
  else
    let s := if s.tx.freeSlots = 0 then s.reclaimCompleted else s
    if s.tx.freeSlots = 0 then (s, none)
    else
      match s.umem.allocFrame with
      | none => (s, none)
      | some (addr, umem) =>
        match umem.validatePacketBounds addr len with
        | .error _ => ({ s with umem := umem.freeFrame addr }, none)
        | .ok _ => ({ s with umem }, some addr)

/-- Submit a packet; there is no result if the ring has no slot left. -/
def sendSubmit (addr len : Nat) : Option XskSocket := do
  let (idx, tx) ← s.tx.reserve 1
  let desc := ⟨addr + s.umem.config.headroom, len⟩
  return { s with tx := (tx.write idx desc).submit 1 }

def ofUmem (umem : Umem) (ring : RingConfig) : XskSocket where
  umem := umem
  fill := .new ring.logSize ring.logSize_lt 0
  comp := .new ring.logSize ring.logSize_lt 0
  rx := .new ring.logSize ring.logSize_lt ⟨0, 0⟩
  tx := .new ring.logSize ring.logSize_lt ⟨0, 0⟩

/-- A new socket with its own memory; the system calls that set it up are taken to succeed. -/
def new (config : XskConfig) : Except AfXdpError XskSocket := do
  config.validate
  let umem ← UmemConfig.new config.umem.frameSize config.umem.headroom config.umem.numFrames
  let ring ← RingConfig.new config.ringSize
  (ofUmem (.new umem) ring).prefillFillRing config.fillPrefill

end XskSocket

end HpnVpn
