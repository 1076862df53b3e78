import HpnVpn.BatchQueue
import HpnVpn.Runs
import HpnVpn.Types

/-! The sendmmsg batch.  Headers name slots, and a partial send moves headers but not slots; the batch is a queue as
long as no slot that a header names is filled again. -/
namespace HpnVpn
open Wire BatchQueue

def SocketAddr.sockaddrLen : SocketAddr → Nat
  | .v4 .. => 16
  | .v6 .. => 28

/-- `iovec`: the slot of the buffer and the number of bytes to send from it. -/
structure Iovec where
  base : Nat
  len : Nat
deriving DecidableEq

/-- `msghdr`: the slots of the address and of the I/O vector; null before first use. -/
structure MsgHdr where
  name : Option Nat
  nameLen : Nat
  iov : Option Nat
deriving DecidableEq

structure SendMmsg (batchSize bufferSize : Nat) where
  msgvec : Vector MsgHdr batchSize
  iovecs : Vector Iovec batchSize
  buffers : Vector (Block bufferSize) batchSize
  addrs : Vector (Option SocketAddr) batchSize
  count : Nat
  count_le : count ≤ batchSize

structure Datagram where
  data : Bytes
  addr : SocketAddr
deriving DecidableEq

/-- The kernel takes at least one of the messages, or would block, or fails. -/
inductive KernelAnswer
  | took (atLeast : Nat)
  | wouldBlock
  | error (errno : Nat)
deriving DecidableEq

namespace SendMmsg
variable {batchSize bufferSize : Nat}

def new (batchSize bufferSize : Nat) : SendMmsg batchSize bufferSize where
  msgvec := Vector.replicate batchSize ⟨none, 0, none⟩
  iovecs := Vector.ofFn fun i => ⟨i, 0⟩
  buffers := Vector.replicate batchSize (Block.replicate bufferSize 0)
  addrs := Vector.replicate batchSize none
  count := 0
  count_le := Nat.zero_le _

/-- The part `add` and `commit` share: point slot `count` at its own buffer and address, and queue a
header for it. -/
def fillSlot (b : SendMmsg batchSize bufferSize) (hroom : b.count < batchSize) (buffer : Block bufferSize)
    (len : Nat) (addr : SocketAddr) : SendMmsg batchSize bufferSize where
  msgvec := b.msgvec.setIfInBounds b.count ⟨some b.count, addr.sockaddrLen, some b.count⟩
  iovecs := b.iovecs.setIfInBounds b.count ⟨b.count, len⟩
  buffers := b.buffers.setIfInBounds b.count buffer
  addrs := b.addrs.setIfInBounds b.count (some addr)
  count := b.count + 1
  count_le := hroom

def writeFront (buffer : Block bufferSize) (data : Bytes) (hfit : data.length ≤ bufferSize) : Block bufferSize :=
  ⟨data ++ buffer.bytes.drop data.length, by simp [hfit]⟩

def add (b : SendMmsg batchSize bufferSize) (data : Bytes) (addr : SocketAddr) : SendMmsg batchSize bufferSize × Bool :=
  if h : b.count < batchSize then
    let len := min data.length bufferSize
    let buffer := b.buffers[b.count]
    (b.fillSlot h (writeFront buffer (data.take len) (by simp [len])) len addr, true)
  else (b, false)

/-- `get_buffer_mut`, a write of the whole buffer by the caller, then `commit`; nothing happens when the
batch is full. -/
def commit (b : SendMmsg batchSize bufferSize) (contents : Block bufferSize) (len : Nat)
    (addr : SocketAddr) : SendMmsg batchSize bufferSize × Bool :=
  if h : b.count < batchSize then (b.fillSlot h contents len addr, true) else (b, false)

/-- The datagram a header stands for when the kernel follows its pointers. -/
def datagram (b : SendMmsg batchSize bufferSize) (h : MsgHdr) : Option Datagram := do
  let iovec ← b.iovecs[← h.iov]?
  let buffer ← b.buffers[iovec.base]?
  let addr ← (b.addrs[← h.name]?).join
  guard (h.nameLen = addr.sockaddrLen)
  some ⟨buffer.bytes.take iovec.len, addr⟩

def taken (b : SendMmsg batchSize bufferSize) (start n : Nat) : List Datagram :=
  ((b.msgvec.toList.drop start).take n).filterMap b.datagram

/-- The result of a flush, with the datagrams the kernel took during it. -/
structure Flushed (batchSize bufferSize : Nat) where
  batch : SendMmsg batchSize bufferSize
  taken : List Datagram
  totalSent : Nat
  error : Option Nat

def setCount (b : SendMmsg batchSize bufferSize) (n : Nat) (h : n ≤ batchSize) : SendMmsg batchSize bufferSize :=
  { b with count := n, count_le := h }

/-- The kernel would block: unsent headers are moved to the front and stay queued. -/
def keepUnsent (b : SendMmsg batchSize bufferSize) (totalSent : Nat) : SendMmsg batchSize bufferSize :=
  if totalSent > 0 then
    { b with
      msgvec := swapUp totalSent (b.count - totalSent) b.msgvec
      count := b.count - totalSent
      count_le := (Nat.sub_le _ _).trans b.count_le }
  else b

/-- The retry loop of `flush`, over the kernel's answers; a kernel with no more answers blocks. -/
def flushLoop (b : SendMmsg batchSize bufferSize) :
    List KernelAnswer → (totalSent : Nat) → (log : List Datagram) → Flushed batchSize bufferSize
  | [], totalSent, log =>
    if totalSent < b.count then ⟨b.keepUnsent totalSent, log, totalSent, none⟩
    else ⟨b.setCount 0 (Nat.zero_le _), log, totalSent, none⟩
  | answer :: answers, totalSent, log =>
    if totalSent < b.count then
      match answer with
      | .took k =>
        let sent := min (k + 1) (b.count - totalSent)
        b.flushLoop answers (totalSent + sent) (log ++ b.taken totalSent sent)
      | .wouldBlock => ⟨b.keepUnsent totalSent, log, totalSent, none⟩
      | .error errno => ⟨b.setCount 0 (Nat.zero_le _), log, totalSent, some errno⟩
    else ⟨b.setCount 0 (Nat.zero_le _), log, totalSent, none⟩

def flush (b : SendMmsg batchSize bufferSize) (answers : List KernelAnswer) : Flushed batchSize bufferSize :=
  if b.count = 0 then ⟨b, [], 0, none⟩ else b.flushLoop answers 0 []

/-! ### Slots -/

structure Holds (b : SendMmsg batchSize bufferSize) (h : MsgHdr) (i : Nat) (d : Datagram) : Prop where
  header : h = ⟨some i, d.addr.sockaddrLen, some i⟩
  iovec : b.iovecs[i]? = some ⟨i, d.data.length⟩
  buffer : ∃ buffer, b.buffers[i]? = some buffer ∧ buffer.bytes.take d.data.length = d.data
  addr : b.addrs[i]? = some (some d.addr)

variable {b : SendMmsg batchSize bufferSize}

theorem Holds.datagram_eq {h : MsgHdr} {i : Nat} {d : Datagram} (hh : Holds b h i d) : b.datagram h = some d := by
  obtain ⟨rfl, hiovec, ⟨buffer, hbuffer, hdata⟩, haddr⟩ := hh
  simp [datagram, hiovec, hbuffer, haddr, hdata]

theorem Holds.fillSlot_of_ne {h : MsgHdr} {i : Nat} {d : Datagram}
    (hh : Holds b h i d) (hne : b.count ≠ i) (hroom : b.count < batchSize) (buffer : Block bufferSize)
    (len : Nat) (addr : SocketAddr) : Holds (b.fillSlot hroom buffer len addr) h i d where
  header := hh.header
  iovec := (Vector.getElem?_setIfInBounds_ne hne).trans hh.iovec
  buffer := by
    obtain ⟨buf, hbuf, hdata⟩ := hh.buffer
    exact ⟨buf, (Vector.getElem?_setIfInBounds_ne hne).trans hbuf, hdata⟩
  addr := (Vector.getElem?_setIfInBounds_ne hne).trans hh.addr

variable {len : Nat}

theorem holds_fillSlot (b : SendMmsg batchSize bufferSize) (hroom : b.count < batchSize)
    (buffer : Block bufferSize) (hlen : len ≤ bufferSize) (addr : SocketAddr) :
    Holds (b.fillSlot hroom buffer len addr) ⟨some b.count, addr.sockaddrLen, some b.count⟩ b.count
      ⟨buffer.bytes.take len, addr⟩ where
  header := rfl
  iovec := by
    simp [fillSlot, hroom, hlen]
  buffer := ⟨buffer, by simp [fillSlot, hroom], by simp [hlen]⟩
  addr := by simp [fillSlot, hroom]

/-! ### The batch as a queue -/

structure Queued (b : SendMmsg batchSize bufferSize) (pending : List Datagram) : Prop where
  count_eq : b.count = pending.length
  slots : ∀ (j : Nat) (d : Datagram), pending[j]? = some d → ∃ h i, b.msgvec[j]? = some h ∧ Holds b h i d

/-- No waiting header names the slot that the next packet goes to. -/
def SlotFree (b : SendMmsg batchSize bufferSize) : Prop :=
  ∀ j < b.count, ∀ h, b.msgvec[j]? = some h → h.iov ≠ some b.count

variable {pending : List Datagram}

theorem Queued.fillSlot
    (h : b.Queued pending) (hfree : b.SlotFree) (hroom : b.count < batchSize)
    (buffer : Block bufferSize) (hlen : len ≤ bufferSize) (addr : SocketAddr) :
    (b.fillSlot hroom buffer len addr).Queued (pending ++ [⟨buffer.bytes.take len, addr⟩]) where
  count_eq := by
    rw [List.length_append, List.length_singleton, ← h.count_eq]
    rfl
  slots := by
    intro j d hj
    by_cases hlast : j < pending.length
    · rw [List.getElem?_append_left hlast] at hj
      obtain ⟨hdr, i, hhdr, hholds⟩ := h.slots j d hj
      have hcount : j < b.count := h.count_eq ▸ hlast
      have hne : b.count ≠ i := by
        rintro rfl
        exact hfree j hcount hdr hhdr (congrArg MsgHdr.iov hholds.header)
      refine ⟨hdr, i, ?_, hholds.fillSlot_of_ne hne hroom buffer len addr⟩
      exact (Vector.getElem?_setIfInBounds_ne (by omega)).trans hhdr
    · have hjeq : j = b.count := by
        have hlt := (List.getElem?_eq_some_iff.mp hj).1
        rw [List.length_append, List.length_singleton] at hlt
        rw [h.count_eq]
        omega
      subst hjeq
      rw [h.count_eq, List.getElem?_append_right le_rfl, Nat.sub_self] at hj
      cases hj
      refine ⟨_, b.count, ?_, b.holds_fillSlot hroom buffer hlen addr⟩
      simp [SendMmsg.fillSlot, hroom]

theorem Queued.taken_eq (h : b.Queued pending) {start n : Nat} (hle : start + n ≤ pending.length) :
    b.taken start n = (pending.drop start).take n := by
  induction n with
  | zero => simp [taken]
  | succ n ih =>
    have hlt : start + n < pending.length := by omega
    obtain ⟨hdr, i, hhdr, hholds⟩ := h.slots (start + n) _ (List.getElem?_eq_getElem hlt)
    have hlist : b.msgvec.toList[start + n]? = some hdr := by
      rw [Vector.getElem?_toList]
      exact hhdr
    have hprev := ih (by omega)
    unfold taken at hprev ⊢
    rw [List.take_add_one, List.filterMap_append, hprev, List.take_add_one, List.getElem?_drop, hlist,
      List.getElem?_drop, List.getElem?_eq_getElem hlt]
    simp [hholds.datagram_eq]

theorem Queued.keepUnsent (h : b.Queued pending) {totalSent : Nat} (hle : totalSent ≤ pending.length) :
    (b.keepUnsent totalSent).Queued (pending.drop totalSent) := by
  unfold SendMmsg.keepUnsent
  split
  case isFalse hzero =>
      obtain rfl : totalSent = 0 := by omega
      exact h
  case isTrue hpos =>
      have hcount := h.count_eq
      have hmove := (getElem?_swapUp b.msgvec (k := b.count - totalSent) hpos (by have := b.count_le; omega)).1
      refine ⟨by rw [List.length_drop, ← hcount], fun j d hj => ?_⟩
      rw [List.getElem?_drop] at hj
      have hlt := (List.getElem?_eq_some_iff.mp hj).1
      obtain ⟨hdr, i, hhdr, hholds⟩ := h.slots (totalSent + j) d hj
      refine ⟨hdr, i, ?_, ⟨hholds.header, hholds.iovec, hholds.buffer, hholds.addr⟩⟩
      exact (hmove j (by omega)).trans hhdr

theorem queued_setCount_zero (b : SendMmsg batchSize bufferSize) : (b.setCount 0 (Nat.zero_le _)).Queued [] :=
  ⟨rfl, by simp⟩

/-- The kernel took the first `totalSent` items; the others stay queued, or are lost when it failed. -/
structure FlushSpec (pending : List Datagram) (r : Flushed batchSize bufferSize) : Prop where
  totalSent_le : r.totalSent ≤ pending.length
  taken_eq : r.taken = pending.take r.totalSent
  queued : r.batch.Queued (if r.error.isSome then [] else pending.drop r.totalSent)

theorem flushLoop_spec (h : b.Queued pending)
    (answers : List KernelAnswer) {totalSent : Nat} (hle : totalSent ≤ pending.length) :
    FlushSpec pending (b.flushLoop answers totalSent (pending.take totalSent)) := by
  have hcount := h.count_eq
  have hblocked : ∀ n ≤ pending.length, FlushSpec pending
      (⟨b.keepUnsent n, pending.take n, n, none⟩ : Flushed batchSize bufferSize) :=
    fun n hn => ⟨hn, rfl, h.keepUnsent hn⟩
  have hdone : ∀ n ≤ pending.length, ¬n < b.count → FlushSpec pending
      (⟨b.setCount 0 (Nat.zero_le _), pending.take n, n, none⟩ : Flushed batchSize bufferSize) := by
    intro n hn hall
    have hnil : pending.drop n = [] := List.drop_eq_nil_iff.mpr (by omega)
    refine ⟨hn, rfl, ?_⟩
    simpa [hnil] using b.queued_setCount_zero
  induction answers generalizing totalSent with
  | nil =>
    rw [flushLoop]
    split
    case isTrue => exact hblocked totalSent hle
    case isFalse hall => exact hdone totalSent hle hall
  | cons answer answers ih =>
    unfold flushLoop
    split
    case isFalse hall => exact hdone totalSent hle hall
    case isTrue hmore =>
        cases answer with
        | took k =>
          have hbound : totalSent + min (k + 1) (b.count - totalSent) ≤ pending.length := by omega
          dsimp only
          rw [h.taken_eq hbound, ← List.take_add]
          exact ih hbound
        | wouldBlock => exact hblocked totalSent hle
        | error errno => exact ⟨hle, rfl, by simpa using b.queued_setCount_zero⟩

theorem flush_spec (h : b.Queued pending) (answers : List KernelAnswer) : FlushSpec pending (b.flush answers) := by
  unfold flush
  split
  case isTrue hempty =>
      have hnil : pending = [] := List.length_eq_zero_iff.mp (h.count_eq.symm.trans hempty)
      subst hnil
      exact ⟨le_rfl, rfl, h⟩
  case isFalse => exact flushLoop_spec h answers (Nat.zero_le _)

/-! ### Runs -/

/-- One use of the batch; a flush comes with the kernel's answers to its system calls. -/
inductive BatchOp (bufferSize : Nat)
  | add (data : Bytes) (addr : SocketAddr)
  | commit (contents : Block bufferSize) (len : Nat) (addr : SocketAddr)
  | flush (answers : List KernelAnswer)

/-- The batch, what it accepted, and the queue it should be. -/
structure BatchRun (batchSize bufferSize : Nat) where
  batch : SendMmsg batchSize bufferSize
  accepted : List Datagram
  fifo : Fifo Datagram

def start (batchSize bufferSize : Nat) : BatchRun batchSize bufferSize := ⟨new batchSize bufferSize, [], .empty⟩

def record (r : BatchRun batchSize bufferSize) (d : Datagram)
    (result : SendMmsg batchSize bufferSize × Bool) : BatchRun batchSize bufferSize :=
  { r with batch := result.1, fifo := if result.2 then r.fifo.enqueue d else r.fifo }

def batchStep (r : BatchRun batchSize bufferSize) : BatchOp bufferSize → BatchRun batchSize bufferSize
  | .add data addr => record r ⟨data, addr⟩ (r.batch.add data addr)
  | .commit contents len addr =>
    record r ⟨contents.bytes.take len, addr⟩ (r.batch.commit contents len addr)
  | .flush answers =>
    let result := r.batch.flush answers
    let fifo := r.fifo.transmit result.totalSent
    ⟨result.batch, r.accepted ++ result.taken, if result.error.isSome then fifo.discard else fifo⟩

/-- The packet fits its slot, and no waiting header names the slot it goes to. -/
def FitsFreeSlot (r : BatchRun batchSize bufferSize) : BatchOp bufferSize → Prop
  | .add data _ => data.length ≤ bufferSize ∧ r.batch.SlotFree
  | .commit _ len _ => len ≤ bufferSize ∧ r.batch.SlotFree
  | .flush _ => True

structure BatchInv (r : BatchRun batchSize bufferSize) : Prop where
  accepted_eq : r.accepted = r.fifo.sent
  queued : r.batch.Queued r.fifo.pending

theorem batchInv_start : BatchInv (start batchSize bufferSize) :=
  ⟨rfl, rfl, by simp [start, Fifo.empty]⟩

variable {r : BatchRun batchSize bufferSize}

theorem batchInv_add (h : BatchInv r) {data : Bytes}
    (hfit : data.length ≤ bufferSize) (hfree : r.batch.SlotFree) (addr : SocketAddr) :
    BatchInv (batchStep r (.add data addr)) := by
  rw [batchStep, add]
  by_cases hroom : r.batch.count < batchSize
  · have hlen : min data.length bufferSize = data.length := Nat.min_eq_left hfit
    rw [dif_pos hroom]
    refine ⟨h.accepted_eq, ?_⟩
    have hfill := h.queued.fillSlot hfree hroom
      (writeFront r.batch.buffers[r.batch.count] (data.take (min data.length bufferSize)) (by simp))
      (Nat.min_le_right data.length bufferSize) addr
    have hfront : (writeFront r.batch.buffers[r.batch.count] (data.take (min data.length bufferSize))
        (by simp)).bytes.take (min data.length bufferSize) = data := by
      simp [writeFront, hlen]
    rw [hfront] at hfill
    exact hfill
  · rw [dif_neg hroom]
    exact h

theorem batchInv_commit (h : BatchInv r)
    (hfit : len ≤ bufferSize) (hfree : r.batch.SlotFree) (contents : Block bufferSize) (addr : SocketAddr) :
    BatchInv (batchStep r (.commit contents len addr)) := by
  rw [batchStep, commit]
  by_cases hroom : r.batch.count < batchSize
  · rw [dif_pos hroom]
    exact ⟨h.accepted_eq, h.queued.fillSlot hfree hroom contents hfit addr⟩
  · rw [dif_neg hroom]
    exact h

theorem batchInv_flush (h : BatchInv r) (answers : List KernelAnswer) : BatchInv (batchStep r (.flush answers)) := by
  obtain ⟨-, htaken, hqueued⟩ := flush_spec h.queued answers
  rw [batchStep]
  cases herror : (r.batch.flush answers).error with
  | none =>
    rw [herror] at hqueued
    exact ⟨by rw [h.accepted_eq, htaken]; rfl, hqueued⟩
  | some errno =>
    rw [herror] at hqueued
    exact ⟨by rw [h.accepted_eq, htaken]; rfl, hqueued⟩

theorem batchInv_step (r : BatchRun batchSize bufferSize) (op : BatchOp bufferSize) (h : BatchInv r)
    (hslot : FitsFreeSlot r op) : BatchInv (batchStep r op) := by
  cases op with
  | add data addr => exact batchInv_add h hslot.1 hslot.2 addr
  | commit contents len addr => exact batchInv_commit h hslot.1 hslot.2 contents addr
  | flush answers => exact batchInv_flush h answers

/-- In every run that fills only free slots, the kernel has taken exactly the packets that left the queue, in order
and unaltered, and the others wait. -/
theorem batch_is_fifo (batchSize bufferSize : Nat) (ops : List (BatchOp bufferSize))
    (hslots : Runs.Meets FitsFreeSlot batchStep (start batchSize bufferSize) ops) :
    let r := Runs.exec batchStep (start batchSize bufferSize) ops
    r.accepted = r.fifo.sent ∧ r.batch.count = r.fifo.pending.length := by
  have h := Runs.exec_invariant_of batchInv_step ops _ batchInv_start hslots
  exact ⟨h.accepted_eq, h.queued.count_eq⟩

/-- A flush that is blocked after two of three packets, one more packet in the slot it freed, and a flush
that sends both. -/
theorem batch_is_fifo_after_partial_send :
    let peer : SocketAddr := .v4 (Block.replicate 4 9) 53
    let ops : List (BatchOp 4) := [.add [1] peer, .add [2] peer, .add [3] peer, .flush [.took 1, .wouldBlock],
      .add [4] peer, .flush [.took 7]]
    let r := Runs.exec batchStep (start 4 4) ops
    r.accepted = [⟨[1], peer⟩, ⟨[2], peer⟩, ⟨[3], peer⟩, ⟨[4], peer⟩] ∧ r.accepted = r.fifo.sent ∧
      r.batch.count = r.fifo.pending.length := by
  intro peer ops r
  refine ⟨by decide, batch_is_fifo 4 4 ops ?_⟩
  have hfree : ∀ b : SendMmsg 4 4, (∀ j : Fin 4, j.val < b.count → b.msgvec[j].iov ≠ some b.count) → b.SlotFree := by
    intro b hb j hj h hget
    obtain ⟨hlt, heq⟩ := Vector.getElem?_eq_some_iff.mp hget
    rw [← heq]
    exact hb ⟨j, hlt⟩ hj
  refine ⟨⟨by decide, hfree _ (by decide)⟩, ⟨by decide, hfree _ (by decide)⟩,
    ⟨by decide, hfree _ (by decide)⟩, trivial, ⟨by decide, hfree _ (by decide)⟩, trivial, trivial⟩

/-- Three packets are queued and one is sent; the next lands in the slot of the third, which is lost, and is sent
twice. -/
theorem batch_slot_reused :
    let peer : SocketAddr := .v4 (Block.replicate 4 9) 53
    let r := Runs.exec batchStep (start 4 4) [.add [1] peer, .add [2] peer, .add [3] peer,
      .flush [.took 0, .wouldBlock], .add [4] peer, .flush [.took 7]]
    r.accepted ≠ r.fifo.sent ∧
      r.fifo.sent = [⟨[1], peer⟩, ⟨[2], peer⟩, ⟨[3], peer⟩, ⟨[4], peer⟩] ∧
      r.accepted = [⟨[1], peer⟩, ⟨[2], peer⟩, ⟨[4], peer⟩, ⟨[4], peer⟩] := by
  decide

end SendMmsg
end HpnVpn
