import Mathlib.Tactic.Abel
import HpnVpn.XskSocket

/-! Where the frames of an AF_XDP socket are: on the free stack, in the fill ring or with the kernel, with the
program, or on the way out. -/
namespace HpnVpn
open Rings Runs Wire XskSocket ProducerEnd Ring

/-! ### What the operations of the socket do to the rings and the stack -/

namespace XskSocket
variable {s : XskSocket}

structure Settled (s : XskSocket) : Prop where
  fill : s.fill.Settled
  comp : s.comp.Settled
  rx : s.rx.Settled
  tx : s.tx.Settled

variable {n : Nat}

theorem writeFrames_eq {start : UInt32} :
    ∀ {i : Nat} {umem : Umem} {fill : FillRing}, n ≤ umem.freeStack.length →
      writeFrames start i n umem fill =
        ({ umem with freeStack := umem.freeStack.drop n },
          { fill with toRing := fill.toRing.writeAll (start + UInt32.ofNat i) (umem.freeStack.take n) }, i + n) := by
  induction n with
  | zero =>
    intro i umem fill _
    rfl
  | succ n ih =>
    intro i umem fill hn
    obtain ⟨config, freeStack⟩ := umem
    cases freeStack with
    | nil => exact absurd hn (Nat.not_succ_le_zero n)
    | cons addr rest =>
      have hnext : start + UInt32.ofNat i + 1 = start + UInt32.ofNat (i + 1) := by
        rw [ofNat_succ_add, UInt32.add_assoc, UInt32.add_assoc, UInt32.add_comm 1]
      calc writeFrames start i (n + 1) ⟨config, addr :: rest⟩ fill
          = writeFrames start (i + 1) n ⟨config, rest⟩ (fill.write (start + UInt32.ofNat i) addr) := rfl
        _ = _ := ih (Nat.le_of_succ_le_succ hn)
        _ = _ := by
          rw [List.take_succ_cons, Ring.writeAll, hnext, add_assoc, add_comm 1]
          rfl

theorem provide_eq {umem : Umem} {fill : FillRing} (h : fill.Settled)
    (hn : n ≤ umem.freeStack.length) (hfit : fill.used + n ≤ fill.size) :
    ∃ start fill', fill.reserve n = some (start, fill') ∧
      (writeFrames start 0 n umem fill').1 = { umem with freeStack := umem.freeStack.drop n } ∧
      (writeFrames start 0 n umem fill').2.2 = n ∧
      (writeFrames start 0 n umem fill').2.1.submit n = fill.push (umem.freeStack.take n) := by
  have hlength : (umem.freeStack.take n).length = n := List.length_take_of_le hn
  refine ⟨_, _, h.reserve_eq hfit, ?_⟩
  rw [writeFrames_eq hn]
  refine ⟨rfl, zero_add n, ?_⟩
  rw [ProducerEnd.push, Ring.push, hlength, show UInt32.ofNat 0 = 0 from rfl, UInt32.add_zero]
  unfold ProducerEnd.submit
  rw [producer_writeAll]

structure Provided (s s' : XskSocket) (n : Nat) : Prop where
  config_eq : s'.umem.config = s.umem.config
  freeStack : s'.umem.freeStack = s.umem.freeStack.drop n
  fillContents : s'.fill.contents = s.fill.contents ++ s.umem.freeStack.take n
  fillSettled : s'.fill.Settled
  comp : s'.comp = s.comp
  rx : s'.rx = s.rx
  tx : s'.tx = s.tx

theorem Provided.refl (h : s.fill.Settled) : Provided s s 0 where
  config_eq := rfl
  freeStack := rfl
  fillContents := by rw [List.take_zero, List.append_nil]
  fillSettled := h
  comp := rfl
  rx := rfl
  tx := rfl

theorem Provided.of_push (hn : n ≤ s.umem.freeStack.length) (hfit : s.fill.used + n ≤ s.fill.size) :
    Provided s { s with
      umem := { s.umem with freeStack := s.umem.freeStack.drop n }
      fill := s.fill.push (s.umem.freeStack.take n) } n := by
  have hfit' : s.fill.used + (s.umem.freeStack.take n).length ≤ s.fill.size := by
    rw [List.length_take_of_le hn]
    exact hfit
  exact ⟨rfl, rfl, contents_push hfit', settled_push hfit', rfl, rfl, rfl⟩

theorem prefillFillRing_spec (h : s.fill.Settled) {count : Nat} {s' : XskSocket}
    (hok : s.prefillFillRing count = .ok s') : ∃ n, Provided s s' n := by
  unfold prefillFillRing at hok
  dsimp only at hok
  split at hok
  · cases hok
    exact ⟨0, .refl h⟩
  · by_cases hfit : s.fill.used + min count s.umem.availableFrames ≤ s.fill.size
    · have hn : min count s.umem.availableFrames ≤ s.umem.freeStack.length := min_le_right ..
      obtain ⟨start, fill, hreserve, humem, hwritten, hsubmit⟩ := provide_eq h hn hfit
      rw [hreserve] at hok
      dsimp only at hok
      rw [hwritten, if_neg (lt_irrefl _), humem, hsubmit] at hok
      cases hok
      exact ⟨_, .of_push hn hfit⟩
    · rw [h.reserve_eq_none (Nat.lt_of_not_le hfit)] at hok
      cases hok

theorem foldl_freeFrame (addrs : List Nat) (umem : Umem) :
    addrs.foldl Umem.freeFrame umem = { umem with freeStack := addrs.reverse ++ umem.freeStack } := by
  induction addrs generalizing umem with
  | nil => rfl
  | cons addr addrs ih =>
    rw [List.foldl_cons, ih, List.reverse_cons, List.append_assoc]
    rfl

theorem reclaimCompleted_umem (h : s.Settled) :
    s.reclaimCompleted.umem = { s.umem with freeStack := s.comp.contents.reverse ++ s.umem.freeStack } := by
  have hpeek : (List.range s.comp.available.toNat).map s.comp.peek = s.comp.contents := by
    rw [h.comp.available_eq, h.comp.map_peek le_rfl, ← length_contents, List.take_length]
  show ((List.range s.comp.available.toNat).map s.comp.peek).foldl Umem.freeFrame s.umem = _
  rw [hpeek, foldl_freeFrame]

theorem reclaimCompleted_comp (h : s.Settled) :
    s.reclaimCompleted.comp.contents = [] ∧ s.reclaimCompleted.comp.Settled := by
  show (if 0 < s.comp.available.toNat then s.comp.release s.comp.available.toNat else s.comp).contents = [] ∧
    (if 0 < s.comp.available.toNat then s.comp.release s.comp.available.toNat else s.comp).Settled
  rw [h.comp.available_eq]
  split
  · rw [h.comp.contents_release le_rfl, ← length_contents, List.drop_length]
    rw [length_contents]
    exact ⟨rfl, h.comp.release le_rfl⟩
  · exact ⟨List.length_eq_zero_iff.mp (by rw [length_contents]; omega), h.comp⟩

theorem reclaimCompleted_settled (h : s.Settled) : s.reclaimCompleted.Settled :=
  ⟨h.fill, (reclaimCompleted_comp h).2, h.rx, h.tx⟩

theorem refillFrames_spec (h : s.Settled) (count : Nat) :
    ∃ n, Provided s.reclaimCompleted (s.refillFrames count) n := by
  have hfill : s.reclaimCompleted.fill.Settled := h.fill
  unfold refillFrames
  generalize s.reclaimCompleted = s' at hfill ⊢
  dsimp only
  split
  · exact ⟨0, .refl hfill⟩
  · by_cases hfit : s'.fill.used + min s'.umem.availableFrames count ≤ s'.fill.size
    · have hn : min s'.umem.availableFrames count ≤ s'.umem.freeStack.length := min_le_left ..
      obtain ⟨start, fill, hreserve, humem, hwritten, hsubmit⟩ := provide_eq hfill hn hfit
      rw [hreserve]
      dsimp only
      rw [hwritten, humem, hsubmit]
      exact ⟨_, .of_push hn hfit⟩
    · rw [hfill.reserve_eq_none (Nat.lt_of_not_le hfit)]
      exact ⟨0, .refl hfill⟩

def addrs (s : XskSocket) : Multiset Nat :=
  ↑s.umem.freeStack + ↑s.fill.contents + ↑s.comp.contents + ↑(s.rx.contents.map XdpDesc.addr) +
    ↑(s.tx.contents.map XdpDesc.addr)

theorem addrs_ofUmem (umem : Umem) (ring : RingConfig) : (ofUmem umem ring).addrs = ↑umem.freeStack := by
  unfold addrs ofUmem
  rw [contents_new, ConsumerEnd.contents_new, ConsumerEnd.contents_new, contents_new]
  simp only [List.map_nil, Multiset.coe_nil, add_zero]

theorem Provided.addrs_eq {s' : XskSocket} (h : Provided s s' n) : s'.addrs = s.addrs := by
  have hmoved : (↑s'.umem.freeStack + ↑s'.fill.contents : Multiset Nat) = ↑s.umem.freeStack + ↑s.fill.contents := by
    rw [h.freeStack, h.fillContents, ← Multiset.coe_add, add_comm (↑s.fill.contents : Multiset Nat), ← add_assoc,
      Multiset.coe_add, ← Multiset.coe_add, add_comm (↑(s.umem.freeStack.drop n) : Multiset Nat), Multiset.coe_add,
      List.take_append_drop]
  rw [addrs, addrs, hmoved, h.comp, h.rx, h.tx]

theorem reclaimCompleted_addrs (h : s.Settled) : s.reclaimCompleted.addrs = s.addrs := by
  have hstack : (↑s.reclaimCompleted.umem.freeStack : Multiset Nat) = ↑s.umem.freeStack + ↑s.comp.contents := by
    rw [reclaimCompleted_umem h, ← Multiset.coe_add, Multiset.coe_reverse, add_comm]
  have hempty : (↑s.reclaimCompleted.comp.contents : Multiset Nat) = 0 := by
    rw [(reclaimCompleted_comp h).1]
    rfl
  rw [addrs, hstack, hempty, add_zero, add_right_comm (↑s.umem.freeStack : Multiset Nat)]
  rfl

theorem refillFrames_frame (h : s.Settled) (count : Nat) :
    (s.refillFrames count).Settled ∧ (s.refillFrames count).addrs = s.addrs ∧
      (s.refillFrames count).umem.config = s.umem.config ∧ (s.refillFrames count).comp.contents = [] ∧
      (s.refillFrames count).tx = s.tx := by
  obtain ⟨n, hprovided⟩ := refillFrames_spec h count
  have hcomp := reclaimCompleted_comp h
  refine ⟨⟨hprovided.fillSettled, ?_, ?_, ?_⟩, ?_, ?_, ?_, hprovided.tx⟩
  · rw [hprovided.comp]
    exact hcomp.2
  · rw [hprovided.rx]
    exact h.rx
  · rw [hprovided.tx]
    exact h.tx
  · rw [hprovided.addrs_eq, reclaimCompleted_addrs h]
  · rw [hprovided.config_eq, reclaimCompleted_umem h]
  · rw [hprovided.comp]
    exact hcomp.1

/-- Descriptors are taken from the RX ring, and as many frames given to the kernel if there are any. -/
def consume (s : XskSocket) (k : Nat) : XskSocket := ({ s with rx := s.rx.release k }).refillFrames k

theorem consume_frame (h : s.Settled) {k : Nat} (hk : k ≤ s.rx.used) :
    (s.consume k).Settled ∧ (s.consume k).addrs + ↑((s.rx.contents.take k).map XdpDesc.addr) = s.addrs ∧
      (s.consume k).umem.config = s.umem.config ∧ (s.consume k).comp.contents = [] ∧ (s.consume k).tx = s.tx := by
  have hreleased : ({ s with rx := s.rx.release k } : XskSocket).Settled := ⟨h.fill, h.comp, h.rx.release hk, h.tx⟩
  obtain ⟨hsettled, haddrs, hconfig, hcomp, htx⟩ := refillFrames_frame hreleased k
  refine ⟨hsettled, ?_, hconfig, hcomp, htx⟩
  have hrx : (↑(s.rx.contents.map XdpDesc.addr) : Multiset Nat) =
      ↑((s.rx.release k).contents.map XdpDesc.addr) + ↑((s.rx.contents.take k).map XdpDesc.addr) := by
    rw [h.rx.contents_release hk, add_comm, Multiset.coe_add, ← List.map_append, List.take_append_drop]
  show (({ s with rx := s.rx.release k } : XskSocket).refillFrames k).addrs + _ = _
  rw [haddrs, addrs, addrs, hrx, add_right_comm, ← add_assoc]

def Receives (s s' : XskSocket) (maxBatch : Nat) : Prop :=
  ((s.rx.contents = [] ∨ maxBatch = 0) ∧ s' = s) ∨
    (¬(s.rx.contents = [] ∨ maxBatch = 0) ∧ ∃ k, 0 < k ∧ k ≤ s.rx.used ∧ s' = s.consume k)

theorem available_eq_zero (h : s.Settled) {maxBatch : Nat} :
    min s.rx.available.toNat maxBatch = 0 ↔ s.rx.contents = [] ∨ maxBatch = 0 := by
  rw [h.rx.available_eq, ← List.length_eq_zero_iff, length_contents]
  omega

theorem recv_receives (h : s.Settled) (maxBatch : Nat) : Receives s (s.recv maxBatch).1 maxBatch := by
  unfold recv
  dsimp only
  split
  · rename_i hzero
    exact .inl ⟨(available_eq_zero h).mp hzero, rfl⟩
  · rename_i hpos
    refine .inr ⟨mt (available_eq_zero h).mpr hpos, _, pos_of_ne_zero hpos, ?_, rfl⟩
    rw [h.rx.available_eq]
    exact min_le_left ..

variable (handler : Nat → Bool)

theorem processed_mem (i n : Nat) : i ≤ s.processed handler i n ∧ s.processed handler i n ≤ i + n := by
  induction n generalizing i with
  | zero => exact ⟨le_rfl, le_rfl⟩
  | succ n ih =>
    have hnext := ih (i + 1)
    unfold processed
    dsimp only
    split
    · omega
    split
    all_goals omega

theorem processed_pos (n : Nat) : 0 < s.processed handler 0 (n + 1) := by
  have hnext := (processed_mem (s := s) handler 1 n).1
  unfold processed
  dsimp only
  split
  · exact hnext
  split
  · exact hnext
  · exact one_pos

theorem recvBatch_receives (h : s.Settled) (maxBatch : Nat) (handler : Nat → Bool) :
    Receives s (s.recvBatch maxBatch handler).1 maxBatch := by
  unfold recvBatch
  dsimp only
  split
  · rename_i hzero
    exact .inl ⟨(available_eq_zero h).mp hzero, rfl⟩
  · rename_i hpos
    refine .inr ⟨mt (available_eq_zero h).mpr hpos, _, ?_, ?_, rfl⟩
    · obtain ⟨n, hn⟩ := Nat.exists_eq_succ_of_ne_zero hpos
      rw [hn]
      exact processed_pos handler n
    · have hle := (processed_mem (s := s) handler 0 (min s.rx.available.toNat maxBatch)).2
      rw [h.rx.available_eq] at hle ⊢
      omega

def Reclaims (s : XskSocket) (len : Nat) : Prop :=
  len ≤ s.umem.config.maxPacketSize ∧ s.tx.used = s.tx.size

theorem freeSlots_eq_zero (h : s.Settled) : s.tx.freeSlots = 0 ↔ s.tx.used = s.tx.size := by
  have hle := h.tx.used_le
  rw [← UInt32.toNat_inj, h.tx.freeSlots_eq]
  show s.tx.size - s.tx.used = 0 ↔ _
  omega

theorem sendReserve_cases (h : s.Settled) (len : Nat) :
    (s.Reclaims len ∧ s.sendReserve len = (s.reclaimCompleted, none)) ∨
      (¬s.Reclaims len ∧ (s.sendReserve len = (s, none) ∨
        ∃ addr rest, s.umem.freeStack = addr :: rest ∧ s.tx.used < s.tx.size ∧
          addr % s.umem.config.frameSize = 0 ∧
          s.sendReserve len = ({ s with umem := { s.umem with freeStack := rest } }, some addr))) := by
  have hle := h.tx.used_le
  unfold sendReserve
  split
  · rename_i hlong
    exact .inr ⟨fun hreclaims => Nat.not_le_of_lt hlong hreclaims.1, .inl rfl⟩
  rename_i hlong
  by_cases hfull : s.tx.freeSlots = 0
  · have hfull' : s.reclaimCompleted.tx.freeSlots = 0 := hfull
    rw [if_pos hfull, if_pos hfull']
    exact .inl ⟨⟨Nat.le_of_not_lt hlong, (freeSlots_eq_zero h).mp hfull⟩, rfl⟩
  · rw [if_neg hfull, if_neg hfull]
    refine .inr ⟨fun hreclaims => hfull ((freeSlots_eq_zero h).mpr hreclaims.2), ?_⟩
    have hroom : s.tx.used < s.tx.size := lt_of_le_of_ne hle (mt (freeSlots_eq_zero h).mpr hfull)
    obtain ⟨⟨config, freeStack⟩, fill, comp, rx, tx⟩ := s
    cases freeStack with
    | nil => exact .inl rfl
    | cons addr rest =>
      dsimp only [Umem.allocFrame]
      cases hbounds : (⟨config, rest⟩ : Umem).validatePacketBounds addr len with
      | error e => exact .inl rfl
      | ok start =>
        refine .inr ⟨addr, rest, rfl, hroom, ?_, rfl⟩
        unfold Umem.validatePacketBounds at hbounds
        split at hbounds
        · cases hbounds
        · rename_i hvalid
          have hvalid := Bool.eq_true_of_not_eq_false hvalid
          exact eq_of_beq (Bool.and_eq_true_iff.mp hvalid).2

theorem sendSubmit_eq (h : s.Settled) (hroom : s.tx.used < s.tx.size) (addr len : Nat) :
    s.sendSubmit addr len = some { s with tx := s.tx.push [⟨addr + s.umem.config.headroom, len⟩] } := by
  unfold sendSubmit
  rw [h.tx.reserve_eq hroom]
  rfl

end XskSocket

/-! ### The socket and the kernel -/

/-- A socket, the reservation held, and the frames the kernel has taken from the fill and the TX ring. -/
structure XskSystem where
  socket : XskSocket
  held : Option Nat
  kernelRx : List Nat
  kernelTx : List Nat

/-- What the program does, and the kernel, which takes frames and hands each back at its address. -/
inductive XskOp
  | recv (maxBatch : Nat)
  | recvBatch (maxBatch : Nat) (handler : Nat → Bool)
  | reserve (len : Nat)
  | submit (len : Nat)
  | abandon
  | takeFill (n : Nat)
  | deliver (i len : Nat)
  | takeTx (n : Nat)
  | complete (i : Nat)

namespace XskSystem

def start (socket : XskSocket) : XskSystem := ⟨socket, none, [], []⟩

/-- The users of the socket submit or drop a reservation before they make another one. -/
def step (s : XskSystem) : XskOp → XskSystem
  | .recv maxBatch => { s with socket := (s.socket.recv maxBatch).1 }
  | .recvBatch maxBatch handler => { s with socket := (s.socket.recvBatch maxBatch handler).1 }
  | .reserve len =>
    match s.held with
    | some _ => s
    | none => { s with socket := (s.socket.sendReserve len).1, held := (s.socket.sendReserve len).2 }
  | .submit len =>
    match s.held with
    | none => s
    | some addr =>
      match s.socket.sendSubmit addr len with
      | none => s
      | some socket => { s with socket, held := none }
  | .abandon => { s with held := none }
  | .takeFill n =>
    if n ≤ s.socket.fill.used then
      { s with
        socket := { s.socket with fill := s.socket.fill.take n }
        kernelRx := s.kernelRx ++ s.socket.fill.contents.take n }
    else s
  | .deliver i len =>
    match s.kernelRx[i]? with
    | none => s
    | some addr =>
      if s.socket.rx.used < s.socket.rx.size then
        { s with
          socket := { s.socket with rx := s.socket.rx.put [⟨addr, len⟩] }
          kernelRx := s.kernelRx.eraseIdx i }
      else s
  | .takeTx n =>
    if n ≤ s.socket.tx.used then
      { s with
        socket := { s.socket with tx := s.socket.tx.take n }
        kernelTx := s.kernelTx ++ (s.socket.tx.contents.take n).map XdpDesc.addr }
    else s
  | .complete i =>
    match s.kernelTx[i]? with
    | none => s
    | some addr =>
      if s.socket.comp.used < s.socket.comp.size then
        { s with
          socket := { s.socket with comp := s.socket.comp.put [addr] }
          kernelTx := s.kernelTx.eraseIdx i }
      else s

def config (s : XskSystem) : UmemConfig := s.socket.umem.config

def places (s : XskSystem) : Multiset Nat := s.socket.addrs + ↑s.kernelRx + ↑s.held.toList + ↑s.kernelTx

def frameOf (s : XskSystem) (addr : Nat) : Nat := addr / s.config.frameSize

def Drained (s : XskSystem) : Prop :=
  s.kernelRx = [] ∧ s.kernelTx = [] ∧ s.held = none ∧ s.socket.comp.contents = [] ∧ s.socket.rx.contents = [] ∧
    s.socket.tx.contents = []

/-- Every frame is in just one place, the free stack has different frame bases, and when all is drained every frame is
free or in the fill ring. -/
structure Conserved (s : XskSystem) : Prop where
  once : s.places.map s.frameOf = Multiset.range s.config.numFrames
  bases : ∀ addr ∈ s.socket.umem.freeStack, addr % s.config.frameSize = 0
  distinct : s.socket.umem.freeStack.Nodup
  drained : s.Drained →
    ((↑s.socket.umem.freeStack + ↑s.socket.fill.contents : Multiset Nat).map s.frameOf) =
      Multiset.range s.config.numFrames

theorem conserved_iff {s : XskSystem} :
    s.Conserved ↔ s.places.map s.frameOf = Multiset.range s.config.numFrames ∧
      ∀ addr ∈ s.socket.umem.freeStack, addr % s.config.frameSize = 0 := by
  refine ⟨fun h => ⟨h.once, h.bases⟩, ?_⟩
  rintro ⟨honce, hbases⟩
  refine ⟨honce, hbases, ?_, ?_⟩
  · have hle : (↑s.socket.umem.freeStack : Multiset Nat) ≤ s.places := by
      unfold places XskSocket.addrs
      simp only [add_assoc]
      exact Multiset.le_add_right ..
    have hnodup : (Multiset.map s.frameOf ↑s.socket.umem.freeStack).Nodup :=
      Multiset.nodup_of_le (Multiset.map_le_map hle) (honce ▸ Multiset.nodup_range _)
    exact Multiset.coe_nodup.mp (Multiset.Nodup.of_map _ hnodup)
  · rintro ⟨hkernelRx, hkernelTx, hheld, hcomp, hrx, htx⟩
    rw [← honce, places, XskSocket.addrs, hkernelRx, hkernelTx, hheld, hcomp, hrx, htx]
    simp only [List.map_nil, Option.toList_none, Multiset.coe_nil, add_zero]

/-- In every run the rings are in order, a reservation is a frame base with a slot kept for it, and what is sent
starts behind the headroom. -/
structure Sound (config : UmemConfig) (s : XskSystem) : Prop where
  config_eq : s.config = config
  settled : s.socket.Settled
  held : ∀ {addr}, s.held = some addr → addr % config.frameSize = 0 ∧ s.socket.tx.used < s.socket.tx.size
  tx : ∀ {desc}, desc ∈ s.socket.tx.contents → desc.addr % config.frameSize = config.headroom
  kernelTx : ∀ {addr}, addr ∈ s.kernelTx → addr % config.frameSize = config.headroom
  comp : ∀ {addr}, addr ∈ s.socket.comp.contents → addr % config.frameSize = config.headroom

/-- The operation loses no frame, and puts no address on the free stack that is not a frame base. -/
def Keeps (s : XskSystem) : XskOp → Prop
  | .recv maxBatch => s.socket.rx.contents = [] ∨ maxBatch = 0
  | .recvBatch maxBatch _ => s.socket.rx.contents = [] ∨ maxBatch = 0
  | .reserve len => s.held = none → s.socket.Reclaims len → s.socket.comp.contents = [] ∨ s.config.headroom = 0
  | .abandon => s.held = none
  | _ => True

variable {config : UmemConfig} {s : XskSystem}

/-! ### One operation -/

/-- The state after an operation is in order, and frames are still conserved just under a condition. -/
def Effect (config : UmemConfig) (s s' : XskSystem) (cond : Prop) : Prop :=
  s'.Sound config ∧ (s.Conserved → (s'.Conserved ↔ cond))

theorem Sound.frameOf_eq (h : s.Sound config) (addr : Nat) : s.frameOf addr = addr / config.frameSize := by
  rw [frameOf, h.config_eq]

theorem Sound.conserved_iff (h : s.Sound config) :
    s.Conserved ↔ s.places.map (· / config.frameSize) = Multiset.range config.numFrames ∧
      ∀ addr ∈ s.socket.umem.freeStack, addr % config.frameSize = 0 := by
  rw [XskSystem.conserved_iff, h.config_eq, show s.frameOf = (· / config.frameSize) from funext h.frameOf_eq]

variable {cond : Prop}

theorem Sound.effect_of_moved {s' : XskSystem} (h : s.Sound config) (h' : s'.Sound config)
    (hplaces : s'.places.map (· / config.frameSize) = s.places.map (· / config.frameSize))
    (hfree : ∀ addr ∈ s'.socket.umem.freeStack, addr ∈ s.socket.umem.freeStack) (hcond : cond) :
    Effect config s s' cond := by
  refine ⟨h', fun hs => iff_of_true ?_ hcond⟩
  obtain ⟨honce, hbases⟩ := h.conserved_iff.mp hs
  exact h'.conserved_iff.mpr ⟨hplaces.trans honce, fun addr haddr => hbases addr (hfree addr haddr)⟩

theorem Sound.effect_refl (h : s.Sound config) (hcond : cond) : Effect config s s cond :=
  h.effect_of_moved h rfl (fun _ haddr => haddr) hcond

theorem Sound.effect_of_lost {s' : XskSystem} (h : s.Sound config) (h' : s'.Sound config)
    {lost : Multiset Nat} (hplaces : s'.places + lost = s.places) (hlost : lost ≠ 0) (hcond : ¬cond) :
    Effect config s s' cond := by
  refine ⟨h', fun hs => iff_of_false ?_ hcond⟩
  intro hs'
  have hcard := congrArg Multiset.card (h.conserved_iff.mp hs).1
  have hcard' := congrArg Multiset.card (h'.conserved_iff.mp hs').1
  rw [Multiset.card_map, ← hplaces, Multiset.card_add] at hcard
  rw [Multiset.card_map] at hcard'
  have hpos := Multiset.card_pos.mpr hlost
  omega

theorem Sound.effect_receives (h : s.Sound config) {socket : XskSocket} {maxBatch : Nat}
    (hreceives : s.socket.Receives socket maxBatch) :
    Effect config s { s with socket } (s.socket.rx.contents = [] ∨ maxBatch = 0) := by
  obtain ⟨hnone, rfl⟩ | ⟨hsome, k, hpos, hle, rfl⟩ := hreceives
  · exact h.effect_refl hnone
  · obtain ⟨hsettled, haddrs, hconfig, hcomp, htx⟩ := consume_frame h.settled hle
    have hempty : ∀ {addr}, addr ∈ (s.socket.consume k).comp.contents → addr % config.frameSize = config.headroom := by
      rw [hcomp]
      exact fun hmem => absurd hmem List.not_mem_nil
    -- The descriptors that were taken are the frames nobody frees.
    have hlost : (↑((s.socket.rx.contents.take k).map XdpDesc.addr) : Multiset Nat) ≠ 0 := by
      rw [Ne, Multiset.coe_eq_zero, List.map_eq_nil_iff, List.take_eq_nil_iff, not_or]
      exact ⟨hpos.ne', fun hnil => hsome (.inl hnil)⟩
    refine h.effect_of_lost ⟨hconfig.trans h.config_eq, hsettled, htx ▸ h.held, htx ▸ h.tx, h.kernelTx, hempty⟩ ?_ hlost
      hsome
    show (s.socket.consume k).addrs + _ + _ + _ + _ = s.socket.addrs + _ + _ + _
    rw [← haddrs]
    abel

theorem Sound.effect_reserve (h : s.Sound config) (len : Nat) :
    Effect config s (s.step (.reserve len)) (s.Keeps (.reserve len)) := by
  unfold step
  cases hheld : s.held with
  | some addr => exact h.effect_refl fun hnone => by cases hheld.symm.trans hnone
  | none =>
    dsimp only
    obtain ⟨hreclaims, hreserve⟩ | ⟨hkeeps, hreserve | ⟨addr, rest, hstack, hroom, hbase, hreserve⟩⟩ :=
      sendReserve_cases h.settled len
    · -- The completed frames go back to the stack as they are.
      rw [hreserve]
      have humem := reclaimCompleted_umem h.settled
      have hsound : ({ s with socket := s.socket.reclaimCompleted, held := none } : XskSystem).Sound config := by
        refine ⟨?_, reclaimCompleted_settled h.settled, nofun, h.tx, h.kernelTx, ?_⟩
        · show s.socket.reclaimCompleted.umem.config = config
          rw [humem]
          exact h.config_eq
        · rw [(reclaimCompleted_comp h.settled).1]
          exact fun hmem => absurd hmem List.not_mem_nil
      have hplaces : ({ s with socket := s.socket.reclaimCompleted, held := none } : XskSystem).places = s.places := by
        show s.socket.reclaimCompleted.addrs + _ + ↑(none : Option Nat).toList + _ = _
        rw [reclaimCompleted_addrs h.settled, ← hheld]
        rfl
      refine ⟨hsound, ?_⟩
      intro hs
      obtain ⟨honce, hbases⟩ := h.conserved_iff.mp hs
      rw [hsound.conserved_iff, hplaces]
      rw [humem]
      constructor
      · rintro ⟨-, hbases'⟩ _ _
        cases hcomp : s.socket.comp.contents with
        | nil => exact .inl rfl
        | cons addr rest =>
          have hmem : addr ∈ s.socket.comp.contents := hcomp ▸ List.mem_cons_self
          have hzero := hbases' addr (List.mem_append_left _ (List.mem_reverse.mpr hmem))
          rw [h.config_eq, ← h.comp hmem]
          exact .inr hzero
      · intro hkeeps
        refine ⟨honce, ?_⟩
        intro addr haddr
        obtain hcomp | hfree := List.mem_append.mp haddr
        · have hmem := List.mem_reverse.mp hcomp
          obtain hnil | hzero := hkeeps hheld hreclaims
          · rw [hnil] at hmem
            exact absurd hmem List.not_mem_nil
          · rw [h.comp hmem, ← h.config_eq, hzero]
        · exact hbases addr hfree
    · rw [hreserve, ← hheld]
      exact h.effect_refl fun _ hreclaims => absurd hreclaims hkeeps
    · rw [hreserve]
      refine h.effect_of_moved ⟨h.config_eq, ⟨h.settled.fill, h.settled.comp, h.settled.rx, h.settled.tx⟩, ?_, h.tx,
        h.kernelTx, h.comp⟩ (congrArg _ ?_) ?_ fun _ hreclaims => absurd hreclaims hkeeps
      · intro addr' haddr'
        obtain rfl := Option.some.inj haddr'
        exact ⟨h.config_eq ▸ hbase, hroom⟩
      · unfold places XskSocket.addrs
        rw [hheld, hstack, ← Multiset.cons_coe, Option.toList_some, Option.toList_none, Multiset.coe_singleton,
          ← Multiset.singleton_add, Multiset.coe_nil]
        abel
      · intro addr' haddr'
        rw [hstack]
        exact List.mem_cons_of_mem _ haddr'

theorem Sound.effect_submit (hconfig : config.headroom < config.frameSize) (h : s.Sound config) (len : Nat) :
    Effect config s (s.step (.submit len)) True := by
  unfold step
  cases hheld : s.held with
  | none => exact h.effect_refl trivial
  | some addr =>
    dsimp only
    obtain ⟨hbase, hroom⟩ := h.held hheld
    have hheadroom : s.socket.umem.config.headroom = config.headroom := congrArg UmemConfig.headroom h.config_eq
    rw [sendSubmit_eq h.settled hroom, hheadroom]
    have hcontents : (s.socket.tx.push [⟨addr + config.headroom, len⟩]).contents =
        s.socket.tx.contents ++ [⟨addr + config.headroom, len⟩] := contents_push hroom
    -- The packet starts within the frame that was reserved.
    have hframe : (addr + config.headroom) / config.frameSize = addr / config.frameSize := by
      rw [Nat.add_div_of_dvd_right (Nat.dvd_of_mod_eq_zero hbase), Nat.div_eq_of_lt hconfig, add_zero]
    refine h.effect_of_moved ⟨h.config_eq, ⟨h.settled.fill, h.settled.comp, h.settled.rx, settled_push hroom⟩,
      nofun, ?_, h.kernelTx, h.comp⟩ ?_ (fun _ haddr => haddr) trivial
    · intro desc hdesc
      obtain hold | hnew := List.mem_append.mp (hcontents ▸ hdesc)
      · exact h.tx hold
      · obtain rfl := List.mem_singleton.mp hnew
        rw [Nat.add_mod, hbase, zero_add, Nat.mod_mod, Nat.mod_eq_of_lt hconfig]
    · unfold places XskSocket.addrs
      rw [hheld, hcontents, List.map_append, ← Multiset.coe_add, Option.toList_none, Option.toList_some,
        Multiset.coe_nil, Multiset.coe_singleton, List.map_singleton, Multiset.coe_singleton]
      simp only [Multiset.map_add, Multiset.map_singleton, hframe]
      abel

theorem Sound.effect_abandon (h : s.Sound config) : Effect config s (s.step .abandon) (s.held = none) := by
  show Effect config s { s with held := none } _
  cases hheld : s.held with
  | none =>
    have hsame : ({ s with held := none } : XskSystem) = s := by rw [← hheld]
    rw [hsame]
    exact h.effect_refl rfl
  | some addr =>
    have hplaces : ({ s with held := none } : XskSystem).places + {addr} = s.places := by
      unfold places
      rw [hheld, Option.toList_none, Option.toList_some]
      abel
    exact h.effect_of_lost ⟨h.config_eq, h.settled, nofun, h.tx, h.kernelTx, h.comp⟩ hplaces
      (Multiset.singleton_ne_zero addr) nofun

/-! The kernel's steps. -/

theorem Sound.effect_takeFill (h : s.Sound config) (n : Nat) : Effect config s (s.step (.takeFill n)) True := by
  unfold step
  dsimp only
  split
  · rename_i hn
    have hcontents : (s.socket.fill.take n).contents = s.socket.fill.contents.drop n := contents_advance hn
    refine h.effect_of_moved ⟨h.config_eq, ⟨h.settled.fill.take hn, h.settled.comp, h.settled.rx, h.settled.tx⟩, h.held,
      h.tx, h.kernelTx, h.comp⟩ (congrArg _ ?_) (fun _ haddr => haddr) trivial
    unfold places XskSocket.addrs
    dsimp only
    rw [hcontents]
    nth_rewrite 3 [← List.take_append_drop n s.socket.fill.contents]
    rw [← Multiset.coe_add, ← Multiset.coe_add]
    abel
  · exact h.effect_refl trivial

theorem Sound.effect_takeTx (h : s.Sound config) (n : Nat) : Effect config s (s.step (.takeTx n)) True := by
  unfold step
  dsimp only
  split
  · rename_i hn
    have hcontents : (s.socket.tx.take n).contents = s.socket.tx.contents.drop n := contents_advance hn
    have hused : (s.socket.tx.take n).used = s.socket.tx.used - n := used_advance hn
    refine h.effect_of_moved ⟨h.config_eq, ⟨h.settled.fill, h.settled.comp, h.settled.rx, h.settled.tx.take hn⟩, ?_, ?_,
      ?_, h.comp⟩ (congrArg _ ?_) (fun _ haddr => haddr) trivial
    · intro addr haddr
      refine ⟨(h.held haddr).1, ?_⟩
      rw [hused]
      exact (Nat.sub_le ..).trans_lt (h.held haddr).2
    · intro desc hdesc
      exact h.tx (List.mem_of_mem_drop (hcontents ▸ hdesc))
    · intro addr haddr
      obtain hold | hnew := List.mem_append.mp haddr
      · exact h.kernelTx hold
      · obtain ⟨desc, hdesc, rfl⟩ := List.mem_map.mp hnew
        exact h.tx (List.mem_of_mem_take hdesc)
    · unfold places XskSocket.addrs
      dsimp only
      rw [hcontents]
      nth_rewrite 3 [← List.take_append_drop n s.socket.tx.contents]
      rw [List.map_append, ← Multiset.coe_add, ← Multiset.coe_add]
      abel
  · exact h.effect_refl trivial

theorem coe_eraseIdx {l : List Nat} {i a : Nat} (h : l[i]? = some a) : (↑(l.eraseIdx i) + {a} : Multiset Nat) = ↑l := by
  obtain ⟨hi, rfl⟩ := getElem?_eq_some_iff.mp h
  rw [add_comm, Multiset.singleton_add]
  exact Multiset.coe_eq_coe.mpr (List.getElem_cons_eraseIdx_perm hi)

theorem Sound.effect_deliver (h : s.Sound config) (i len : Nat) : Effect config s (s.step (.deliver i len)) True := by
  unfold step
  dsimp only
  split
  · exact h.effect_refl trivial
  rename_i addr haddr
  split
  · rename_i hroom
    have hcontents : (s.socket.rx.put [⟨addr, len⟩]).contents = s.socket.rx.contents ++ [⟨addr, len⟩] :=
      contents_push hroom
    refine h.effect_of_moved ⟨h.config_eq, ⟨h.settled.fill, h.settled.comp, h.settled.rx.put hroom, h.settled.tx⟩, h.held,
      h.tx, h.kernelTx, h.comp⟩ (congrArg _ ?_) (fun _ haddr => haddr) trivial
    unfold places XskSocket.addrs
    rw [hcontents, List.map_append, ← Multiset.coe_add, List.map_singleton, Multiset.coe_singleton,
      ← coe_eraseIdx haddr]
    abel
  · exact h.effect_refl trivial

theorem Sound.effect_complete (h : s.Sound config) (i : Nat) : Effect config s (s.step (.complete i)) True := by
  unfold step
  dsimp only
  split
  · exact h.effect_refl trivial
  rename_i addr haddr
  split
  · rename_i hroom
    have hcontents : (s.socket.comp.put [addr]).contents = s.socket.comp.contents ++ [addr] :=
      contents_push hroom
    refine h.effect_of_moved ⟨h.config_eq, ⟨h.settled.fill, h.settled.comp.put hroom, h.settled.rx, h.settled.tx⟩, h.held,
      h.tx, fun haddr' => h.kernelTx (List.mem_of_mem_eraseIdx haddr'), ?_⟩ (congrArg _ ?_) (fun _ haddr => haddr) trivial
    · intro addr' haddr'
      obtain hold | hnew := List.mem_append.mp (hcontents ▸ haddr')
      · exact h.comp hold
      · obtain rfl := List.mem_singleton.mp hnew
        exact h.kernelTx (List.mem_of_getElem? haddr)
    · unfold places XskSocket.addrs
      rw [hcontents, ← Multiset.coe_add, Multiset.coe_singleton, ← coe_eraseIdx haddr]
      abel
  · exact h.effect_refl trivial

theorem Sound.effect_step (hconfig : config.headroom < config.frameSize) (h : s.Sound config) (op : XskOp) :
    Effect config s (s.step op) (s.Keeps op) := by
  cases op with
  | recv maxBatch => exact h.effect_receives (recv_receives h.settled maxBatch)
  | recvBatch maxBatch handler => exact h.effect_receives (recvBatch_receives h.settled maxBatch handler)
  | reserve len => exact h.effect_reserve len
  | submit len => exact h.effect_submit hconfig len
  | abandon => exact h.effect_abandon
  | takeFill n => exact h.effect_takeFill n
  | deliver i len => exact h.effect_deliver i len
  | takeTx n => exact h.effect_takeTx n
  | complete i => exact h.effect_complete i

/-! ### Runs -/

theorem start_sound {xsk : XskConfig} {socket : XskSocket} (h : XskSocket.new xsk = .ok socket) :
    socket.umem.config.headroom < socket.umem.config.frameSize ∧ (start socket).Sound socket.umem.config ∧
      (start socket).Conserved := by
  obtain ⟨-, -, h⟩ := bind_ok_iff.mp h
  obtain ⟨umem, humem, h⟩ := bind_ok_iff.mp h
  obtain ⟨ring, -, h⟩ := bind_ok_iff.mp h
  obtain ⟨n, hprovided⟩ := prefillFillRing_spec settled_new h
  have hheadroom := UmemConfig.headroom_lt_of_new humem
  have hplaces : (start socket).places = ↑((List.range umem.numFrames).map (· * umem.frameSize)) := by
    show socket.addrs + 0 + 0 + 0 = _
    rw [hprovided.addrs_eq, add_zero, add_zero, add_zero, addrs_ofUmem]
    exact Multiset.coe_reverse _
  obtain ⟨⟨config, freeStack⟩, fill, comp, rx, tx⟩ := socket
  obtain ⟨hconfig, hfree, -, hfill, hcomp, hrx, htx⟩ := hprovided
  obtain rfl : umem = config := hconfig.symm
  dsimp only at hfree hcomp hrx htx
  subst hfree hcomp hrx htx
  have hsound : (start _).Sound umem := ⟨rfl, ⟨hfill, ConsumerEnd.settled_new, ConsumerEnd.settled_new,
    settled_new⟩, nofun, fun hmem => absurd (contents_new ▸ hmem) List.not_mem_nil, nofun,
    fun hmem => absurd (ConsumerEnd.contents_new ▸ hmem) List.not_mem_nil⟩
  refine ⟨hheadroom, hsound, hsound.conserved_iff.mpr ⟨?_, ?_⟩⟩
  · have hframe : ∀ i, i * umem.frameSize / umem.frameSize = i :=
      fun i => Nat.mul_div_cancel i (Nat.zero_lt_of_lt hheadroom)
    rw [hplaces, Multiset.map_coe, List.map_map]
    show (↑((List.range umem.numFrames).map fun i => i * umem.frameSize / umem.frameSize) : Multiset Nat) = _
    simp only [hframe, List.map_id']
    rfl
  · intro addr haddr
    obtain ⟨i, -, rfl⟩ := List.mem_map.mp (List.mem_reverse.mp (List.mem_of_mem_drop haddr))
    exact Nat.mul_mod_left i umem.frameSize

/-- In every run of a new socket the frames are conserved just if nothing is received, nothing is reclaimed unless
there is no headroom, and no reservation is dropped. -/
theorem frames_conserved_iff (xsk : XskConfig) (socket : XskSocket) (ops : List XskOp)
    (hnew : XskSocket.new xsk = .ok socket) :
    (∀ n, (exec step (start socket) (ops.take n)).Conserved) ↔ Meets Keeps step (start socket) ops := by
  obtain ⟨hheadroom, hsound, hconserved⟩ := start_sound hnew
  have hinv : ∀ s op, Sound socket.umem.config s → Sound socket.umem.config (step s op) :=
    fun s op h => (h.effect_step hheadroom op).1
  have hgood : ∀ s op, Sound socket.umem.config s → s.Conserved → True → ((s.step op).Conserved ↔ s.Keeps op) :=
    fun s op h hs _ => (h.effect_step hheadroom op).2 hs
  exact exec_always_iff_meets hinv hgood ops _ (meets_of_forall (fun _ _ _ => trivial) _) hsound hconserved

end XskSystem

namespace XskSample
open XskSystem

def config : XskConfig := ⟨"eth0", ⟨2048, 256, 8⟩, 2, 2⟩

def received : List XskOp := [.takeFill 1, .deliver 0 60, .recvBatch 64 fun _ => true]

def sent : List XskOp :=
  [.reserve 60, .submit 60, .reserve 60, .submit 60, .takeTx 1, .complete 0, .reserve 60, .submit 60, .reserve 60]

def outcome {β : Type} (ops : List XskOp) (f : XskSystem → β) : Option β :=
  (XskSocket.new config).toOption.map fun socket => f (exec step (start socket) ops)

theorem outcome_of_new {β : Type} {socket : XskSocket} (h : XskSocket.new config = .ok socket) (ops : List XskOp)
    (f : XskSystem → β) : outcome ops f = some (f (exec step (start socket) ops)) := by
  rw [outcome, h]
  rfl

theorem exists_new : ∃ socket, XskSocket.new config = .ok socket := by
  have hok : (XskSocket.new config).isOk = true := by decide +kernel
  cases hnew : XskSocket.new config with
  | ok socket => exact ⟨socket, rfl⟩
  | error e =>
    rw [hnew] at hok
    cases hok

/-- The frame of a received packet is in no place; reclaiming leaves an address inside a frame on the free stack. -/
theorem frames_lost_and_misplaced :
    ∃ socket, XskSocket.new config = .ok socket ∧ ¬(exec step (start socket) received).Conserved ∧
      ¬(exec step (start socket) sent).Conserved := by
  obtain ⟨socket, hnew⟩ := exists_new
  refine ⟨socket, hnew, ?_, ?_⟩
  · intro h
    have hplaces : outcome received (fun s => Multiset.card s.places) = some 7 := by decide +kernel
    have hframes : outcome received (fun s => s.config.numFrames) = some 8 := by decide +kernel
    rw [outcome_of_new hnew] at hplaces hframes
    have hcard := congrArg Multiset.card h.once
    rw [Multiset.card_map, Option.some.inj hplaces, Option.some.inj hframes] at hcard
    cases hcard
  · intro h
    have hstack : outcome sent (fun s => s.socket.umem.freeStack.head?) = some (some (5 * 2048 + 256)) := by
      decide +kernel
    have hsize : outcome sent (fun s => s.config.frameSize) = some 2048 := by decide +kernel
    rw [outcome_of_new hnew] at hstack hsize
    have hbase := h.bases _ (List.mem_of_mem_head? (Option.some.inj hstack))
    rw [Option.some.inj hsize] at hbase
    exact absurd hbase (by decide)

/-- A packet is delivered and another one sent to its completion; neither is received or reclaimed. -/
def quiet : List XskOp := [.takeFill 1, .deliver 0 60, .reserve 60, .submit 60, .takeTx 1, .complete 0]

theorem frames_conserved_iff_quiet :
    ∃ socket, XskSocket.new config = .ok socket ∧
      (exec step (start socket) quiet).socket.comp.contents = [5 * 2048 + 256] ∧
      ∀ n, (exec step (start socket) (quiet.take n)).Conserved := by
  obtain ⟨socket, hnew⟩ := exists_new
  have hcomp : outcome (quiet.take 2) (fun s => s.socket.comp.contents) = some [] := by decide +kernel
  have hdone : outcome quiet (fun s => s.socket.comp.contents) = some [5 * 2048 + 256] := by decide +kernel
  rw [outcome_of_new hnew] at hcomp hdone
  exact ⟨socket, hnew, Option.some.inj hdone, (frames_conserved_iff config socket _ hnew).mpr
    ⟨trivial, trivial, fun _ _ => .inl (Option.some.inj hcomp), trivial, trivial, trivial, trivial⟩⟩

end XskSample

end HpnVpn
