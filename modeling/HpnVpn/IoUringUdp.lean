import HpnVpn.Runs
import HpnVpn.Types
import Mathlib.Data.List.Perm.Subperm

/-! The slots of the io_uring worker.  A buffer is free or lent to the kernel; a send that the queue does not take
keeps its slot for good. -/
namespace HpnVpn
open Wire Runs

def numBuffers : Nat := 256

inductive IoOp
  | recv
  | send
deriving DecidableEq

abbrev IoEntry := IoOp × Nat

inductive IoUringError
  | tooManyInFlight (maxPendingSends : Nat)
  | submit
  | sqFull
deriving DecidableEq

/-- `accepted` are the entries pushed and not completed; the free send slots are listed from the vector's end. -/
structure IoUringUdp where
  freeBuffers : List Nat
  pendingRecvIndices : List Nat
  pendingSends : List (Option (Bytes × SocketAddr))
  freeSendIndices : List Nat
  maxPendingSends : Nat
  accepted : List IoEntry

/-- What the worker does.  Whether a push or a submit succeeds is up to the ring; `room` pushes of receives do. -/
inductive IoEvent
  | submitRecvs (room : Nat)
  | queueSend (data : Bytes) (addr : SocketAddr) (push submit retry : Bool)
  | flush
  | complete (batch rest : List IoEntry)

namespace IoUringUdp

def new (ringSize : Nat) : IoUringUdp where
  freeBuffers := List.range numBuffers
  pendingRecvIndices := []
  pendingSends := List.replicate ringSize none
  freeSendIndices := List.range ringSize
  maxPendingSends := ringSize
  accepted := []

/-- A buffer the full queue does not take goes back.  Whether the final submit succeeds makes no difference. -/
def submitRecvs (u : IoUringUdp) : Nat → IoUringUdp
  | 0 => u
  | room + 1 =>
    match u.freeBuffers with
    | [] => u
    | bufIdx :: freeBuffers =>
      submitRecvs { u with
        freeBuffers
        pendingRecvIndices := u.pendingRecvIndices ++ [bufIdx]
        accepted := u.accepted ++ [(.recv, bufIdx)] } room

def queueSend (u : IoUringUdp) (data : Bytes) (addr : SocketAddr) (push submit retry : Bool) :
    IoUringUdp × Except IoUringError Unit :=
  match u.freeSendIndices with
  | [] => (u, .error (.tooManyInFlight u.maxPendingSends))
  | idx :: freeSendIndices =>
    let u := { u with freeSendIndices, pendingSends := u.pendingSends.set idx (some (data, addr)) }
    if push then ({ u with accepted := u.accepted ++ [(.send, idx)] }, .ok ())
    else if ¬submit then (u, .error .submit)
    else if retry then ({ u with accepted := u.accepted ++ [(.send, idx)] }, .ok ())
    else (u, .error .sqFull)

def completeRecv (u : IoUringUdp) : IoEntry → IoUringUdp
  | (.recv, idx) =>
    { u with pendingRecvIndices := u.pendingRecvIndices.erase idx, freeBuffers := u.freeBuffers ++ [idx] }
  | (.send, _) => u

def completeSend (u : IoUringUdp) (idx : Nat) : IoUringUdp :=
  if (u.pendingSends[idx]?.join).isSome then
    { u with pendingSends := u.pendingSends.set idx none, freeSendIndices := idx :: u.freeSendIndices }
  else u

def indices (op : IoOp) (entries : List IoEntry) : List Nat := (entries.filter (·.1 = op)).map (·.2)

/-- Buffers are returned one by one, send slots afterwards and the highest first. -/
def processCompletions (u : IoUringUdp) (batch : List IoEntry) : IoUringUdp :=
  ((indices .send batch).mergeSort (· ≥ ·)).foldl completeSend (batch.foldl completeRecv u)

/-- The kernel completes accepted entries only, each once: `batch` now and the `rest` later. -/
def step (u : IoUringUdp) : IoEvent → IoUringUdp
  | .submitRecvs room => u.submitRecvs room
  | .queueSend data addr push submit retry => (u.queueSend data addr push submit retry).1
  | .flush => u
  | .complete batch rest =>
    if (batch ++ rest).Perm u.accepted then processCompletions { u with accepted := rest } batch else u

/-- Every receive buffer is in one of its two lists, and every send slot is free or belongs to one accepted send. -/
structure Exact (ringSize : Nat) (u : IoUringUdp) : Prop where
  recv : (u.freeBuffers ++ u.pendingRecvIndices).Perm (List.range numBuffers)
  send : (u.freeSendIndices ++ indices .send u.accepted).Perm (List.range ringSize)

/-- The step leaves the slots exact, and if it is a send that fails, the free ones as they are. -/
def Keeps (ringSize : Nat) (u : IoUringUdp) (e : IoEvent) : Prop :=
  (u.step e).Exact ringSize ∧
    match e with
    | .queueSend data addr push submit retry => (u.queueSend data addr push submit retry).2.toOption = none →
        (u.step e).freeSendIndices = u.freeSendIndices
    | _ => True

/-- A send that has a slot gets its entry into the queue, at once or after a submit. -/
def Admits (u : IoUringUdp) : IoEvent → Prop
  | .queueSend _ _ push submit retry => u.freeSendIndices = [] ∨ push = true ∨ submit = true ∧ retry = true
  | _ => True

structure RecvSound (free pending taken : List Nat) : Prop where
  slots : (free ++ pending).Perm (List.range numBuffers)
  pending : pending.Perm taken

structure SendSound (ringSize : Nat) (free : List Nat) (sends : List (Option (Bytes × SocketAddr)))
    (taken : List Nat) : Prop where
  slots : (free ++ taken).Perm (List.range ringSize)
  length_eq : sends.length = ringSize
  occupied : ∀ i, (sends[i]?.join).isSome ↔ i ∈ taken

structure Sound (ringSize : Nat) (u : IoUringUdp) : Prop where
  recv : RecvSound u.freeBuffers u.pendingRecvIndices (indices .recv u.accepted)
  send : SendSound ringSize u.freeSendIndices u.pendingSends (indices .send u.accepted)

variable {ringSize idx : Nat} {u : IoUringUdp} {free pending taken taken' : List Nat}
  {sends : List (Option (Bytes × SocketAddr))} {batch rest : List IoEntry}

variable (op : IoOp)

@[simp] theorem indices_append (a b : List IoEntry) : indices op (a ++ b) = indices op a ++ indices op b := by
  simp [indices]

@[simp] theorem indices_cons (e : IoEntry) (entries : List IoEntry) :
    indices op (e :: entries) = if e.1 = op then e.2 :: indices op entries else indices op entries := by
  rw [indices, List.filter_cons]
  split <;> simp_all [indices]

@[simp] theorem indices_nil : indices op [] = [] := rfl

theorem indices_perm {a b : List IoEntry} (h : a.Perm b) : (indices op a).Perm (indices op b) :=
  (h.filter _).map _

theorem Sound.exact (h : u.Sound ringSize) : u.Exact ringSize := ⟨h.recv.slots, h.send.slots⟩

theorem SendSound.perm (h : SendSound ringSize free sends taken) (hperm : taken.Perm taken') :
    SendSound ringSize free sends taken' :=
  ⟨(hperm.symm.append_left _).trans h.slots, h.length_eq, fun i => (h.occupied i).trans hperm.mem_iff⟩

theorem sound_new (ringSize : Nat) : Sound ringSize (new ringSize) where
  recv := ⟨by simp [new], .nil⟩
  send := by
    refine ⟨by simp [new], List.length_replicate, ?_⟩
    intro i
    by_cases hi : i < ringSize <;> simp [new, hi]

theorem perm_move (i : Nat) (l m : List Nat) : (l ++ (m ++ [i])).Perm (i :: l ++ m) := by
  rw [← List.append_assoc]
  exact List.perm_append_singleton i (l ++ m)

theorem Sound.submitRecvs (h : u.Sound ringSize) (room : Nat) : (u.submitRecvs room).Sound ringSize := by
  induction room generalizing u with
  | zero => exact h
  | succ room ih =>
    rw [IoUringUdp.submitRecvs]
    split
    case h_1 => exact h
    case h_2 bufIdx free hfree =>
        have hslots := h.recv.slots
        rw [hfree] at hslots
        refine ih ⟨⟨(perm_move bufIdx free _).trans hslots, ?_⟩, by simpa using h.send⟩
        simpa using h.recv.pending.append_right [bufIdx]

/-! ### Sends -/

theorem SendSound.take (h : SendSound ringSize (idx :: free) sends taken) (buf : Bytes × SocketAddr) :
    SendSound ringSize free (sends.set idx (some buf)) (taken ++ [idx]) := by
  have hlt : idx < sends.length := by
    rw [h.length_eq]
    exact List.mem_range.mp (h.slots.mem_iff.mp List.mem_cons_self)
  refine ⟨(perm_move idx free taken).trans h.slots, List.length_set.trans h.length_eq, ?_⟩
  intro i
  have hold := h.occupied i
  by_cases hi : idx = i
  · subst hi
    simp [List.getElem?_set_self hlt]
  · simp only [List.getElem?_set_ne hi, hold, List.mem_append, List.mem_singleton, Ne.symm hi, or_false]

theorem SendSound.not_perm_of_lost (h : SendSound ringSize (idx :: free) sends taken) :
    ¬(free ++ taken).Perm (List.range ringSize) := by
  intro hperm
  have hlength := h.slots.length_eq
  have hlost := hperm.length_eq
  simp only [List.cons_append, List.length_cons] at hlength
  omega

section
variable {data : Bytes} {addr : SocketAddr} {push submit retry : Bool}

theorem Sound.queueSend (h : u.Sound ringSize) (hadmits : u.Admits (.queueSend data addr push submit retry)) :
    (u.queueSend data addr push submit retry).1.Sound ringSize ∧
      ((u.queueSend data addr push submit retry).2.toOption = none →
        (u.queueSend data addr push submit retry).1 = u) := by
  unfold IoUringUdp.queueSend
  split
  case h_1 => exact ⟨h, fun _ => rfl⟩
  case h_2 idx free hfree =>
      have hpushed : Sound ringSize
          { u with
            freeSendIndices := free
            pendingSends := u.pendingSends.set idx (some (data, addr))
            accepted := u.accepted ++ [(.send, idx)] } :=
        ⟨by simpa using h.recv, by simpa using SendSound.take (hfree ▸ h.send) (data, addr)⟩
      rcases hadmits with hnone | rfl | ⟨rfl, rfl⟩
      · cases hfree.symm.trans hnone
      · exact ⟨hpushed, nofun⟩
      · cases push <;> exact ⟨hpushed, nofun⟩

theorem Sound.admits_of_exact (h : u.Sound ringSize)
    (hexact : (u.queueSend data addr push submit retry).1.Exact ringSize) :
    u.Admits (.queueSend data addr push submit retry) := by
  unfold IoUringUdp.queueSend at hexact
  split at hexact
  case h_1 hnone => exact .inl hnone
  case h_2 idx free hfree =>
      have hlost := SendSound.not_perm_of_lost (hfree ▸ h.send)
      cases push with
      | true => exact .inr (.inl rfl)
      | false =>
        cases submit with
        | false => exact absurd hexact.send hlost
        | true =>
          cases retry with
          | false => exact absurd hexact.send hlost
          | true => exact .inr (.inr ⟨rfl, rfl⟩)

end

/-! ### Completions -/

theorem foldl_completeRecv (u : IoUringUdp) (batch : List IoEntry) :
    batch.foldl completeRecv u =
      { u with
        freeBuffers := u.freeBuffers ++ indices .recv batch
        pendingRecvIndices := u.pendingRecvIndices.diff (indices .recv batch) } := by
  induction batch generalizing u with
  | nil => simp
  | cons e batch ih =>
    obtain ⟨op, idx⟩ := e
    cases op <;> simp [ih, completeRecv, List.diff_cons]

theorem RecvSound.complete {returned : List Nat} (h : RecvSound free pending (returned ++ taken)) :
    RecvSound (free ++ returned) (pending.diff returned) taken := by
  have hsub : List.Subperm returned pending :=
    (List.sublist_append_left returned taken).subperm.trans h.pending.symm.subperm
  have hdiff : (returned ++ pending.diff returned).Perm pending :=
    List.subperm_append_diff_self_of_count_le fun i _ => hsub.count_le i
  refine ⟨.trans ?_ h.slots, (List.perm_append_left_iff returned).mp (hdiff.trans h.pending)⟩
  rw [List.append_assoc]
  exact hdiff.append_left free

theorem SendSound.complete (h : SendSound ringSize free sends (idx :: taken)) :
    SendSound ringSize (idx :: free) (sends.set idx none) taken := by
  have hslots : (idx :: (free ++ taken)).Perm (List.range ringSize) := List.perm_middle.symm.trans h.slots
  have hnotMem : idx ∉ free ++ taken := (List.nodup_cons.mp (hslots.nodup_iff.mpr List.nodup_range)).1
  refine ⟨hslots, List.length_set.trans h.length_eq, ?_⟩
  intro i
  have hold := h.occupied i
  by_cases hi : idx = i
  · subst hi
    have hnone : ((sends.set idx none)[idx]?).join = none := by
      rw [List.getElem?_set_self']
      cases sends[idx]? <;> rfl
    simpa [hnone] using fun hmem => hnotMem (List.mem_append_right _ hmem)
  · simp only [List.getElem?_set_ne hi, hold, List.mem_cons, Ne.symm hi, false_or]

theorem SendSound.foldl_complete {idxs : List Nat}
    (h : SendSound ringSize u.freeSendIndices u.pendingSends (idxs ++ taken)) :
    ∃ free sends, idxs.foldl completeSend u = { u with freeSendIndices := free, pendingSends := sends } ∧
      SendSound ringSize free sends taken := by
  induction idxs generalizing u with
  | nil => exact ⟨_, _, rfl, h⟩
  | cons idx idxs ih =>
    rw [List.foldl_cons, completeSend, if_pos ((h.occupied idx).mpr List.mem_cons_self)]
    exact ih h.complete

theorem Sound.processCompletions (h : u.Sound ringSize) (hperm : (batch ++ rest).Perm u.accepted) :
    (processCompletions { u with accepted := rest } batch).Sound ringSize := by
  have hrecv : RecvSound u.freeBuffers u.pendingRecvIndices (indices .recv batch ++ indices .recv rest) :=
    ⟨h.recv.slots, h.recv.pending.trans (indices_append .recv batch rest ▸ indices_perm .recv hperm.symm)⟩
  have hsend : SendSound ringSize u.freeSendIndices u.pendingSends
      ((indices .send batch).mergeSort (· ≥ ·) ++ indices .send rest) := by
    refine h.send.perm ((indices_perm .send hperm.symm).trans ?_)
    rw [indices_append]
    exact (List.mergeSort_perm _ _).symm.append_right _
  rw [IoUringUdp.processCompletions, foldl_completeRecv]
  obtain ⟨free, sends, hfold, hdone⟩ := SendSound.foldl_complete (u := { u with
    freeBuffers := u.freeBuffers ++ indices .recv batch
    pendingRecvIndices := u.pendingRecvIndices.diff (indices .recv batch)
    accepted := rest }) hsend
  rw [hfold]
  exact ⟨hrecv.complete, hdone⟩

/-! ### Runs -/

theorem Sound.step (h : u.Sound ringSize) {e : IoEvent} (hadmits : u.Admits e) : (u.step e).Sound ringSize := by
  cases e with
  | submitRecvs room => exact h.submitRecvs room
  | queueSend data addr push submit retry => exact (h.queueSend hadmits).1
  | flush => exact h
  | complete batch rest =>
    rw [IoUringUdp.step]
    split
    · next hperm => exact h.processCompletions hperm
    · exact h

theorem Sound.keeps_iff (h : u.Sound ringSize) (e : IoEvent) : u.Keeps ringSize e ↔ u.Admits e := by
  cases e with
  | queueSend data addr push submit retry =>
    constructor
    · exact fun hkeeps => h.admits_of_exact hkeeps.1
    · intro hadmits
      obtain ⟨hsound, hsame⟩ := h.queueSend hadmits
      exact ⟨hsound.exact, fun hfailed => congrArg freeSendIndices (hsame hfailed)⟩
  | submitRecvs room => exact iff_of_true ⟨(h.submitRecvs room).exact, trivial⟩ trivial
  | flush => exact iff_of_true ⟨h.exact, trivial⟩ trivial
  | complete batch rest => exact iff_of_true ⟨(h.step (e := .complete batch rest) trivial).exact, trivial⟩ trivial

/-- Along every run the slots are kept just if every send that has a slot gets its entry into the queue. -/
theorem slots_kept_iff (ringSize : Nat) (events : List IoEvent) :
    Meets (Keeps ringSize) step (new ringSize) events ↔ Meets Admits step (new ringSize) events := by
  have hsound := sound_new ringSize
  generalize new ringSize = u at hsound
  induction events generalizing u with
  | nil => exact Iff.rfl
  | cons e events ih =>
    constructor
    · rintro ⟨hkeeps, hrest⟩
      have hadmits := (hsound.keeps_iff e).mp hkeeps
      exact ⟨hadmits, (ih _ (hsound.step hadmits)).mp hrest⟩
    · rintro ⟨hadmits, hrest⟩
      exact ⟨(hsound.keeps_iff e).mpr hadmits, (ih _ (hsound.step hadmits)).mpr hrest⟩

end IoUringUdp

namespace IoUringSample
open IoUringUdp

def refusedSend : List IoEvent :=
  [.submitRecvs 2, .queueSend [1] (.v4 (Block.replicate 4 9) 4433) false false false]

theorem refused_send_loses_slot :
    (exec IoUringUdp.step (new 2) refusedSend).freeSendIndices = [1] ∧
      indices .send (exec IoUringUdp.step (new 2) refusedSend).accepted = [] ∧
      ¬Meets (Keeps 2) IoUringUdp.step (new 2) refusedSend := by
  refine ⟨by decide +kernel, by decide +kernel, ?_⟩
  rintro ⟨-, ⟨hexact, -⟩, -⟩
  have hlength := hexact.send.length_eq
  revert hlength
  decide +kernel

end IoUringSample

end HpnVpn
