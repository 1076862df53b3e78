import HpnVpn.Downlink

/-! The loop of the inline TUN reader.  If the kernel blocks when a full batch is flushed, the batch stays full and
packets are dropped until the device was empty four times. -/
namespace HpnVpn
open Wire Runs

def tunSendmmsgBatchSize : Nat := 64

def flushAfterEmptyReads : UInt32 := 4

/-- The loop that reads the TUN device and sends in batches. -/
structure TunReader where
  sessions : SessionManager
  batch : SendMmsg tunSendmmsgBatchSize maxPacketSize
  consecutiveEmpty : UInt32
  stopped : Bool

/-- What `recv` gives, or that the shutdown flag is set, with the kernel's answers to the flush of this turn. -/
inductive TunTurn
  | received (data : Bytes) (answers : List KernelAnswer)
  | wouldBlock (answers : List KernelAnswer)
  | failed (answers : List KernelAnswer)
  | shutdown (answers : List KernelAnswer)
  | sessions (m : SessionManager)

namespace TunReader

def start (m : SessionManager) : TunReader := ⟨m, .new _ _, 0, false⟩

def flush (r : TunReader) (answers : List KernelAnswer) : TunReader × Bool :=
  ({ r with batch := (r.batch.flush answers).batch }, true)

variable (A : Aes256Gcm) (r : TunReader)

def emptyRead (answers : List KernelAnswer) : TunReader × Bool :=
  let r := { r with consecutiveEmpty := r.consecutiveEmpty + 1 }
  if r.batch.count ≠ 0 ∧ flushAfterEmptyReads ≤ r.consecutiveEmpty then r.flush answers else (r, false)

def stop (answers : List KernelAnswer) : TunReader × Bool :=
  let r := { r with stopped := true }
  if r.batch.count ≠ 0 then r.flush answers else (r, false)

def Fills (data : Bytes) : Prop :=
  let batch := (r.sessions.readPacket A r.batch data).2
  r.batch.count < batch.count ∧ tunSendmmsgBatchSize ≤ batch.count

instance (A : Aes256Gcm) (r : TunReader) (data : Bytes) : Decidable (r.Fills A data) :=
  inferInstanceAs (Decidable (_ ∧ _))

def turn (t : TunTurn) : TunReader × Bool :=
  if r.stopped then (r, false)
  else
    match t with
    | .received data answers =>
      if data = [] then r.emptyRead answers
      else
        let (sessions, batch) := r.sessions.readPacket A r.batch data
        let after := { r with sessions, batch, consecutiveEmpty := 0 }
        if r.Fills A data then after.flush answers else (after, false)
    | .wouldBlock answers => r.emptyRead answers
    | .failed answers => r.stop answers
    | .shutdown answers => r.stop answers
    | .sessions m => ({ r with sessions := m }, false)

def step (t : TunTurn) : TunReader := (r.turn A t).1

/-- The turn reads a packet for a live session while the batch is full. -/
def MeetsFull : TunTurn → Prop
  | .received data _ => r.stopped = false ∧ data ≠ [] ∧ (r.sessions.getSessionAndAddr data).isSome ∧
      r.batch.count = tunSendmmsgBatchSize
  | _ => False

/-- A packet for a live session that meets a full batch is not dropped without a flush. -/
def Unwedged (t : TunTurn) : Prop := r.MeetsFull t → (r.turn A t).2 = true

/-- When a packet has filled the batch, the kernel does not refuse the first of it. -/
def Answered : TunTurn → Prop
  | .received data answers => r.Fills A data → ∃ k rest, answers = .took k :: rest ∨ answers = .error k :: rest
  | _ => True

end TunReader

/-! ### The batch -/

namespace SendMmsg
variable {batchSize bufferSize : Nat}

variable (b : SendMmsg batchSize bufferSize) (answers : List KernelAnswer) (totalSent : Nat)

theorem count_keepUnsent_le :
    (b.keepUnsent totalSent).count ≤ b.count - totalSent := by
  unfold keepUnsent
  split
  · exact Nat.le_refl _
  · omega

theorem count_flushLoop_le
    (log : List Datagram) : (b.flushLoop answers totalSent log).batch.count ≤ b.count - totalSent := by
  induction answers generalizing totalSent log with
  | nil =>
    unfold flushLoop
    split
    · exact b.count_keepUnsent_le totalSent
    · exact Nat.zero_le _
  | cons answer answers ih =>
    unfold flushLoop
    split
    · cases answer with
      | took k =>
        have hrest := ih (totalSent + min (k + 1) (b.count - totalSent))
          (log ++ b.taken totalSent (min (k + 1) (b.count - totalSent)))
        exact hrest.trans (by omega)
      | wouldBlock => exact b.count_keepUnsent_le totalSent
      | error errno => exact Nat.zero_le _
    · exact Nat.zero_le _

theorem count_flush_le :
    (b.flush answers).batch.count ≤ b.count := by
  unfold flush
  split
  · exact Nat.le_refl _
  · exact b.count_flushLoop_le answers 0 []

theorem count_flush_lt {b : SendMmsg batchSize bufferSize} (hpos : 0 < batchSize) {answers : List KernelAnswer}
    (h : ∃ k rest, answers = .took k :: rest ∨ answers = .error k :: rest) :
    (b.flush answers).batch.count < batchSize := by
  have hle := b.count_le
  unfold flush
  split
  · next hzero => exact hzero ▸ hpos
  · next hne =>
    obtain ⟨k, rest, rfl | rfl⟩ := h
    · rw [flushLoop, if_pos (Nat.pos_of_ne_zero hne)]
      have hloop := b.count_flushLoop_le rest (0 + min (k + 1) (b.count - 0)) ([] ++ b.taken 0 (min (k + 1) (b.count - 0)))
      exact Nat.lt_of_le_of_lt hloop (by omega)
    · rw [flushLoop, if_pos (Nat.pos_of_ne_zero hne)]
      exact hpos

end SendMmsg

namespace SessionManager

theorem readPacket_of_full (A : Aes256Gcm) {batchSize bufferSize : Nat} (m : SessionManager)
    {batch : SendMmsg batchSize bufferSize} (hfull : batch.count = batchSize) (packet : Bytes) :
    m.readPacket A batch packet = (m, batch) := by
  unfold readPacket
  split
  · rfl
  · rw [if_neg (Nat.not_lt.mpr (Nat.le_of_eq hfull.symm))]

theorem le_count_readPacket (A : Aes256Gcm) {batchSize bufferSize : Nat} (m : SessionManager)
    (batch : SendMmsg batchSize bufferSize) (packet : Bytes) :
    (m.readPacket A batch packet).2 = batch ∨ batch.count < (m.readPacket A batch packet).2.count := by
  unfold readPacket
  split
  · exact .inl rfl
  · split
    · next hroom =>
      split
      · exact .inl rfl
      · right
        unfold SendMmsg.add
        rw [dif_pos hroom]
        exact Nat.lt_succ_self _
    · exact .inl rfl

end SessionManager

/-! ### Runs of the loop -/

namespace TunReader
variable {A : Aes256Gcm} {r : TunReader}

def HasRoom (r : TunReader) : Prop := r.batch.count < tunSendmmsgBatchSize

theorem HasRoom.emptyRead (h : r.HasRoom) (answers : List KernelAnswer) : (r.emptyRead answers).1.HasRoom := by
  unfold TunReader.emptyRead
  dsimp only
  split
  · exact Nat.lt_of_le_of_lt (r.batch.count_flush_le answers) h
  · exact h

theorem HasRoom.stop (h : r.HasRoom) (answers : List KernelAnswer) : (r.stop answers).1.HasRoom := by
  unfold TunReader.stop
  dsimp only
  split
  · exact Nat.lt_of_le_of_lt (r.batch.count_flush_le answers) h
  · exact h

theorem HasRoom.step (r : TunReader) (t : TunTurn) (h : r.HasRoom) (hanswered : r.Answered A t) :
    (r.step A t).HasRoom := by
  unfold TunReader.step turn
  split
  · exact h
  · cases t with
    | received data answers =>
      dsimp only
      split
      · exact h.emptyRead answers
      · split
        · next hfills => exact SendMmsg.count_flush_lt (by decide) (hanswered hfills)
        · next hnot =>
          rcases r.sessions.le_count_readPacket A r.batch data with hsame | hmore
          · rwa [hsame]
          · exact Nat.not_le.mp fun hfull => hnot ⟨hmore, hfull⟩
    | wouldBlock answers => exact h.emptyRead answers
    | failed answers => exact h.stop answers
    | shutdown answers => exact h.stop answers
    | sessions m => exact h

theorem HasRoom.unwedged (h : r.HasRoom) (t : TunTurn) : r.Unwedged A t := by
  intro hmeets
  cases t with
  | received data answers => exact absurd hmeets.2.2.2 (Nat.ne_of_lt h)
  | _ => exact hmeets.elim

theorem turn_of_full {data : Bytes} (hne : data ≠ []) (answers : List KernelAnswer)
    (hfull : r.batch.count = tunSendmmsgBatchSize) :
    (r.turn A (.received data answers)).2 = false ∧ (r.step A (.received data answers)).batch = r.batch := by
  have hread := r.sessions.readPacket_of_full A hfull data
  have hnot : ¬r.Fills A data := by
    unfold Fills
    rw [hread]
    exact fun h => Nat.lt_irrefl _ h.1
  unfold step turn
  split
  · exact ⟨rfl, rfl⟩
  · simp only [if_neg hne, if_neg hnot, hread, and_self]

theorem unwedged_iff_not_meetsFull (r : TunReader) (t : TunTurn) : r.Unwedged A t ↔ ¬r.MeetsFull t := by
  refine ⟨fun h hmeets => ?_, fun hnot hmeets => absurd hmeets hnot⟩
  cases t with
  | received data answers =>
    obtain ⟨hflush, -⟩ := @turn_of_full A r data hmeets.2.1 answers hmeets.2.2.2
    exact Bool.false_ne_true (hflush.symm.trans (h hmeets))
  | _ => exact hmeets

/-- No packet for a live session is dropped without a flush exactly if none is read while the batch is full, which is
so if the kernel never refuses all of a batch. -/
theorem unwedged_iff (A : Aes256Gcm) (m : SessionManager) (turns : List TunTurn) :
    (Meets (Unwedged A) (step A) (start m) turns ↔ Meets (fun r t => ¬r.MeetsFull t) (step A) (start m) turns) ∧
      (Meets (Answered A) (step A) (start m) turns →
        Meets (Unwedged A) (step A) (start m) turns ∧ (exec (step A) (start m) turns).HasRoom) := by
  constructor
  · simp only [meets_iff_forall_split, unwedged_iff_not_meetsFull]
  · intro hanswered
    have hstart : (start m).HasRoom := Nat.zero_lt_succ 63
    refine ⟨meets_iff_forall_split.mpr ?_, exec_invariant_of HasRoom.step turns _ hstart hanswered⟩
    rintro before t after rfl
    have hbefore := (meets_append.mp hanswered).1
    exact (exec_invariant_of HasRoom.step before _ hstart hbefore).unwedged t

theorem stuck_of_full {turns : List TunTurn} (hturns : ∀ t ∈ turns, ∃ data answers, t = .received data answers ∧ data ≠ [])
    (hfull : r.batch.count = tunSendmmsgBatchSize) : (exec (step A) r turns).batch = r.batch := by
  induction turns generalizing r with
  | nil => rfl
  | cons t turns ih =>
    obtain ⟨⟨data, answers, rfl, hne⟩, hrest⟩ := List.forall_mem_cons.mp hturns
    obtain ⟨-, hbatch⟩ := @turn_of_full A r data hne answers hfull
    exact (ih hrest (hbatch ▸ hfull)).trans hbatch

end TunReader

namespace DownlinkSample
open ForeignSample TunReader

theorem unwedged_iff_reply :
    Meets (Unwedged context.P.aes256Gcm) (step context.P.aes256Gcm) (start manager) [.received reply [.took 0]] :=
  ((unwedged_iff context.P.aes256Gcm manager [.received reply [.took 0]]).2 ⟨fun _ => ⟨0, [], .inl rfl⟩, trivial⟩).1

/-- The kernel refuses the batch once, when it is full; after that it would take all, but is not asked again. -/
theorem full_batch_wedges :
    let r := exec (step context.P.aes256Gcm) (start manager) (List.replicate 64 (.received reply [.wouldBlock]))
    r.MeetsFull (.received reply [.took 63]) ∧ ¬r.Unwedged context.P.aes256Gcm (.received reply [.took 63]) ∧
      ∀ n, (exec (step context.P.aes256Gcm) r (List.replicate n (.received reply [.took 63]))).batch = r.batch := by
  intro r
  have hcount : r.batch.count = tunSendmmsgBatchSize := by decide +kernel
  have hlive : r.stopped = false ∧ (r.sessions.getSessionAndAddr reply).isSome := by decide +kernel
  have hmeets : r.MeetsFull (.received reply [.took 63]) := ⟨hlive.1, by decide, hlive.2, hcount⟩
  refine ⟨hmeets, fun hunwedged => (unwedged_iff_not_meetsFull r _).mp hunwedged hmeets, fun n => ?_⟩
  refine stuck_of_full (fun t ht => ?_) hcount
  exact ⟨reply, _, List.eq_of_mem_replicate ht, by decide⟩

end DownlinkSample

end HpnVpn
