import HpnVpn.Types
import HpnVpn.Framing
import HpnVpn.Runs

/-! The framing of the TCP transport: a length of two bytes and the packet.  A receive is suspended when there is
nothing to read; if a timer fires then, the loop drops it with what it had read. -/
namespace HpnVpn
open Wire Runs Framing

inductive IoErrorKind
  | notConnected
  | invalidInput
  | invalidData
  | unexpectedEof
  | connectionReset
deriving DecidableEq

structure IoError where
  kind : IoErrorKind
  message : String
deriving DecidableEq

/-- The part of the transport that a receive uses; the stream itself stands beside it. -/
structure TcpTransport where
  serverAddr : SocketAddr
  connected : Bool
deriving DecidableEq

/-- What a poll of a future gives: the future, suspended further on, or its output. -/
inductive Polled (φ ρ : Type)
  | pending (future : φ)
  | ready (output : ρ)
deriving DecidableEq

namespace TcpTransport

def maxPacketSize : Nat := 65535
def tcpFrameHeaderSize : Nat := 2

/-- The length is cast to 16 bits. -/
def frame (buf : Bytes) : Bytes := (be16 (UInt16.ofNat buf.length)).bytes ++ buf

def writeFrame (buf : Bytes) : Except IoError (Bytes × Nat) :=
  if maxPacketSize < buf.length then .error ⟨.invalidInput, "packet too large for TCP framing"⟩
  else .ok (frame buf, buf.length)

/-- What a peer puts on the stream that writes these packets; it writes nothing for one that is refused. -/
def written (packets : List Bytes) : Bytes :=
  packets.flatMap fun packet =>
    match writeFrame packet with
    | .ok (bytes, _) => bytes
    | .error _ => []

/-- Go on filling a buffer of `want` bytes: the stream gives what is asked for, and `n` bytes at most. -/
def readExact (want : Nat) (got unread : Bytes) (n : Nat) : Bytes × Bytes :=
  (got ++ unread.take (min n (want - got.length)), unread.drop (min n (want - got.length)))

/-- A suspended `readFrame`: in the length or in the packet. -/
inductive ReadFrame
  | header (lenBuf : Bytes) (short : lenBuf.length < tcpFrameHeaderSize)
  | payload (len : UInt16) (buf : Bytes) (short : buf.length < len.toNat)
deriving DecidableEq

namespace ReadFrame

def start : ReadFrame := .header [] (by decide)

def held : ReadFrame → Bytes
  | header lenBuf _ => lenBuf
  | payload len buf _ => (be16 len).bytes ++ buf

end ReadFrame

/-- Resume a read into a buffer of `bufLen` bytes when the stream has `n` bytes ready. -/
def readFrame (bufLen : Nat) (unread : Bytes) (n : Nat) : ReadFrame → Bytes × Polled ReadFrame (Except IoError Bytes)
  | .header lenBuf _ =>
    let (lenBuf, unread) := readExact tcpFrameHeaderSize lenBuf unread n
    if short : lenBuf.length < tcpFrameHeaderSize then (unread, .pending (.header lenBuf short))
    else
      let len := UInt16.ofNat (ofBE lenBuf)
      if bufLen < len.toNat then
        (unread, .ready (.error ⟨.invalidData, s!"frame too large: {len} bytes, buffer only {bufLen} bytes"⟩))
      else if hpos : 0 < len.toNat then (unread, .pending (.payload len [] hpos))
      else (unread, .ready (.ok []))
  | .payload len buf _ =>
    let (buf, unread) := readExact len.toNat buf unread n
    if short : buf.length < len.toNat then (unread, .pending (.payload len buf short))
    else (unread, .ready (.ok buf))

def recv (t : TcpTransport) (bufLen : Nat) (pending : Option ReadFrame) (unread : Bytes) (n : Nat) :
    TcpTransport × Bytes × Polled ReadFrame (Except IoError (Bytes × SocketAddr)) :=
  if pending.isNone ∧ !t.connected then (t, unread, .ready (.error ⟨.notConnected, "TCP transport not connected"⟩))
  else
    match readFrame bufLen unread n (pending.getD .start) with
    | (unread, .pending future) => (t, unread, .pending future)
    | (unread, .ready (.ok buf)) => (t, unread, .ready (.ok (buf, t.serverAddr)))
    | (unread, .ready (.error e)) => ({ t with connected := false }, unread, .ready (.error e))

/-! ### Frames -/

theorem length_readExact_le {want : Nat} {got : Bytes} (h : got.length ≤ want) (unread : Bytes) (n : Nat) :
    (readExact want got unread n).1.length ≤ want := by
  simp only [readExact, List.length_append, List.length_take]
  omega

theorem readExact_eq (want : Nat) (got unread : Bytes) (n : Nat) :
    ∃ chunk rest, unread = chunk ++ rest ∧ readExact want got unread n = (got ++ chunk, rest) ∧
      (got.length < want → 0 < n → unread ≠ [] → chunk ≠ []) := by
  refine ⟨unread.take (min n (want - got.length)), unread.drop (min n (want - got.length)),
    (List.take_append_drop ..).symm, rfl, ?_⟩
  intro hshort hn hunread hnil
  have hlength := congrArg List.length hnil
  have hpos := List.length_pos_iff.mpr hunread
  rw [List.length_take, List.length_nil] at hlength
  omega

theorem be16_bytes_ofBE {lenBuf : Bytes} (h : lenBuf.length = 2) : (be16 (UInt16.ofNat (ofBE lenBuf))).bytes = lenBuf :=
  congrArg Block.bytes (be16_ofBe16 ⟨lenBuf, h⟩)

/-- A frame tells its own end: the packet is as long as the first two bytes say. -/
def frameCode : PrefixCode Bytes UInt8 where
  encode := frame
  Valid packet := packet.length ≤ maxPacketSize
  inj := by
    intro a b x y ha hb h
    rw [frame, frame, List.append_assoc, List.append_assoc] at h
    obtain ⟨hlen, htail⟩ := block_append_inj h
    have hlengths : a.length = b.length := by
      have hnat := congrArg UInt16.toNat (be16_injective hlen)
      rw [maxPacketSize] at ha hb
      rwa [UInt16.toNat_ofNat', UInt16.toNat_ofNat', Nat.mod_eq_of_lt (by omega), Nat.mod_eq_of_lt (by omega)] at hnat
    exact List.append_inj htail hlengths
  ne_nil := by
    intro packet hnil
    have hlength := congrArg List.length hnil
    simp [frame] at hlength

theorem written_eq {packets : List Bytes} (h : ∀ packet ∈ packets, packet.length ≤ maxPacketSize) :
    written packets = frameCode.encodeAll packets := by
  apply List.flatMap_congr
  intro packet hpacket
  rw [writeFrame, if_neg (Nat.not_lt.mpr (h packet hpacket))]
  rfl

theorem ReadFrame.incomplete_held (f : ReadFrame) : frameCode.Incomplete f.held := by
  intro packet rest hvalid h
  change packet.length ≤ 65535 at hvalid
  change f.held = frame packet ++ rest at h
  rw [frame, List.append_assoc] at h
  cases f with
  | header lenBuf short =>
    have hlength := congrArg List.length h
    rw [List.length_append, Block.length_bytes] at hlength
    change lenBuf.length = _ at hlength
    change lenBuf.length < 2 at short
    omega
  | payload len buf short =>
    obtain ⟨hlen, htail⟩ := block_append_inj h
    have hlength := congrArg List.length htail
    rw [be16_injective hlen, UInt16.toNat_ofNat', Nat.mod_eq_of_lt (by omega)] at short
    rw [List.length_append] at hlength
    omega

theorem readFrame_cases (unread : Bytes) (n : Nat) (f : ReadFrame) :
    ∃ chunk rest, unread = chunk ++ rest ∧ (0 < n → unread ≠ [] → chunk ≠ []) ∧
      ((∃ f', readFrame maxPacketSize unread n f = (rest, .pending f') ∧ f'.held = f.held ++ chunk) ∨
        ∃ buf, readFrame maxPacketSize unread n f = (rest, .ready (.ok buf)) ∧ frameCode.Valid buf ∧
          f.held ++ chunk = frame buf) := by
  cases f with
  | header lenBuf short =>
    obtain ⟨chunk, rest, hsplit, hread, hprogress⟩ := readExact_eq tcpFrameHeaderSize lenBuf unread n
    have hle := length_readExact_le short.le unread n
    rw [hread] at hle
    refine ⟨chunk, rest, hsplit, hprogress short, ?_⟩
    unfold readFrame
    dsimp only
    rw [hread]
    by_cases hshort : (lenBuf ++ chunk).length < tcpFrameHeaderSize
    · left
      exact ⟨.header (lenBuf ++ chunk) hshort, dif_pos hshort, rfl⟩
    · have hlen := be16_bytes_ofBE (le_antisymm hle (Nat.not_lt.mp hshort))
      generalize UInt16.ofNat (ofBE (lenBuf ++ chunk)) = len at hlen ⊢
      have hfits : ¬maxPacketSize < len.toNat := Nat.not_lt.mpr (Nat.le_of_lt_succ len.toNat_lt)
      rw [dif_neg hshort, if_neg hfits]
      by_cases hpos : 0 < len.toNat
      · left
        refine ⟨.payload len [] hpos, dif_pos hpos, ?_⟩
        exact (List.append_nil _).trans hlen
      · right
        refine ⟨[], dif_neg hpos, Nat.zero_le _, ?_⟩
        have hzero : len = UInt16.ofNat 0 := UInt16.toNat_inj.mp (Nat.eq_zero_of_not_pos hpos)
        rw [hzero] at hlen
        exact hlen.symm
  | payload len buf short =>
    obtain ⟨chunk, rest, hsplit, hread, hprogress⟩ := readExact_eq len.toNat buf unread n
    have hle := length_readExact_le short.le unread n
    rw [hread] at hle
    refine ⟨chunk, rest, hsplit, hprogress short, ?_⟩
    unfold readFrame
    dsimp only
    rw [hread]
    by_cases hshort : (buf ++ chunk).length < len.toNat
    · left
      exact ⟨.payload len (buf ++ chunk) hshort, dif_pos hshort, (List.append_assoc ..).symm⟩
    · right
      have hlength : (buf ++ chunk).length = len.toNat := le_antisymm hle (Nat.not_lt.mp hshort)
      refine ⟨buf ++ chunk, dif_neg hshort, ?_, ?_⟩
      · exact hlength.le.trans (Nat.le_of_lt_succ len.toNat_lt)
      · rw [frame, hlength, UInt16.ofNat_toNat]
        exact List.append_assoc ..

end TcpTransport

/-! ### The receive loop -/

/-- What happens to the pending receive: the stream has `n` bytes ready, a timer fires first, or the stream fails. -/
inductive TcpEvent
  | ready (n : Nat)
  | timer
  | failed (e : IoError)
deriving DecidableEq

/-- The bytes not yet read, the pending receive, the packets returned, the bytes lost, and the error that ended the
loop. -/
structure TcpRun where
  transport : TcpTransport
  unread : Bytes
  pending : Option TcpTransport.ReadFrame
  returned : List Bytes
  dropped : Nat
  error : Option IoError
deriving DecidableEq

namespace TcpRun
open TcpTransport

def start (serverAddr : SocketAddr) (packets : List Bytes) : TcpRun :=
  ⟨⟨serverAddr, true⟩, written packets, none, [], 0, none⟩

def held (r : TcpRun) : Bytes := (r.pending.map ReadFrame.held).getD []

variable (r : TcpRun)

def abandon : TcpRun := { r with pending := none, dropped := r.dropped + r.held.length }

def step (event : TcpEvent) : TcpRun :=
  match r.error, event with
  | some _, _ => r
  | none, .ready n =>
    match r.transport.recv maxPacketSize r.pending r.unread n with
    | (transport, unread, .pending future) => { r with transport, unread, pending := some future }
    | (transport, unread, .ready (.ok (buf, _))) =>
      { r with transport, unread, pending := none, returned := r.returned ++ [buf] }
    | (transport, unread, .ready (.error e)) => { r with transport, unread, pending := none, error := some e }
  | none, .timer => r.abandon
  | none, .failed e => { r.abandon with transport := { r.transport with connected := false }, error := some e }

def reader : Reader Bytes UInt8 := ⟨r.returned, r.held, r.unread, r.dropped⟩

/-- No receive is dropped with a part of a frame. -/
def BetweenFrames : TcpEvent → Prop
  | .ready _ => True
  | .timer | .failed _ => r.error = none → r.held = []

instance (r : TcpRun) : DecidablePred r.BetweenFrames
  | .ready _ => isTrue trivial
  | .timer => inferInstanceAs (Decidable (r.error = none → r.held = []))
  | .failed _ => inferInstanceAs (Decidable (r.error = none → r.held = []))

theorem held_getD_start : (r.pending.getD .start).held = r.held := by
  unfold held
  cases r.pending with
  | none => rfl
  | some f => rfl

theorem incomplete_held (r : TcpRun) : frameCode.Incomplete r.held :=
  r.held_getD_start ▸ ReadFrame.incomplete_held _

section
variable {r : TcpRun}

/-- The transport is connected for as long as the loop runs. -/
def Connected (r : TcpRun) : Prop := r.error = none → r.transport.connected = true

theorem step_of_error {e : IoError} (h : r.error = some e) (event : TcpEvent) : r.step event = r := by
  unfold step
  rw [h]

theorem step_timer (h : r.error = none) : r.step .timer = r.abandon := by
  unfold step
  rw [h]

theorem step_failed (h : r.error = none) (e : IoError) :
    r.step (.failed e) =
      { r.abandon with transport := { r.transport with connected := false }, error := some e } := by
  unfold step
  rw [h]

theorem step_ready (hlive : r.error = none) (hconnected : r.transport.connected = true) (n : Nat) :
    ∃ chunk rest, r.unread = chunk ++ rest ∧ (0 < n → r.unread ≠ [] → chunk ≠ []) ∧
      ((∃ f, r.step (.ready n) = { r with unread := rest, pending := some f } ∧ f.held = r.held ++ chunk) ∨
        ∃ buf, r.step (.ready n) = { r with unread := rest, pending := none, returned := r.returned ++ [buf] } ∧
          frameCode.Valid buf ∧ r.held ++ chunk = frame buf) := by
  obtain ⟨chunk, rest, hsplit, hprogress, hread⟩ := readFrame_cases r.unread n (r.pending.getD .start)
  rw [held_getD_start] at hread
  refine ⟨chunk, rest, hsplit, hprogress, ?_⟩
  have hstarts : ¬(r.pending.isNone ∧ !r.transport.connected) := by
    rw [hconnected]
    exact fun h => absurd h.2 (by decide)
  rcases hread with ⟨f, hread, hheld⟩ | ⟨buf, hread, hvalid, hwhole⟩
  · left
    have hrecv : r.transport.recv maxPacketSize r.pending r.unread n = (r.transport, rest, .pending f) := by
      rw [recv, if_neg hstarts, hread]
    refine ⟨f, ?_, hheld⟩
    unfold step
    rw [hlive]
    dsimp only
    rw [hrecv]
  · right
    have hrecv : r.transport.recv maxPacketSize r.pending r.unread n =
        (r.transport, rest, .ready (.ok (buf, r.transport.serverAddr))) := by
      rw [recv, if_neg hstarts, hread]
    refine ⟨buf, ?_, hvalid, hwhole⟩
    unfold step
    rw [hlive]
    dsimp only
    rw [hrecv]

theorem connected_step (h : r.Connected) (event : TcpEvent) : (r.step event).Connected := by
  cases herror : r.error with
  | some e =>
    rw [step_of_error herror]
    exact h
  | none =>
    cases event with
    | ready n =>
      obtain ⟨chunk, rest, -, -, ⟨f, heq, -⟩ | ⟨buf, heq, -⟩⟩ := step_ready herror (h herror) n
      all_goals
        rw [heq]
        exact h
    | timer =>
      rw [step_timer herror]
      exact h
    | failed e =>
      rw [step_failed herror]
      exact fun hnone => nomatch hnone

theorem moves_step (h : r.Connected) (event : TcpEvent) :
    Relation.ReflTransGen (Reader.Moves frameCode) r.reader (r.step event).reader := by
  cases herror : r.error with
  | some e =>
    rw [step_of_error herror]
  | none =>
    cases event with
    | ready n =>
      obtain ⟨chunk, rest, hsplit, -, hread⟩ := step_ready herror (h herror) n
      have htake : Reader.Moves frameCode r.reader ⟨r.returned, r.held ++ chunk, rest, r.dropped⟩ :=
        .take chunk rest hsplit
      rcases hread with ⟨f, heq, hheld⟩ | ⟨buf, heq, hvalid, hwhole⟩
      · rw [← hheld] at htake
        rw [heq]
        exact .single htake
      · rw [heq]
        exact (Relation.ReflTransGen.single htake).tail (.deliver hvalid hwhole)
    | timer =>
      rw [step_timer herror]
      exact .single .abandon
    | failed e =>
      rw [step_failed herror]
      exact .single .abandon

def Lossless (r : TcpRun) : Prop := r.dropped = 0

theorem lossless_step (r : TcpRun) (event : TcpEvent) :
    (r.step event).Lossless ↔ r.Lossless ∧ r.BetweenFrames event := by
  have habandon (h : r.error = none) : r.abandon.Lossless ↔ r.Lossless ∧ (r.error = none → r.held = []) := by
    rw [Lossless, abandon, Nat.add_eq_zero_iff, List.length_eq_zero_iff]
    exact and_congr_right fun _ => ⟨fun hnil _ => hnil, fun hnil => hnil h⟩
  cases herror : r.error with
  | some e =>
    rw [step_of_error herror]
    refine (and_iff_left ?_).symm
    cases event with
    | ready n => trivial
    | timer => exact fun hnone => nomatch herror.symm.trans hnone
    | failed e => exact fun hnone => nomatch herror.symm.trans hnone
  | none =>
    cases event with
    | ready n =>
      refine Iff.trans ?_ (and_iff_left trivial).symm
      unfold step
      rw [herror]
      dsimp only
      split
      all_goals exact Iff.rfl
    | timer =>
      rw [step_timer herror]
      exact habandon herror
    | failed e =>
      rw [step_failed herror]
      exact habandon herror

structure Follows (packets : List Bytes) (r : TcpRun) : Prop where
  connected : r.Connected
  reads : r.reader.Reads frameCode packets

theorem follows_start {packets : List Bytes} (hsizes : ∀ packet ∈ packets, packet.length ≤ maxPacketSize)
    (serverAddr : SocketAddr) : Follows packets (start serverAddr packets) where
  connected := fun _ => rfl
  reads := by
    rw [reader, start, written_eq hsizes]
    exact Reader.reads_start packets

theorem follows_step {packets : List Bytes} (r : TcpRun) (event : TcpEvent) (h : Follows packets r) :
    Follows packets (r.step event) :=
  ⟨connected_step h.connected event, h.reads.moves (moves_step h.connected event)⟩

end

def reads (events : List TcpEvent) : Nat :=
  events.countP fun
    | .ready n => 0 < n
    | _ => false

theorem length_unread_exec_le (events : List TcpEvent) (hfailed : ∀ e, .failed e ∉ events) (r : TcpRun)
    (hlive : r.error = none) (hconnected : r.transport.connected = true) :
    (exec step r events).unread.length ≤ r.unread.length - reads events := by
  induction events generalizing r with
  | nil => exact Nat.le_refl _
  | cons event events ih =>
    have hrest : ∀ e, .failed e ∉ events := fun e h => hfailed e (List.mem_cons_of_mem _ h)
    rw [exec_cons]
    cases event with
    | failed e => exact absurd List.mem_cons_self (hfailed e)
    | timer =>
      rw [step_timer hlive]
      exact ih hrest r.abandon hlive hconnected
    | ready n =>
      obtain ⟨chunk, rest, hsplit, hprogress, hread⟩ := step_ready hlive hconnected n
      have hlength : r.unread.length = chunk.length + rest.length := by
        rw [hsplit, List.length_append]
      have hshorter : rest.length - reads events ≤ r.unread.length - reads (.ready n :: events) := by
        have hcount : reads (.ready n :: events) = reads events + if 0 < n then 1 else 0 := by
          simp [reads, List.countP_cons]
        rw [hcount]
        split
        · rename_i hn
          by_cases hempty : r.unread = []
          · have hzero := congrArg List.length hempty
            rw [List.length_nil] at hzero
            omega
          · have htaken := List.length_pos_iff.mpr (hprogress hn hempty)
            omega
        · omega
      rcases hread with ⟨f, heq, -⟩ | ⟨buf, heq, -⟩
      · rw [heq]
        exact (ih hrest { r with unread := rest, pending := some f } hlive hconnected).trans hshorter
      · rw [heq]
        exact (ih hrest { r with unread := rest, pending := none, returned := r.returned ++ [buf] } hlive
          hconnected).trans hshorter

/-- The receives of every run return the first packets written if each drop is between two frames, and all of them,
once the stream is read up, just then.  Enough reads read it up. -/
theorem recv_returns_written (serverAddr : SocketAddr) (packets : List Bytes)
    (hsizes : ∀ packet ∈ packets, packet.length ≤ maxPacketSize) (events : List TcpEvent) :
    let r := exec step (start serverAddr packets) events
    (Meets BetweenFrames step (start serverAddr packets) events → r.returned <+: packets) ∧
      (r.unread = [] → (r.returned = packets ↔ Meets BetweenFrames step (start serverAddr packets) events)) ∧
      ((∀ e, .failed e ∉ events) → (written packets).length ≤ reads events → r.unread = []) := by
  intro r
  have hreads : r.reader.Reads frameCode packets :=
    (exec_invariant follows_step events _ (follows_start hsizes serverAddr)).reads
  have hlossless : r.Lossless ↔ Meets BetweenFrames step (start serverAddr packets) events :=
    (exec_iff_meets lossless_step events _).trans (and_iff_right rfl)
  refine ⟨?_, ?_, ?_⟩
  · intro hmeets
    obtain ⟨more, hmore, -⟩ := hreads.exists_more hsizes (hlossless.mpr hmeets)
    exact ⟨more, hmore.symm⟩
  · intro hend
    exact (hreads.returned_eq_iff hsizes hend r.incomplete_held).trans hlossless
  · intro hfailed hreads
    have hlength := length_unread_exec_le events hfailed (start serverAddr packets) rfl rfl
    apply List.length_eq_zero_iff.mp
    exact Nat.le_zero.mp (hlength.trans (Nat.sub_eq_zero_of_le hreads).le)

end TcpRun

/-! A timer that fires between the length of a frame and its packet. -/

namespace TcpSample

def server : SocketAddr := .v4 (Block.replicate 4 9) 443

theorem packet_read_as_frame :
    let r := exec TcpRun.step (.start server [[0, 1, 9]]) [.ready 2, .timer, .ready 5, .ready 5]
    r.unread = [] ∧ r.returned = [[9]] ∧ r.error = none := by
  decide

theorem recv_returns_written_timer :
    (exec TcpRun.step (.start server [[1, 2, 3], [4]]) [.ready 1, .ready 9, .ready 9, .timer, .ready 2, .ready 1]).returned
      = [[1, 2, 3], [4]] :=
  ((TcpRun.recv_returns_written server [[1, 2, 3], [4]] (by decide)
    [.ready 1, .ready 9, .ready 9, .timer, .ready 2, .ready 1]).2.1 (by decide)).mpr (by decide)

end TcpSample

end HpnVpn
