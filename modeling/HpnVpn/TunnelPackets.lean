import HpnVpn.TunnelExtension

/-! The packets of the tunnel extension: copied into a buffer of fixed size, through a channel, and out again. -/
namespace HpnVpn
open Wire Runs

def packetBufSize : Nat := 2048

/-- A packet buffer; the bytes beyond `len` are zero. -/
structure PacketBuf where
  data : Block packetBufSize
  len : UInt16
deriving DecidableEq

namespace PacketBuf

def new (src : Bytes) : PacketBuf :=
  let len := min src.length packetBufSize
  ⟨.fit packetBufSize (src.take len), UInt16.ofNat len⟩

def asSlice (b : PacketBuf) : Bytes := b.data.bytes.take b.len.toNat

theorem asSlice_new (src : Bytes) : (new src).asSlice = src.take packetBufSize := by
  have hlen : (UInt16.ofNat (min src.length packetBufSize)).toNat = min src.length packetBufSize := by
    rw [UInt16.toNat_ofNat']
    exact Nat.mod_eq_of_lt ((Nat.min_le_right ..).trans_lt (by decide))
  have hshort : (src.take (min src.length packetBufSize)).length = min src.length packetBufSize := by
    rw [List.length_take]
    exact Nat.min_eq_left (Nat.min_le_left ..)
  calc (new src).asSlice
      = ((src.take (min src.length packetBufSize) ++ List.replicate packetBufSize 0).take packetBufSize).take
          (min src.length packetBufSize) := by
        rw [asSlice, new, hlen]
        rfl
    _ = (src.take (min src.length packetBufSize) ++ List.replicate packetBufSize 0).take
          (min src.length packetBufSize) := by
        rw [List.take_take, Nat.min_eq_left (Nat.min_le_right ..)]
    _ = src.take (min src.length packetBufSize) := List.take_left' hshort
    _ = src.take packetBufSize := by
        rw [Nat.min_comm, ← List.take_take, List.take_length]

theorem asSlice_new_eq_iff {src : Bytes} : (new src).asSlice = src ↔ src.length ≤ packetBufSize := by
  rw [asSlice_new, List.take_eq_self_iff]

end PacketBuf

namespace Client
variable {P : Primitives} {c : Client}

/-- There is a session below its counter limit, the packet fits and is sealed, and the socket takes it. -/
structure Sends (P : Primitives) (c : Client) (payload : Bytes) (sendOk : Bool) : Prop where
  sendOk_eq : sendOk = true
  packetSize_le : Session.packetSize payload ≤ maxPacketSize
  session : ∃ session, c.session = some session ∧ session.sendCounter < Counter.maxSafe ∧
    ((session.nextCall .data payload).output P.aes256Gcm).isSome = true

theorem sendData_outcome (payload : Bytes) (sendOk : Bool) :
    (c.Sends P payload sendOk ∧ ∃ session packet, c.session = some session ∧
        (c.sendData P payload sendOk).2 = .ok packet ∧
        Session.Carries P.aes256Gcm session.sessionId session.keyId session.keys .data session.sendCounter payload
          packet) ∨
      (¬c.Sends P payload sendOk ∧ ∃ e, (c.sendData P payload sendOk).2 = .error e) := by
  unfold sendData sendPacket
  cases hsession : c.session with
  | none =>
    refine .inr ⟨fun h => ?_, _, rfl⟩
    obtain ⟨session, hsome, -⟩ := h.session
    rw [hsession] at hsome
    cases hsome
  | some session =>
    have hthis {session' : Session} (h : c.session = some session') : session' = session :=
      Option.some.inj (h.symm.trans hsession)
    dsimp only
    rcases Session.encryptPacket_cases P.aes256Gcm session .data payload maxPacketSize with
      ⟨hlimit, heq⟩ | ⟨-, hsmall, heq⟩ | ⟨-, -, hrefused, heq⟩ | ⟨hlt, hbig, ciphertext, hcall, heq⟩
    · rw [heq]
      refine .inr ⟨fun h => ?_, _, rfl⟩
      obtain ⟨session', hsome, hlt, -⟩ := h.session
      rw [hthis hsome] at hlt
      exact absurd hlimit (UInt64.not_le.mpr hlt)
    · rw [heq]
      exact .inr ⟨fun h => absurd h.packetSize_le (Nat.not_le.mpr hsmall), _, rfl⟩
    · rw [heq]
      refine .inr ⟨fun h => ?_, _, rfl⟩
      obtain ⟨session', hsome, -, hsealed⟩ := h.session
      rw [hthis hsome, hrefused] at hsealed
      cases hsealed
    · rw [heq]
      cases sendOk with
      | false => exact .inr ⟨fun h => Bool.false_ne_true h.sendOk_eq, _, rfl⟩
      | true =>
        refine .inl ⟨⟨rfl, hbig, session, hsession, hlt, ?_⟩, session, _, rfl, rfl, ⟨ciphertext, hcall, rfl⟩⟩
        rw [hcall]
        rfl

end Client

structure QueuedPacket where
  packet : Bytes
  buf : PacketBuf
  buf_eq : buf = .new packet

structure PassedPacket where
  packet : Bytes
  out : Bytes
deriving DecidableEq

/-- The extension's packets: `running` while the handles to the channels are cached, and what has passed so far. -/
structure TunnelPackets where
  client : Client
  running : Bool
  uplink : List QueuedPacket
  downlink : List QueuedPacket
  passed : List PassedPacket

/-- The device writes; the uplink thread takes a packet; a datagram arrives; the device reads, one try a step; the
tunnel is stopped. -/
inductive PacketStep
  | write (packet : Bytes)
  | drain (sendOk : Bool)
  | receive (now : Nat) (wallClock : UInt64) (data : Bytes)
  | read (bufLen : Int)
  | stop

namespace TunnelPackets
variable {P : Primitives} {settings : ClientSettings} {t : TunnelPackets}

def channelCapacity : Nat := 8192

/-- `try_send`: a packet for which there is no room is dropped. -/
def trySend (channel : List QueuedPacket) (packet : Bytes) : List QueuedPacket :=
  if channel.length < channelCapacity then channel ++ [⟨packet, .new packet, rfl⟩] else channel

def start (client : Client) : TunnelPackets := ⟨client, true, [], [], []⟩

/-- A null pointer is an empty packet here. -/
def writePackets (t : TunnelPackets) (packet : Bytes) : TunnelPackets × Int :=
  if packet = [] then (t, -1)
  else if t.running then ({ t with uplink := trySend t.uplink packet }, 0)
  else (t, -2)

/-- The uplink thread seals the next packet of the channel; one that cannot be sent is dropped. -/
def drain (P : Primitives) (t : TunnelPackets) (sendOk : Bool) : TunnelPackets :=
  match t.uplink with
  | [] => t
  | q :: uplink =>
    match t.client.sendData P q.buf.asSlice sendOk with
    | (client, .ok _) => { t with client, uplink, passed := t.passed ++ [⟨q.packet, q.buf.asSlice⟩] }
    | (client, .error _) => { t with client, uplink }

/-- The downlink task: a data packet that is not empty goes into the channel. -/
def receive (P : Primitives) (settings : ClientSettings) (t : TunnelPackets) (now : Nat) (wallClock : UInt64)
    (data : Bytes) : TunnelPackets :=
  if data = [] then t
  else
    match t.client.processPacket P settings now wallClock data with
    | (client, _, .ok (some (.data, packet))) =>
      if packet = [] then { t with client } else { t with client, downlink := trySend t.downlink packet }
    | (client, _, _) => { t with client }

/-- One try to read into a buffer of `bufLen` bytes: what the call returns, and the bytes it has copied. -/
def readPackets (t : TunnelPackets) (bufLen : Int) : TunnelPackets × Int × Bytes :=
  if bufLen ≤ 0 then (t, -1, [])
  else if t.running then
    match t.downlink with
    | [] => (t, 0, [])
    | q :: downlink =>
      let copyLen := min q.buf.asSlice.length bufLen.toNat
      let out := q.buf.asSlice.take copyLen
      ({ t with downlink, passed := t.passed ++ [⟨q.packet, out⟩] }, copyLen, out)
  else (t, -2, [])

def step (P : Primitives) (settings : ClientSettings) (t : TunnelPackets) : PacketStep → TunnelPackets
  | .write packet => (t.writePackets packet).1
  | .drain sendOk => t.drain P sendOk
  | .receive now wallClock data => t.receive P settings now wallClock data
  | .read bufLen => (t.readPackets bufLen).1
  | .stop =>
    { t with client := { t.client.clearRekeyState with session := none, state := .disconnected }, running := false }

/-! ### What comes out -/

/-- Every packet passed on is the one handed in. -/
def Unaltered (t : TunnelPackets) : Prop := ∀ p ∈ t.passed, p.out = p.packet

/-- A packet that is sent fits the buffers of the extension, and one that is read also the caller's. -/
def Fits (P : Primitives) (t : TunnelPackets) : PacketStep → Prop
  | .drain sendOk => ∀ q, t.uplink.head? = some q → t.client.Sends P q.buf.asSlice sendOk →
      q.packet.length ≤ packetBufSize
  | .read bufLen => ∀ q, t.running = true → 0 < bufLen → t.downlink.head? = some q →
      q.packet.length ≤ packetBufSize ∧ (q.packet.length : Int) ≤ bufLen
  | _ => True

theorem QueuedPacket.take_asSlice_iff (q : QueuedPacket) (n : Nat) :
    q.buf.asSlice.take (min q.buf.asSlice.length n) = q.packet ↔
      q.packet.length ≤ packetBufSize ∧ q.packet.length ≤ n := by
  have htake : q.buf.asSlice.take (min q.buf.asSlice.length n) = q.packet.take (min n packetBufSize) := by
    rw [Nat.min_comm, ← List.take_take, List.take_length, q.buf_eq, PacketBuf.asSlice_new, List.take_take]
  rw [htake, List.take_eq_self_iff, Nat.le_min, and_comm]

theorem unaltered_append_iff (h : t.Unaltered) {t' : TunnelPackets} {p : PassedPacket}
    (hpassed : t'.passed = t.passed ++ [p]) : t'.Unaltered ↔ p.out = p.packet := by
  unfold Unaltered at *
  rw [hpassed]
  simp only [List.mem_append, List.mem_singleton, or_imp, forall_and, forall_eq]
  exact and_iff_right h

theorem Unaltered.of_passed (h : t.Unaltered) {t' : TunnelPackets} (hpassed : t'.passed = t.passed) : t'.Unaltered := by
  unfold Unaltered
  rw [hpassed]
  exact h

theorem receive_passed (now : Nat) (wallClock : UInt64) (data : Bytes) :
    (t.receive P settings now wallClock data).passed = t.passed := by
  unfold receive
  split
  · rfl
  split
  · split
    all_goals rfl
  · rfl

theorem unaltered_drain_iff (h : t.Unaltered) (sendOk : Bool) :
    (t.drain P sendOk).Unaltered ↔ t.Fits P (.drain sendOk) := by
  rw [Fits, drain]
  cases huplink : t.uplink with
  | nil => exact iff_of_true h nofun
  | cons q uplink =>
    have hfits {p : QueuedPacket → Prop} : (∀ q', some q = some q' → p q') ↔ p q := by
      simp only [Option.some.injEq, forall_eq']
    rw [List.head?_cons, hfits]
    dsimp only
    rcases @Client.sendData_outcome P t.client q.buf.asSlice sendOk with
      ⟨hsends, session, packet, -, hout, -⟩ | ⟨hnot, e, hout⟩
    · generalize t.client.sendData P q.buf.asSlice sendOk = r at hout ⊢
      obtain ⟨client, result⟩ := r
      obtain rfl : result = .ok packet := hout
      rw [unaltered_append_iff h rfl, q.buf_eq, PacketBuf.asSlice_new_eq_iff]
      exact ⟨fun hlen _ => hlen, fun hlen => hlen (q.buf_eq ▸ hsends)⟩
    · generalize t.client.sendData P q.buf.asSlice sendOk = r at hout ⊢
      obtain ⟨client, result⟩ := r
      obtain rfl : result = .error e := hout
      exact iff_of_true (h.of_passed rfl) fun hsends => absurd hsends hnot

theorem unaltered_readPackets_iff (h : t.Unaltered) (bufLen : Int) :
    (t.readPackets bufLen).1.Unaltered ↔ t.Fits P (.read bufLen) := by
  rw [Fits, readPackets]
  by_cases hlen : bufLen ≤ 0
  · rw [if_pos hlen]
    exact iff_of_true h fun _ _ hpos => absurd hlen (Int.not_le.mpr hpos)
  rw [if_neg hlen]
  by_cases hrunning : t.running = true
  · rw [if_pos hrunning]
    cases hdownlink : t.downlink with
    | nil => exact iff_of_true h nofun
    | cons q downlink =>
      have hpos : 0 < bufLen := Int.not_le.mp hlen
      rw [unaltered_append_iff h rfl, QueuedPacket.take_asSlice_iff]
      simp only [hrunning, hpos, List.head?_cons, Option.some.injEq, forall_const, forall_eq', Int.le_toNat hpos.le]
  · rw [if_neg hrunning]
    exact iff_of_true h fun _ hrun => absurd hrun hrunning

theorem unaltered_step_iff (h : t.Unaltered) (i : PacketStep) : (t.step P settings i).Unaltered ↔ t.Fits P i := by
  cases i with
  | write packet =>
    refine iff_of_true (h.of_passed ?_) trivial
    rw [step, writePackets]
    split
    · rfl
    split
    all_goals rfl
  | drain sendOk => exact unaltered_drain_iff h sendOk
  | receive now wallClock data => exact iff_of_true (h.of_passed (receive_passed now wallClock data)) trivial
  | read bufLen => exact unaltered_readPackets_iff h bufLen
  | stop => exact iff_of_true (h.of_passed rfl) trivial

/-- No packet is ever altered just if every packet sent or read fits its buffers. -/
theorem packets_unaltered_iff (P : Primitives) (settings : ClientSettings) (client : Client) (steps : List PacketStep) :
    (∀ n, (exec (step P settings) (start client) (steps.take n)).Unaltered) ↔
      Meets (Fits P) (step P settings) (start client) steps := by
  have hgood : ∀ (t : TunnelPackets) i, True → t.Unaltered → True →
      ((t.step P settings i).Unaltered ↔ t.Fits P i) := fun t i _ h _ => unaltered_step_iff h i
  exact exec_always_iff_meets (fun _ _ _ => trivial) hgood steps _ (meets_of_forall (fun _ _ _ => trivial) _) trivial
    nofun

end TunnelPackets

namespace PacketsSample
open TunnelPackets RekeySample

def client : Client := { RekeyDueSample.client with session := some RekeyDueSample.session }

def packet : Bytes := List.replicate 2049 7

def datagram : Bytes :=
  ((Session.new 42 keys.swap 0).encryptPacket primitives.aes256Gcm .data [1, 2, 3] 100).2.2.toOption.getD []

def run (steps : List PacketStep) : TunnelPackets :=
  exec (step primitives RekeyDueSample.settings) (start client) steps

theorem shortened_packets_delivered :
    (run [.write packet, .drain true]).passed = [⟨packet, packet.take 2048⟩] ∧
      (run [.receive 5 0 datagram, .read 2]).passed = [⟨[1, 2, 3], [1, 2]⟩] := by
  exact ⟨by decide +kernel, by decide +kernel⟩

end PacketsSample

end HpnVpn
