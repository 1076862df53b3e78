import HpnVpn.FragmentCollection
import HpnVpn.InitAtomicity
import HpnVpn.RelaySessions

/-! The relay's task for one handshake datagram: it forwards it through a socket of its own, passes on the response
and binds the session. -/
namespace HpnVpn
open Wire Tables Slots

def HandshakeResponse.sessionIdFromBytes (bytes : Bytes) : Except ProtocolError SessionId := do
  let (sessionId, _) ← takeBlock (ProtocolError.packetTooShort 8 bytes.length) 8 bytes
  return ofBe64 sessionId

theorem HandshakeResponse.sessionIdFromBytes_toBytes (r : HandshakeResponse) :
    sessionIdFromBytes r.toBytes = .ok r.sessionId := by
  rw [sessionIdFromBytes, toBytes, takeBlock_append, ok_bind]
  exact congrArg Except.ok (ofBe64_be64 r.sessionId)

/-- Whether inserting the fragment adds to the counters of rejected, dropped or duplicate ones. -/
def Reassembly.rejects (r : Reassembly) (source : SocketAddr) (f : HandshakeFragment) (now : Nat) : Bool :=
  if r.config.Admits f.fragTotal then
    match (r.live now).lookup (source, f.fragId) with
    | none => false
    | some e => ¬e.Matches f ∨ (∃ slot ∈ e.chunks[f.fragIndex.toNat]?, slot.isSome) ∨
        r.config.maxEntryBytes < e.totalBytes + f.payload.length
  else true

namespace Relay

def handshakeResponseTimeout : Nat := 5 * 10 ^ 9

/-- The settings of a handshake task; the configuration is refused if the buffers are smaller. -/
structure HandshakeForwardContext where
  upstreamAddr : SocketAddr
  bufferSize : Nat
  bufferSize_ge : 1500 ≤ bufferSize

structure HandshakeTask where
  context : HandshakeForwardContext
  clientAddr : SocketAddr
  reassembly : Reassembly
  deadline : Nat

structure TaskDatagram where
  data : Bytes
  now : Nat
  order : Chooser FragmentKey
  sendOk : Bool

namespace HandshakeTask

def start (context : HandshakeForwardContext) (clientAddr : SocketAddr) (now : Nat) : HandshakeTask where
  context := context
  clientAddr := clientAddr
  reassembly := .new .clientDefault
  deadline := now + handshakeResponseTimeout

/-- A fragment of the response: the task keeps a copy of what it forwards until it knows the session. -/
def forwardFragment (sessions : SessionManager) (task : HandshakeTask) (d : TaskDatagram) (response : Bytes)
    (fragment : HandshakeFragment) : Except ReassemblyPanic (SessionManager × Option HandshakeTask × List Bytes) := do
  let rejected := task.reassembly.rejects task.context.upstreamAddr fragment d.now
  let (reassembly, completed) ← task.reassembly.insert task.context.upstreamAddr fragment d.now d.order
  if rejected then return (sessions, some { task with reassembly }, [])
  else if d.sendOk = false then return (sessions, none, [])
  else
    match completed with
    | none => return (sessions, some { task with reassembly }, [response])
    | some (_, payload) =>
      match HandshakeResponse.sessionIdFromBytes payload with
      | .error _ => return (sessions, none, [response])
      | .ok sessionId => return ((sessions.bindEstablished sessionId task.clientAddr d.now).1, none, [response])

/-- One round of the task: the relay's sessions, the task if it goes on, and what is sent to the client. -/
def receive (sessions : SessionManager) (task : HandshakeTask) (d : TaskDatagram) :
    Except ReassemblyPanic (SessionManager × Option HandshakeTask × List Bytes) :=
  if task.deadline ≤ d.now then return (sessions, none, [])
  else
    let response := d.data.take task.context.bufferSize
    match PacketHeader.decode response with
    | .error _ => return (sessions, some task, [])
    | .ok header =>
      match header.msgType with
      | .handshakeResponse =>
        match sessions.bindEstablished header.sessionId task.clientAddr d.now with
        | (sessions, false) => return (sessions, none, [])
        | (sessions, true) =>
          if d.sendOk then return (sessions, none, [response])
          else return (sessions.remove header.sessionId, none, [])
      | .handshakeFragment =>
        match HandshakeFragment.fromBytes (response.drop headerSize) with
        | .error _ => return (sessions, some task, [])
        | .ok fragment =>
          if fragment.innerMsgType ≠ .handshakeResponse then return (sessions, some task, [])
          else task.forwardFragment sessions d response fragment
      | .cookieRequest => return (sessions, none, if d.sendOk then [response] else [])
      | _ => return (sessions, some task, [])

def run (sessions : SessionManager) (task : HandshakeTask) :
    List TaskDatagram → Except ReassemblyPanic (SessionManager × Option HandshakeTask × List Bytes)
  | [] => return (sessions, some task, [])
  | d :: ds => do
    let (sessions, next, sent) ← task.receive sessions d
    match next with
    | none => return (sessions, none, sent)
    | some task =>
      let (sessions, next, rest) ← task.run sessions ds
      return (sessions, next, sent ++ rest)

end HandshakeTask

end Relay

/-! ### The fragments of a response -/

namespace FragmentedMessage
variable {m : FragmentedMessage} {r : Reassembly} {start now index : Nat} {seen : List Bytes}

theorem Collecting.not_rejects (h : m.Collecting start seen r) (hnow : now < start + Relay.handshakeResponseTimeout)
    (hindex : index < m.count) (hnew : (m.fragment index).toBytes ∉ seen) :
    r.rejects m.source (m.fragment index) now = false := by
  unfold Reassembly.rejects
  rw [if_pos (h.admits index)]
  change (match (r.live now).lookup m.key with | none => _ | some e => _) = false
  rw [h.lookup_live hnow.le]
  have hholds := h.holds
  cases he : r.entries.lookup m.key with
  | none => rfl
  | some e =>
    rw [he] at hholds
    obtain ⟨hmatches, hslots⟩ := hholds
    have hempty : e.chunks[(m.fragment index).fragIndex.toNat]? = some none := by
      rw [toNat_fragIndex hindex]
      exact (hslots index hindex).mpr hnew
    have hfits := h.sound.store_fits he (wellFormed hindex)
    refine decide_eq_false ?_
    rintro (hdiffers | ⟨slot, hslot, hsome⟩ | hover)
    · exact hdiffers ⟨hmatches.1, hmatches.2⟩
    · rw [hempty] at hslot
      cases hslot
      cases hsome
    · omega

end FragmentedMessage

namespace Relay.HandshakeTask
open FragmentedMessage
variable {m : FragmentedMessage} {task : HandshakeTask} {start index : Nat} {seen : List Bytes} {d : TaskDatagram}

structure Waits (m : FragmentedMessage) (start : Nat) (seen : List Bytes) (task : HandshakeTask) : Prop where
  upstreamAddr : task.context.upstreamAddr = m.source
  deadline : task.deadline = start + handshakeResponseTimeout
  collecting : m.Collecting start seen task.reassembly

/-- A datagram that comes in time, while the client can be reached. -/
def TaskDatagram.Prompt (start : Nat) (d : TaskDatagram) : Prop :=
  start ≤ d.now ∧ d.now < start + handshakeResponseTimeout ∧ d.sendOk = true

theorem Waits.receive (h : task.Waits m start seen) (htype : m.innerMsgType = .handshakeResponse)
    (sessions : SessionManager) (hd : TaskDatagram.Prompt start d) (hindex : index < m.count)
    (hdata : d.data = fragmentPacket (m.fragment index).toBytes) (hnew : (m.fragment index).toBytes ∉ seen) :
    ((∃ i < m.count, (m.fragment i).toBytes ∉ seen ++ [(m.fragment index).toBytes]) ∧
      ∃ task', task.receive sessions d = .ok (sessions, some task', [d.data]) ∧
        task'.clientAddr = task.clientAddr ∧ task'.Waits m start (seen ++ [(m.fragment index).toBytes])) ∨
    (∀ i < m.count, (m.fragment i).toBytes ∈ seen ++ [(m.fragment index).toBytes]) ∧
      ∀ sessionId, HandshakeResponse.sessionIdFromBytes m.payload = .ok sessionId →
        task.receive sessions d =
          .ok ((sessions.bindEstablished sessionId task.clientAddr d.now).1, none, [d.data]) := by
  obtain ⟨hstart, hnow, hsend⟩ := hd
  have hintime : ¬task.deadline ≤ d.now := by
    rw [h.deadline]
    omega
  have hwhole : d.data.take task.context.bufferSize = fragmentPacket (m.fragment index).toBytes := by
    rw [hdata]
    exact List.take_of_length_le ((length_fragmentPacket_le hindex).trans task.context.bufferSize_ge)
  have hinner : ¬(m.fragment index).innerMsgType ≠ .handshakeResponse := not_not.mpr htype
  obtain ⟨r', out, hinsert, hcases⟩ := h.collecting.insert hstart hnow.le hindex d.order
  have hreject := h.collecting.not_rejects hnow hindex hnew
  have hreceive : task.receive sessions d = task.forwardFragment sessions d d.data (m.fragment index) := by
    unfold HandshakeTask.receive
    dsimp only
    rw [if_neg hintime, hwhole, decode_fragmentPacket]
    dsimp only [PacketHeader.new]
    rw [drop_fragmentPacket, fromBytes_toBytes hindex]
    dsimp only
    rw [if_neg hinner, hdata]
  rw [hreceive]
  unfold forwardFragment
  rw [h.upstreamAddr, hinsert, hreject, hsend, ok_bind]
  rcases hcases with ⟨hmissing, rfl, hcollecting⟩ | ⟨hall, rfl⟩
  · exact .inl ⟨hmissing, _, rfl, rfl, h.upstreamAddr, h.deadline, hcollecting⟩
  · refine .inr ⟨hall, ?_⟩
    intro sessionId hid
    dsimp only
    rw [if_neg Bool.false_ne_true, if_neg (Bool.false_ne_true ∘ Eq.symm), hid]
    rfl

theorem mem_bodies_iff {b : Bytes} : b ∈ m.bodies ↔ ∃ i < m.count, (m.fragment i).toBytes = b := by
  rw [bodies, List.mem_map]
  simp only [List.mem_range]

theorem Waits.run (htype : m.innerMsgType = .handshakeResponse) {sessionId : SessionId}
    (hid : HandshakeResponse.sessionIdFromBytes m.payload = .ok sessionId) (ds : List TaskDatagram) :
    ∀ (task : HandshakeTask) (seen : List Bytes), task.Waits m start seen → ∀ sessions : SessionManager,
      (∀ d ∈ ds, TaskDatagram.Prompt start d) → ds ≠ [] →
      (seen.map fragmentPacket ++ ds.map TaskDatagram.data).Perm (m.bodies.map fragmentPacket) →
      ∃ last ∈ ds, task.run sessions ds =
        .ok ((sessions.bindEstablished sessionId task.clientAddr last.now).1, none, ds.map TaskDatagram.data) := by
  induction ds with
  | nil => exact fun _ _ _ _ _ hne => absurd rfl hne
  | cons d ds ih =>
    intro task seen hwaits sessions hprompt _ hperm
    have hmem : d.data ∈ m.bodies.map fragmentPacket :=
      hperm.mem_iff.mp (List.mem_append_right _ List.mem_cons_self)
    obtain ⟨body, hbody, hdata⟩ := List.mem_map.mp hmem
    obtain ⟨index, hindex, rfl⟩ := mem_bodies_iff.mp hbody
    have hnodup := hperm.nodup_iff.mpr (nodup_bodies.map fragmentPacket_injective)
    have hnew : (m.fragment index).toBytes ∉ seen := by
      intro hseen
      have hdisjoint := List.disjoint_of_nodup_append hnodup
      exact hdisjoint (List.mem_map_of_mem hseen) (hdata ▸ List.mem_cons_self)
    have hleft : ∀ b ∈ m.bodies,
        b ∈ seen ++ [(m.fragment index).toBytes] ∨ fragmentPacket b ∈ ds.map TaskDatagram.data := by
      intro b hb
      have hin := hperm.mem_iff.mpr (List.mem_map_of_mem hb)
      rw [List.mem_append, List.map_cons, List.mem_cons, ← hdata, fragmentPacket_injective.eq_iff,
        List.mem_map_of_injective fragmentPacket_injective] at hin
      rw [List.mem_append, List.mem_singleton, or_assoc]
      exact hin
    rcases hwaits.receive htype sessions (hprompt d List.mem_cons_self) hindex hdata.symm hnew with
      ⟨⟨i, hi, hmissing⟩, task', hreceive, hclient, hwaits'⟩ | ⟨hall, hreceive⟩
    · have hmore : fragmentPacket (m.fragment i).toBytes ∈ ds.map TaskDatagram.data :=
        (hleft _ (mem_bodies_iff.mpr ⟨i, hi, rfl⟩)).resolve_left hmissing
      have hne : ds ≠ [] := List.ne_nil_of_mem (List.mem_map.mp hmore).choose_spec.1
      have hperm' : ((seen ++ [(m.fragment index).toBytes]).map fragmentPacket ++ ds.map TaskDatagram.data).Perm
          (m.bodies.map fragmentPacket) := by
        rw [List.map_append, List.append_assoc, List.map_singleton, hdata]
        exact hperm
      obtain ⟨last, hlast, hrun⟩ := ih task' _ hwaits' sessions
        (fun x hx => hprompt x (List.mem_cons_of_mem d hx)) hne hperm'
      refine ⟨last, List.mem_cons_of_mem d hlast, ?_⟩
      rw [HandshakeTask.run, hreceive, ok_bind]
      dsimp only
      rw [hrun, hclient]
      rfl
    · have hempty : ds = [] := by
        have hsub : m.bodies ⊆ seen ++ [(m.fragment index).toBytes] := by
          intro b hb
          obtain ⟨i, hi, rfl⟩ := mem_bodies_iff.mp hb
          exact hall i hi
        have hle := (nodup_bodies.subperm hsub).length_le
        have hlength := hperm.length_eq
        simp only [List.length_append, List.length_map, List.length_cons, List.length_nil] at hle hlength
        exact List.length_eq_zero_iff.mp (by omega)
      refine ⟨d, List.mem_cons_self, ?_⟩
      rw [HandshakeTask.run, hreceive sessionId hid, ok_bind, hempty]
      rfl

end Relay.HandshakeTask

/-! ### The whole response -/

namespace HandshakeResponse

theorem fragmentationThreshold_lt (r : HandshakeResponse) : fragmentationThreshold < r.toBytes.length := by
  rw [r.toBytes_length]
  cases r.signature.securityLevel with
  | level3 =>
    show 1176 < _ + 3309 + 32 + 4 + _ + 32 + 8
    omega
  | level5 =>
    show 1176 < _ + 4627 + 32 + 4 + _ + 32 + 8
    omega

theorem packets_eq {response : HandshakeResponse} {sessionId : SessionId} {fragId : UInt32} {packets : List Bytes}
    (h : encodeHandshakeResponseAsPackets response sessionId fragId = .ok packets) (source : SocketAddr) :
    ∃ m : FragmentedMessage, m.source = source ∧ m.innerMsgType = .handshakeResponse ∧
      m.payload = response.toBytes ∧ packets = m.bodies.map fragmentPacket := by
  have hlong := response.fragmentationThreshold_lt
  have hne : response.toBytes ≠ [] := List.ne_nil_of_length_pos (Nat.zero_lt_of_lt hlong)
  unfold encodeHandshakeResponseAsPackets at h
  rw [if_neg (Nat.not_le.mpr hlong)] at h
  by_cases hfits : response.toBytes.length ≤ maxFragmentsPerHandshake * maxFragmentPayload
  · let m : FragmentedMessage := ⟨source, fragId, .handshakeResponse, response.toBytes, rfl, hne, hfits⟩
    refine ⟨m, rfl, rfl, rfl, ?_⟩
    have hbuild := m.build_eq
    rw [hbuild] at h
    exact (Except.ok.inj h).symm
  · rw [buildHandshakeFragments_of_long rfl fragId (Nat.not_le.mp hfits)] at h
    cases h

end HandshakeResponse

end HpnVpn
