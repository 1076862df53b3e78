import HpnVpn.ControlPath
import HpnVpn.RelayBinding
import HpnVpn.RelayTask

/-! A handshake through the relay against the same one sent directly.  Every datagram of the client reaches the server
under another address. -/
namespace HpnVpn
open Wire Tables Slots ControlServer FragmentedMessage SessionManager

/-! ### The client's init -/

structure InitPayload where
  msgType : MessageType
  payload : Bytes
  isInit : msgType = .handshakeInit ∨ msgType = .encryptedHandshakeInit

namespace InitPayload

variable (i : InitPayload)

def packet : Bytes := (PacketHeader.new i.msgType 0 0 0).toBytes ++ i.payload

/-- The datagrams of an init: the packet, or fragments under an id. -/
def datagrams : Option UInt32 → Except FragmentError (List Bytes)
  | none => return [i.packet]
  | some fragId => do
    let bodies ← buildHandshakeFragments i.msgType fragId i.payload
    return bodies.map fragmentPacket

/-- What the client sends: an init above the threshold goes in fragments. -/
def send (fragId : UInt32) : Except FragmentError (List Bytes) :=
  i.datagrams (if fragmentationThreshold < i.payload.length then some fragId else none)

end InitPayload

/-- A datagram on its way: when the relay has it, the address it reaches the server from, and what handling it meets.
-/
structure Leg where
  data : Bytes
  relayTime : Nat
  source : SocketAddr
  occasion : InitOccasion
  order : Chooser FragmentKey

/-! ### The server -/

/-- Whether the credentials of an init are locked out at an address. -/
def InitContext.lockedOut (S : InitContext) (userStore : Option S.backend.State) (init : HandshakeInit) (ip : IpAddr)
    (now : Nat) : Bool :=
  match userStore with
  | none => false
  | some store =>
    match S.kemKeypairFor init.securityLevel with
    | none => false
    | some keypair =>
      match init.credentials with
      | none => false
      | some encryptedCreds =>
        match encryptedCreds.decrypt S.P keypair.1 with
        | .error _ => false
        | .ok creds => S.backend.checkLockout store creds.username ip now

namespace ControlServer
variable {S : InitContext}

def receiveHandshake (s : ControlServer S) (l : Leg) :
    Except ReassemblyPanic (ControlServer S × List OutboundResponse) :=
  match (s.sessions.processPacket S.toServerContext l.data l.source l.occasion.now).2 with
  | .forward (.handshakeInit data addr) => s.handleControlMessage (.handshakeInit data addr) l.occasion l.order
  | .forward (.handshakeFragment data addr) => s.handleControlMessage (.handshakeFragment data addr) l.occasion l.order
  | _ => return (s, [])

def serve (s : ControlServer S) : List Leg → Except ReassemblyPanic (ControlServer S × List OutboundResponse)
  | [] => return (s, [])
  | l :: legs => do
    let (s, first) ← s.receiveHandshake l
    let (s, rest) ← s.serve legs
    return (s, first ++ rest)

/-- Without the relay, from one address, the same packets complete the handshake. -/
def WorksDirectly (s : ControlServer S) (clientAddr : SocketAddr) (legs : List Leg) : Prop :=
  ∃ s' queued, s.serve (legs.map fun l => { l with source := clientAddr }) = .ok (s', queued) ∧
    s.sessions.Completed s'.sessions clientAddr queued

end ControlServer

namespace Relay

def RelayServer.forwardAll (accrue : Accrual) (bufferSize : Nat) (clientAddr : SocketAddr) :
    RelayServer → List Leg → List Leg
  | _, [] => []
  | r, l :: legs =>
    match r.handleClientPacket accrue l.relayTime (l.data.take bufferSize) clientAddr with
    | (r, .forwardHandshake data _) => { l with data } :: r.forwardAll accrue bufferSize clientAddr legs
    | (r, _) => r.forwardAll accrue bufferSize clientAddr legs

theorem RelayServer.forwardAll_sublist (accrue : Accrual) {bufferSize : Nat} (clientAddr : SocketAddr) (legs : List Leg)
    (h : ∀ l ∈ legs, l.data.length ≤ bufferSize) :
    ∀ r : RelayServer, (r.forwardAll accrue bufferSize clientAddr legs).Sublist legs := by
  induction legs with
  | nil => exact fun _ => .slnil
  | cons l legs ih =>
    intro r
    rw [List.forall_mem_cons] at h
    have hspec := (r.handleClientPacket_spec accrue l.relayTime l.data clientAddr).2
    rw [forwardAll, List.take_of_length_le h.1]
    generalize r.handleClientPacket accrue l.relayTime l.data clientAddr = outcome at hspec ⊢
    obtain ⟨r', action⟩ := outcome
    rcases hspec with rfl | rfl | ⟨_, _, _, rfl⟩
    · exact (ih h.2 r').cons l
    · exact (ih h.2 r').cons_cons l
    · exact (ih h.2 r').cons l

/-- The server completes the handshake for one of the relay's sockets, whose task passes on all of the response. -/
def WorksThrough {S : InitContext} (context : HandshakeForwardContext) (accrue : Accrual) (relay : RelayServer)
    (s : ControlServer S) (clientAddr : SocketAddr) (legs : List Leg) : Prop :=
  ∃ s' queued, s.serve (relay.forwardAll accrue context.bufferSize clientAddr legs) = .ok (s', queued) ∧
    ∃ l ∈ legs, s.sessions.Completed s'.sessions l.source queued ∧
      ∀ start sessions ds, (∀ d ∈ ds, HandshakeTask.TaskDatagram.Prompt start d) →
        (ds.map TaskDatagram.data).Perm (queued.map OutboundResponse.data) →
        ∃ sessions', (HandshakeTask.start context clientAddr start).run sessions ds =
          .ok (sessions', none, ds.map TaskDatagram.data)

end Relay

/-! ### The address a session is made for -/

namespace SessionManager
variable {S : InitContext} {m m' : SessionManager} {init : HandshakeInit} {addr : SocketAddr} {o : InitOccasion}

theorem not_completed_of_sessions {queued : List OutboundResponse}
    (hsessions : ∀ k, m'.sessions.lookup k = m.sessions.lookup k) : ¬m.Completed m' addr queued := by
  rintro ⟨sessionId, c, hnone, hadded, -⟩
  have hsome := hadded sessionId
  rw [hsessions, hnone, if_pos rfl] at hsome
  cases hsome

theorem createSession_outcome (picker pickerV6 : Picker Nat) (session : Session) (addr addr' : SocketAddr)
    (level : SecurityLevel) (now : UInt64) :
    (m.createSessionDualStackWithLevel picker pickerV6 session addr level now).2 =
      (m.createSessionDualStackWithLevel picker pickerV6 session addr' level now).2 := by
  unfold createSessionDualStackWithLevel
  dsimp only
  split
  · rfl
  · split
    · rfl
    · split <;> rfl

theorem Completed.lookup_new (h : m.Completed (m.establish S init addr o).1 addr (m.establish S init addr o).2) :
    m.sessions.lookup o.sessionId = none ∧ (m.establish S init addr o).1.sessions.lookup o.sessionId ≠ none := by
  obtain ⟨sessionId, c, hnone, hadded, -⟩ := h
  have hsome := hadded sessionId
  rw [if_pos rfl] at hsome
  have hid : sessionId = o.sessionId := by
    by_contra hne
    rw [lookup_establish_of_ne hne, hnone] at hsome
    cases hsome
  subst hid
  exact ⟨hnone, hsome ▸ Option.some_ne_none c⟩

theorem Completed.of_addr (h : m.Completed (m.establish S init addr o).1 addr (m.establish S init addr o).2)
    (addr' : SocketAddr) : m.Completed (m.establish S init addr' o).1 addr' (m.establish S init addr' o).2 := by
  obtain ⟨hfresh, hnew⟩ := h.lookup_new
  by_cases hanswers : S.Answers init o
  case neg =>
    rw [establish_of_not_answers hanswers] at hnew
    exact absurd hfresh hnew
  obtain ⟨response, keys, hok⟩ := answer_isOk.mpr hanswers
  have hcases := createSession_cases o.picker o.pickerV6 m (Session.new o.sessionId keys (millis o.now)) addr
    init.securityLevel o.now
  have hcases' := createSession_cases o.picker o.pickerV6 m (Session.new o.sessionId keys (millis o.now)) addr'
    init.securityLevel o.now
  have houtcome := m.createSession_outcome o.picker o.pickerV6 (Session.new o.sessionId keys (millis o.now)) addr addr'
    init.securityLevel o.now
  rw [establish_of_answer hok] at h hnew
  rw [establish_of_answer hok]
  generalize m.createSessionDualStackWithLevel o.picker o.pickerV6 (Session.new o.sessionId keys (millis o.now)) addr
    init.securityLevel o.now = r at h hnew hcases houtcome
  generalize m.createSessionDualStackWithLevel o.picker o.pickerV6 (Session.new o.sessionId keys (millis o.now)) addr'
    init.securityLevel o.now = r' at hcases' houtcome ⊢
  obtain ⟨m₁, outcome⟩ := r
  obtain ⟨m₂, outcome'⟩ := r'
  obtain rfl : outcome = outcome' := houtcome
  rcases hcases with ⟨e, rfl, hlookup⟩ | ⟨ip, ip6, rfl, -⟩
  · exact absurd ((hlookup o.sessionId).trans (if_pos rfl)) hnew
  rcases hcases' with ⟨e, he, -⟩ | ⟨ip', ip6', hpair, hlookup'⟩
  · cases he
  cases hpair
  have hremoved : ∀ m : SessionManager, (m.removeSession o.sessionId).1.sessions.lookup o.sessionId = none :=
    fun m => (lookup_removeSession m _ _).trans (if_pos rfl)
  dsimp only at h hnew ⊢
  unfold deliver at h hnew ⊢
  cases hrefresh : refreshHandshakeResponseAuth S.P
      { response with config := { response.config with clientIpv4 := ip, clientIpv6 := ip6 } } init.clientRandom
      init.securityLevel (S.keypairFor init.securityLevel) keys.sendKey o.signCoins with
  | error e =>
    rw [hrefresh] at hnew
    exact absurd (hremoved m₁) hnew
  | ok response' =>
    rw [hrefresh] at h hnew
    dsimp only at h hnew ⊢
    rcases encodeHandshakeResponseAsPackets_cases response' o.sessionId o.fragId with
      ⟨-, e, hencode⟩ | ⟨-, packets, hencode, hcount⟩
    · -- an empty queue holds no response
      rw [hencode] at h
      obtain ⟨_, _, _, _, other, fragId, packets, -, -, -, hpackets, hqueued⟩ := h
      rcases encodeHandshakeResponseAsPackets_cases other _ fragId with ⟨-, e', he'⟩ | ⟨-, packets', hpackets', hcount⟩
      · cases hpackets.symm.trans he'
      · cases hpackets.symm.trans hpackets'
        have hpos := packetCount_pos other.toBytes.length
        have hempty : packets = [] := List.map_eq_nil_iff.mp hqueued.symm
        rw [← hcount, hempty] at hpos
        exact absurd hpos (lt_irrefl 0)
    · rw [hencode] at hnew ⊢
      dsimp only at hnew ⊢
      by_cases hwhole : (packets.take o.queueRoom).length = packets.length
      case neg =>
        rw [if_neg hwhole] at hnew
        exact absurd (hremoved m₁) hnew
      have htake : packets.take o.queueRoom = packets :=
        (List.take_sublist _ _).eq_of_length hwhole
      rw [if_pos hwhole, htake]
      obtain ⟨signature, _, rfl⟩ := refreshHandshakeResponseAuth_eq_ok.mp hrefresh
      obtain ⟨_, _, _, _, _, _, rfl⟩ := ServerHandshake.processInit_eq_ok.mp hok
      exact ⟨o.sessionId, _, hfresh, hlookup', _, o.fragId, packets, rfl, rfl, rfl, hencode, rfl⟩

end SessionManager

/-! ### What the server makes of a datagram -/

/-- The buffer holds nothing from this source. -/
def Reassembly.Unknown (r : Reassembly) (source : SocketAddr) : Prop := ∀ fragId, r.contains source fragId = false

namespace Reassembly
variable {r : Reassembly} {source other : SocketAddr} {f : HandshakeFragment} {now : Nat} {order : Chooser FragmentKey}
  {t : Table FragmentKey Entry} {out : Option (MessageType × Bytes)}

theorem Unknown.lookup (h : r.Unknown source) (fragId : UInt32) : r.entries.lookup (source, fragId) = none :=
  Option.not_isSome_iff_eq_none.mp (Bool.eq_false_iff.mp (h fragId))

variable {key : FragmentKey}

theorem lookup_live_none (h : r.entries.lookup key = none) : (r.live now).lookup key = none := by
  by_contra hsome
  obtain ⟨e, he⟩ := Option.ne_none_iff_exists'.mp hsome
  rw [(lookup_live.mp he).1] at h
  cases h

theorem Outcome.lookup_none {k : FragmentKey} (hout : Outcome r key f now order t out) (hs : r.Sound) (hk : k ≠ key)
    (h : r.entries.lookup k = none) : t.lookup k = none := by
  cases hout with
  | refused => exact h
  | contradicted => rw [AList.lookup_erase_ne hk, h]
  | duplicate => exact h
  | stored => rw [AList.lookup_insert_ne hk, h]
  | completed => rw [AList.lookup_erase_ne hk, h]
  | opened _ _ hcaps => rw [AList.lookup_insert_ne hk, hs.lookup_of_enforceCaps hcaps h]
  | single _ _ hcaps => exact hs.lookup_of_enforceCaps hcaps h

theorem Outcome.out_of_none (hout : Outcome r key f now order t out)
    (hnone : r.entries.lookup key = none) (hmore : f.fragTotal ≠ 1) : out = none := by
  cases hout with
  | refused => rfl
  | contradicted => rfl
  | duplicate => rfl
  | stored => rfl
  | completed he =>
    rw [hnone] at he
    cases he
  | opened => rfl
  | single _ _ _ hone => exact absurd hone hmore

end Reassembly

namespace ControlServer
variable {S : InitContext} {s : ControlServer S} {l : Leg}

def answered (s : ControlServer S) (collected : Option Bytes) (source : SocketAddr) (o : InitOccasion) :
    ControlServer S × List OutboundResponse :=
  match collected with
  | none => (s, [])
  | some packet => s.handleHandshakeInitInternalPrechecked packet source o

theorem receiveHandshake_fragment {body : Bytes} (h : l.data = fragmentPacket body) {s' : ControlServer S}
    {collected : Option Bytes} (hcollect : s.collectFragment (fragmentPacket body) l.source l.occasion.instant l.order =
      .ok (s', collected)) :
    s.receiveHandshake l = .ok (answered s' collected l.source l.occasion) := by
  have hanswered : s.handleControlMessage (.handshakeFragment l.data l.source) l.occasion l.order =
      .ok (answered s' collected l.source l.occasion) := by
    rw [handleControlMessage_eq, collect, h, hcollect]
    rfl
  rw [← hanswered]
  have hlength : ¬(fragmentPacket body).length < headerSize := by
    rw [fragmentPacket, List.length_append, length_newHeader]
    omega
  rw [receiveHandshake, SessionManager.processPacket, h]
  rfl

theorem receiveHandshake_packet {i : InitPayload} (h : l.data = i.packet) :
    s.receiveHandshake l = s.handleControlMessage (.handshakeInit l.data l.source) l.occasion l.order := by
  have hlength : ¬i.packet.length < headerSize := by
    rw [InitPayload.packet, List.length_append, length_newHeader]
    omega
  have hdecode : PacketHeader.decode i.packet = .ok (.new i.msgType 0 0 0) :=
    PacketHeader.decode_toBytes (PacketHeader.new_wellFormed ..) i.payload
  rw [receiveHandshake, SessionManager.processPacket, h, if_neg hlength, hdecode]
  rcases i.isInit with htype | htype
  all_goals simp only [PacketHeader.new, htype]

theorem collectFragment_cases {m : FragmentedMessage} (hs : s.fragmentReassembly.Sound) {index : Nat}
    (hindex : index < m.count) (now : Nat) (order : Chooser FragmentKey) :
    let charged := s.chargeFragment (m.fragment index) m.source now
    (charged.2 = false ∧ s.collectFragment (fragmentPacket (m.fragment index).toBytes) m.source now order =
        .ok ({ s with rateLimiter := charged.1 }, none)) ∨
      charged.2 = true ∧ ∃ t out,
        s.collectFragment (fragmentPacket (m.fragment index).toBytes) m.source now order =
          .ok ({ s with rateLimiter := charged.1, fragmentReassembly := s.fragmentReassembly.withEntries t },
            out.map fun message => (PacketHeader.new message.1 0 0 0).toBytes ++ message.2) ∧
        Reassembly.Outcome (s.fragmentReassembly.withEntries (s.fragmentReassembly.live now)) m.key (m.fragment index)
          now order t out := by
  intro charged
  have hcollect : s.collectFragment (fragmentPacket (m.fragment index).toBytes) m.source now order = do
      if charged.2 = false then return ({ s with rateLimiter := charged.1 }, none)
      let r ← s.fragmentReassembly.insert m.source (m.fragment index) now order
      return ({ s with rateLimiter := charged.1, fragmentReassembly := r.1 },
        r.2.map fun message => (PacketHeader.new message.1 0 0 0).toBytes ++ message.2) := by
    unfold collectFragment
    rw [drop_fragmentPacket, fromBytes_toBytes hindex]
    rfl
  rw [hcollect]
  cases hcharged : charged.2 with
  | false => exact .inl ⟨rfl, rfl⟩
  | true =>
    obtain ⟨t, out, hinsert, hout⟩ := hs.insert_outcome m.source (FragmentedMessage.wellFormed hindex) now order
    refine .inr ⟨rfl, t, out, ?_, hout⟩
    rw [hinsert]
    rfl

theorem serve_cons {s₁ : ControlServer S} (h : s.receiveHandshake l = .ok (s₁, [])) (legs : List Leg) :
    s.serve (l :: legs) = s₁.serve legs := by
  rw [serve, h, ok_bind]
  dsimp only
  cases s₁.serve legs with
  | error e => rfl
  | ok r => rfl

theorem serve_scattered {msgType : MessageType} {payload : Bytes} (hfrag : Fragmentable msgType payload)
    (hmany : 2 ≤ fragmentCount payload) (fragId : UInt32) (legs : List Leg) :
    ∀ s : ControlServer S, s.fragmentReassembly.Sound → (∀ l ∈ legs, s.fragmentReassembly.Unknown l.source) →
      (legs.map Leg.source).Nodup →
      (∀ l ∈ legs, ∃ index < fragmentCount payload,
        l.data = fragmentPacket (fragmentAt msgType fragId payload index).toBytes) →
      ∃ s', s.serve legs = .ok (s', []) ∧ s'.toVpnServer = s.toVpnServer := by
  induction legs with
  | nil => exact fun s _ _ _ _ => ⟨s, rfl, rfl⟩
  | cons l legs ih =>
    intro s hs hunknown hnodup hdata
    rw [List.map_cons, List.nodup_cons] at hnodup
    rw [List.forall_mem_cons] at hunknown hdata
    obtain ⟨⟨index, hindex, hl⟩, hdata⟩ := hdata
    let m : FragmentedMessage := ⟨l.source, fragId, msgType, payload, hfrag⟩
    have hother : ∀ l' ∈ legs, l'.source ≠ l.source :=
      fun l' hl' heq => hnodup.1 (heq ▸ List.mem_map_of_mem hl')
    -- after the first datagram the others are still unknown, and nothing is queued
    have hfirst : ∃ s₁, s.receiveHandshake l = .ok (s₁, []) ∧ s₁.toVpnServer = s.toVpnServer ∧
        s₁.fragmentReassembly.Sound ∧ ∀ l' ∈ legs, s₁.fragmentReassembly.Unknown l'.source := by
      rcases collectFragment_cases (m := m) hs hindex l.occasion.instant l.order with
        ⟨-, hcollect⟩ | ⟨-, t, out, hcollect, hout⟩
      · exact ⟨_, receiveHandshake_fragment hl hcollect, rfl, hs, hunknown.2⟩
      · have hlive := hs.live l.occasion.instant
        have hnone : (s.fragmentReassembly.withEntries
            (s.fragmentReassembly.live l.occasion.instant)).entries.lookup m.key = none :=
          Reassembly.lookup_live_none (hunknown.1.lookup fragId)
        have hmore : (m.fragment index).fragTotal ≠ 1 := by
          intro hone
          have hcount := toNat_fragTotal (m := m) index
          rw [hone] at hcount
          change 1 = fragmentCount payload at hcount
          omega
        obtain rfl := hout.out_of_none hnone hmore
        refine ⟨_, receiveHandshake_fragment hl hcollect, rfl,
          hlive.outcome (FragmentedMessage.wellFormed hindex) hout, ?_⟩
        intro l' hl' fragId'
        have hkey : (l'.source, fragId') ≠ m.key := fun heq => hother l' hl' (congrArg Prod.fst heq)
        have hnone' := hout.lookup_none hlive hkey (Reassembly.lookup_live_none ((hunknown.2 l' hl').lookup fragId'))
        exact Bool.eq_false_iff.mpr (Option.not_isSome_iff_eq_none.mpr hnone')
    obtain ⟨s₁, hreceive, hsame, hs₁, hunknown₁⟩ := hfirst
    obtain ⟨s', hserve, hsame'⟩ := ih s₁ hs₁ hunknown₁ hnodup.2 hdata
    exact ⟨s', (serve_cons hreceive legs).trans hserve, hsame'.trans hsame⟩

end ControlServer

theorem Fragmentable.chunkAt_zero {msgType : MessageType} {payload : Bytes} (h : Fragmentable msgType payload)
    (hone : fragmentCount payload = 1) : chunkAt payload 0 = payload := by
  have hle := h.length_le
  rw [hone, one_mul] at hle
  rw [chunkAt, zero_mul, List.drop_zero, List.take_of_length_le hle]

theorem FragmentedMessage.out_of_single {m : FragmentedMessage} (hone : m.count = 1) {r : Reassembly} (hs : r.Sound)
    {now : Nat} {order : Chooser FragmentKey} {t : Table FragmentKey Entry} {out : Option (MessageType × Bytes)}
    (hout : Reassembly.Outcome r m.key (m.fragment 0) now order t out) :
    out = none ∨ out = some (m.innerMsgType, m.payload) := by
  have hpayload : (m.fragment 0).payload = m.payload := m.fragmentable.chunkAt_zero hone
  have hindex : (m.fragment 0).fragIndex.toNat = 0 := rfl
  cases hout with
  | refused => exact .inl rfl
  | contradicted => exact .inl rfl
  | duplicate => exact .inl rfl
  | stored => exact .inl rfl
  | @completed e pieces he hmatches hslot hpieces =>
    have hlength : e.chunks.length = 1 := by
      rw [(hs.entry he).length_eq, hmatches.fragTotal, toNat_fragTotal, hone]
    obtain ⟨slot, hchunks⟩ := List.length_eq_one_iff.mp hlength
    have hpieces' : [m.payload].map some = pieces.map some := by
      rw [← hpieces, Entry.store, hchunks, hpayload]
      rfl
    rw [← (List.map_injective_iff.mpr (Option.some_injective _)) hpieces']
    exact .inr (congrArg (fun p => some (m.innerMsgType, p)) List.flatten_singleton)
  | opened => exact .inl rfl
  | single =>
    rw [hpayload]
    exact .inr rfl

theorem FragmentedMessage.out_of_single_unknown {m : FragmentedMessage} (hone : m.count = 1) {r : Reassembly}
    {now : Nat} {order : Chooser FragmentKey} {t : Table FragmentKey Entry} {out : Option (MessageType × Bytes)}
    (hout : Reassembly.Outcome r m.key (m.fragment 0) now order t out)
    (hadmits : r.config.Admits (m.fragment 0).fragTotal) (hnone : r.entries.lookup m.key = none) :
    out = some (m.innerMsgType, m.payload) := by
  have hpayload : (m.fragment 0).payload = m.payload := m.fragmentable.chunkAt_zero hone
  cases hout with
  | refused hrefused => exact absurd hadmits hrefused
  | contradicted he | duplicate he | stored he | completed he =>
    rw [hnone] at he
    cases he
  | opened _ _ _ hmore =>
    rw [toNat_fragTotal, hone] at hmore
    exact absurd hmore (lt_irrefl 1)
  | single =>
    rw [hpayload]
    rfl

namespace InitPayload
variable {i : InitPayload} {fragId : UInt32} {datagrams : List Bytes}

theorem datagrams_some (h : i.datagrams (some fragId) = .ok datagrams) :
    Fragmentable i.msgType i.payload ∧ datagrams = (List.range (fragmentCount i.payload)).map fun index =>
      fragmentPacket (fragmentAt i.msgType fragId i.payload index).toBytes := by
  obtain ⟨bodies, hbuild, h⟩ := bind_ok_iff.mp h
  have hfrag := fragmentable_of_build hbuild
  rw [hfrag.buildHandshakeFragments_eq fragId] at hbuild
  cases hbuild
  cases h
  exact ⟨hfrag, List.map_map⟩

end InitPayload

namespace ControlServer
variable {S : InitContext} {s : ControlServer S} {l : Leg} {i : InitPayload} {cut : Option UInt32}

theorem receive_single (hr : s.fragmentReassembly.Reachable .serverDefault) (hone : i.datagrams cut = .ok [l.data]) :
    ∃ s₁ collected, s.receiveHandshake l = .ok (answered s₁ collected l.source l.occasion) ∧
      s₁.toVpnServer = s.toVpnServer ∧ (collected = none ∨ collected = some i.packet) ∧
      (s.fragmentReassembly.Unknown l.source →
        collected = if (s.rateLimiter.allow l.source.ip l.occasion.instant).2 then some i.packet else none) := by
  cases cut with
  | none =>
    have hdata : l.data = i.packet := (List.cons.inj (Except.ok.inj hone)).1.symm
    refine ⟨{ s with rateLimiter := (s.rateLimiter.allow l.source.ip l.occasion.instant).1 },
      if (s.rateLimiter.allow l.source.ip l.occasion.instant).2 then some i.packet else none, ?_, rfl, ?_, fun _ => rfl⟩
    · rw [receiveHandshake_packet hdata, handleControlMessage_eq, collect, hdata]
      cases (s.rateLimiter.allow l.source.ip l.occasion.instant).2 <;> rfl
    · cases (s.rateLimiter.allow l.source.ip l.occasion.instant).2
      · exact .inl rfl
      · exact .inr rfl
  | some fragId =>
    obtain ⟨hconfig, hs⟩ := hr.sound
    obtain ⟨hfrag, hlist⟩ := InitPayload.datagrams_some hone
    have hcount : fragmentCount i.payload = 1 := by
      have hlength := congrArg List.length hlist
      rw [List.length_map, List.length_range] at hlength
      exact hlength.symm
    let m : FragmentedMessage := ⟨l.source, fragId, i.msgType, i.payload, hfrag⟩
    have hone : m.count = 1 := hcount
    have hdata : l.data = fragmentPacket (m.fragment 0).toBytes := by
      rw [hcount] at hlist
      exact (List.cons.inj hlist).1
    have hlive := hs.live l.occasion.instant
    have hcharge : s.fragmentReassembly.Unknown l.source →
        s.chargeFragment (m.fragment 0) m.source l.occasion.instant =
          s.rateLimiter.allow l.source.ip l.occasion.instant := by
      intro hunknown
      exact if_neg (Bool.eq_false_iff.mp (hunknown fragId))
    rcases collectFragment_cases (m := m) hs (hone ▸ one_pos) l.occasion.instant l.order with
      ⟨hrefused, hcollect⟩ | ⟨hallowed, t, out, hcollect, hout⟩
    · refine ⟨_, none, receiveHandshake_fragment hdata hcollect, rfl, .inl rfl, ?_⟩
      intro hunknown
      rw [hcharge hunknown] at hrefused
      rw [hrefused]
      rfl
    · refine ⟨_, _, receiveHandshake_fragment hdata hcollect, rfl, ?_, ?_⟩
      · rcases out_of_single hone hlive hout with rfl | rfl
        · exact .inl rfl
        · exact .inr rfl
      · intro hunknown
        have hadmits := m.defaults_admit.1
        rw [length_bodies, ← hconfig] at hadmits
        rw [hcharge hunknown] at hallowed
        rw [out_of_single_unknown hone hout hadmits
          (Reassembly.lookup_live_none (hunknown.lookup fragId)), hallowed]
        rfl

end ControlServer

/-! ### Direct and relayed -/

namespace InitContext
variable {S : InitContext} {userStore : Option S.backend.State} {init : HandshakeInit} {addr : SocketAddr} {now : Nat}

theorem checkCredentials_of_addr (h : (S.checkCredentials userStore init addr now).2 = true) (addr' : SocketAddr) :
    (S.checkCredentials userStore init addr' now).2 = !S.lockedOut userStore init addr'.ip now := by
  cases userStore with
  | none => rfl
  | some store =>
    obtain ⟨keypair, blob, creds, hkeypair, hblob, hcreds, -, hverify⟩ := checkCredentials_accepted h
    simp only [checkCredentials, lockedOut, hkeypair, hblob, hcreds, AuthBackend.authenticateCredentials]
    cases S.backend.checkLockout store creds.username addr'.ip now with
    | true => rfl
    | false =>
      generalize S.backend.verifyPassword store creds.username creds.password now = r at hverify ⊢
      obtain ⟨store', result⟩ := r
      obtain rfl : result = .ok true := hverify
      rfl

end InitContext

theorem VpnServer.admits_of_addr {S : InitContext} {server : VpnServer S} {data : Bytes} {addr : SocketAddr}
    {o : InitOccasion} {init : HandshakeInit} (h : server.admits data addr o = some init) (addr' : SocketAddr) :
    server.admits data addr' o =
      if S.lockedOut server.userStore init addr'.ip o.instant then none else some init := by
  obtain ⟨hopen, hlevel, hfresh, haccepted⟩ := admits_eq_some.mp h
  have hthere := InitContext.checkCredentials_of_addr haccepted addr'
  split
  case isTrue hlocked =>
      rw [hlocked] at hthere
      cases hadmits : server.admits data addr' o with
      | none => rfl
      | some init' =>
        obtain ⟨hopen', -, -, haccepted'⟩ := admits_eq_some.mp hadmits
        cases hopen.symm.trans hopen'
        cases hthere.symm.trans haccepted'
  case isFalse hfree =>
      rw [Bool.eq_false_of_not_eq_true hfree] at hthere
      exact admits_eq_some.mpr ⟨hopen, hlevel, hfresh, hthere⟩

namespace ControlServer
variable {S : InitContext} {s : ControlServer S} {l : Leg} {i : InitPayload} {cut : Option UInt32}

theorem answered_eq {s₁ : ControlServer S} (h : s₁.toVpnServer = s.toVpnServer) (packet : Bytes) (source : SocketAddr)
    (o : InitOccasion) :
    ((answered s₁ (some packet) source o).1.sessions, (answered s₁ (some packet) source o).2) =
      match s.toVpnServer.admits packet source o with
      | none => (s.sessions, [])
      | some init => s.sessions.establish S init source o := by
  rw [← h]
  exact VpnServer.handleHandshakeInit_eq ..

theorem serve_singleton (s : ControlServer S) (l : Leg) : s.serve [l] = s.receiveHandshake l := by
  rw [serve]
  cases s.receiveHandshake l with
  | error e => rfl
  | ok r =>
    exact congrArg (fun queued => Except.ok (r.1, queued)) (List.append_nil r.2)

theorem completed_single (hr : s.fragmentReassembly.Reachable .serverDefault) (hone : i.datagrams cut = .ok [l.data])
    {s' : ControlServer S} {queued : List OutboundResponse} (hserve : s.serve [l] = .ok (s', queued))
    (hcompleted : s.sessions.Completed s'.sessions l.source queued) :
    ∃ init, s.toVpnServer.admits i.packet l.source l.occasion = some init ∧
      s.sessions.Completed (s.sessions.establish S init l.source l.occasion).1 l.source
        (s.sessions.establish S init l.source l.occasion).2 := by
  obtain ⟨s₁, collected, hreceive, hsame, hcollected, -⟩ := receive_single hr hone
  rw [serve_singleton, hreceive] at hserve
  have hpair := (Except.ok.inj hserve).symm
  have hsessions' : s'.sessions = (answered s₁ collected l.source l.occasion).1.sessions :=
    congrArg (fun r => r.1.sessions) hpair
  have hqueued' : queued = (answered s₁ collected l.source l.occasion).2 := congrArg Prod.snd hpair
  rw [hsessions', hqueued'] at hcompleted
  rcases hcollected with rfl | rfl
  · have hsessions : s₁.sessions = s.sessions := congrArg VpnServer.sessions hsame
    exact absurd hcompleted
      (not_completed_of_sessions fun k => congrArg (fun m => m.sessions.lookup k) hsessions)
  · obtain ⟨hsessions, hqueued⟩ := Prod.mk.inj (answered_eq hsame i.packet l.source l.occasion)
    rw [hsessions, hqueued] at hcompleted
    cases hadmits : s.toVpnServer.admits i.packet l.source l.occasion with
    | none =>
      rw [hadmits] at hcompleted
      exact absurd hcompleted (not_completed_of_sessions fun _ => rfl)
    | some init =>
      rw [hadmits] at hcompleted
      exact ⟨init, rfl, hcompleted⟩

theorem serve_single (hr : s.fragmentReassembly.Reachable .serverDefault) (hone : i.datagrams cut = .ok [l.data])
    (hunknown : s.fragmentReassembly.Unknown l.source) :
    ∃ s' queued, s.serve [l] = .ok (s', queued) ∧ (s'.sessions, queued) =
      if (s.rateLimiter.allow l.source.ip l.occasion.instant).2 then
        match s.toVpnServer.admits i.packet l.source l.occasion with
        | none => (s.sessions, [])
        | some init => s.sessions.establish S init l.source l.occasion
      else (s.sessions, []) := by
  obtain ⟨s₁, collected, hreceive, hsame, -, hcollected⟩ := receive_single hr hone
  refine ⟨_, _, (serve_singleton s l).trans hreceive, ?_⟩
  rw [hcollected hunknown]
  cases (s.rateLimiter.allow l.source.ip l.occasion.instant).2 with
  | false =>
    have hsessions : s₁.sessions = s.sessions := congrArg VpnServer.sessions hsame
    exact congrArg (fun m => (m, [])) hsessions
  | true => exact answered_eq hsame i.packet l.source l.occasion

end ControlServer

namespace InitPayload
variable {i : InitPayload} {cut : Option UInt32} {datagrams : List Bytes}

theorem datagrams_ne_nil (h : i.datagrams cut = .ok datagrams) : datagrams ≠ [] := by
  cases cut with
  | none =>
    cases h
    exact List.cons_ne_nil _ _
  | some fragId =>
    obtain ⟨hfrag, rfl⟩ := datagrams_some h
    have hpos := hfrag.fragmentCount_pos
    rw [Ne, List.map_eq_nil_iff, List.range_eq_nil]
    omega

theorem fragments_of_datagrams (h : i.datagrams cut = .ok datagrams) (hmany : 2 ≤ datagrams.length) :
    ∃ fragId, Fragmentable i.msgType i.payload ∧ 2 ≤ fragmentCount i.payload ∧
      ∀ d ∈ datagrams, ∃ index < fragmentCount i.payload,
        d = fragmentPacket (fragmentAt i.msgType fragId i.payload index).toBytes := by
  cases cut with
  | none =>
    cases h
    exact absurd hmany (lt_irrefl 1)
  | some fragId =>
    obtain ⟨hfrag, rfl⟩ := datagrams_some h
    rw [List.length_map, List.length_range] at hmany
    refine ⟨fragId, hfrag, hmany, ?_⟩
    intro d hd
    obtain ⟨index, hindex, rfl⟩ := List.mem_map.mp hd
    exact ⟨index, List.mem_range.mp hindex, rfl⟩

end InitPayload

namespace Relay
variable {S : InitContext} {s : ControlServer S} {relay : RelayServer} {context : HandshakeForwardContext}
  {accrue : Accrual} {clientAddr : SocketAddr} {legs : List Leg} {init : InitPayload} {cut : Option UInt32}
  {datagrams : List Bytes}

theorem not_worksThrough_of_many (hs : s.fragmentReassembly.Sound) (hdatagrams : init.datagrams cut = .ok datagrams)
    (hlegs : (legs.map Leg.data).Perm datagrams) (hmany : 2 ≤ datagrams.length)
    (hsockets : (legs.map Leg.source).Nodup) (hunknown : ∀ l ∈ legs, s.fragmentReassembly.Unknown l.source)
    (hforwards : relay.forwardAll accrue context.bufferSize clientAddr legs = legs) :
    ¬WorksThrough context accrue relay s clientAddr legs := by
  obtain ⟨fragId, hfrag, hcount, hfragments⟩ := InitPayload.fragments_of_datagrams hdatagrams hmany
  obtain ⟨s₁, hserve, hsame⟩ := serve_scattered hfrag hcount fragId legs s hs hunknown hsockets
    fun l hl => hfragments l.data (hlegs.mem_iff.mp (List.mem_map_of_mem hl))
  rintro ⟨s', queued, hserve', l, -, hcompleted, -⟩
  rw [hforwards, hserve] at hserve'
  cases Except.ok.inj hserve'
  have hsessions : s₁.sessions = s.sessions := congrArg VpnServer.sessions hsame
  exact not_completed_of_sessions (fun k => by rw [hsessions]) hcompleted

theorem task_forwards {m m' : HpnVpn.SessionManager} {addr : SocketAddr} {queued : List OutboundResponse}
    (h : m.Completed m' addr queued) (context : HandshakeForwardContext) (clientAddr : SocketAddr) (start : Nat)
    (sessions : SessionManager) (ds : List TaskDatagram)
    (hprompt : ∀ d ∈ ds, HandshakeTask.TaskDatagram.Prompt start d)
    (hperm : (ds.map TaskDatagram.data).Perm (queued.map OutboundResponse.data)) :
    ∃ sessions', (HandshakeTask.start context clientAddr start).run sessions ds =
      .ok (sessions', none, ds.map TaskDatagram.data) := by
  obtain ⟨_, _, _, _, response, fragId, packets, -, -, -, hpackets, rfl⟩ := h
  rw [List.map_map] at hperm
  have hsame : packets.map (OutboundResponse.data ∘ fun packet => ⟨addr, packet⟩) = packets := List.map_id packets
  rw [hsame] at hperm
  obtain ⟨message, hsource, htype, hpayload, rfl⟩ := HandshakeResponse.packets_eq hpackets context.upstreamAddr
  have hne : ds ≠ [] := by
    rintro rfl
    have hempty := hperm.symm.eq_nil
    exact bodies_ne_nil (List.map_eq_nil_iff.mp hempty)
  have hid : HandshakeResponse.sessionIdFromBytes message.payload = .ok response.sessionId := by
    rw [hpayload]
    exact response.sessionIdFromBytes_toBytes
  obtain ⟨last, -, hrun⟩ := HandshakeTask.Waits.run htype hid ds (.start context clientAddr start) []
    ⟨hsource.symm, rfl, message.collecting_new start⟩ sessions hprompt hne hperm
  exact ⟨_, hrun⟩

/-- An init that completes directly completes through the relay just if it is one datagram and the relay's address is
not held against it. -/
theorem relayed_handshake_iff (hr : s.fragmentReassembly.Reachable .serverDefault)
    (hdatagrams : init.datagrams cut = .ok datagrams) (hlegs : (legs.map Leg.data).Perm datagrams)
    (hsockets : (legs.map Leg.source).Nodup) (hunknown : ∀ l ∈ legs, s.fragmentReassembly.Unknown l.source)
    (hforwards : relay.forwardAll accrue context.bufferSize clientAddr legs = legs)
    (hdirect : s.WorksDirectly clientAddr legs) :
    WorksThrough context accrue relay s clientAddr legs ↔
      datagrams.length = 1 ∧ ∀ l ∈ legs, (s.rateLimiter.allow l.source.ip l.occasion.instant).2 = true ∧
        ∀ i, S.openInit init.packet = some i → S.lockedOut s.userStore i l.source.ip l.occasion.instant = false := by
  by_cases hlength : datagrams.length = 1
  case neg =>
    have hpos := List.length_pos_iff.mpr (InitPayload.datagrams_ne_nil hdatagrams)
    have hmany : 2 ≤ datagrams.length := by omega
    have hnot := not_worksThrough_of_many hr.sound.2 hdatagrams hlegs hmany hsockets hunknown hforwards
    exact iff_of_false hnot fun hone => hlength hone.1
  obtain ⟨d, rfl⟩ := List.length_eq_one_iff.mp hlength
  obtain ⟨l, rfl, rfl⟩ := List.map_eq_singleton_iff.mp (List.perm_singleton.mp hlegs)
  -- what the direct run says of the init
  obtain ⟨s₀, queued₀, hserve₀, hcompleted₀⟩ := hdirect
  obtain ⟨i, hadmits₀, hcompleted₀⟩ :=
    completed_single (l := { l with source := clientAddr }) hr hdatagrams hserve₀ hcompleted₀
  have hopen := (VpnServer.admits_eq_some.mp hadmits₀).1
  have hadmits := VpnServer.admits_of_addr hadmits₀ l.source
  obtain ⟨s₁, queued₁, hserve₁, heffect⟩ :=
    serve_single hr hdatagrams (hunknown l List.mem_cons_self)
  rw [hadmits] at heffect
  rw [List.forall_mem_singleton]
  constructor
  · rintro ⟨s', queued, hserve, l', hl', hcompleted, -⟩
    obtain rfl := List.mem_singleton.mp hl'
    rw [hforwards, hserve₁] at hserve
    cases Except.ok.inj hserve
    have hchanged : (s₁.sessions, queued₁) ≠ (s.sessions, []) := by
      intro heq
      have hsessions : s₁.sessions = s.sessions := congrArg Prod.fst heq
      exact not_completed_of_sessions (fun k => by rw [hsessions]) hcompleted
    cases hallowed : (s.rateLimiter.allow l'.source.ip l'.occasion.instant).2 with
    | false =>
      rw [hallowed] at heffect
      exact absurd heffect hchanged
    | true =>
      refine ⟨rfl, rfl, ?_⟩
      intro i' hopen'
      cases hopen.symm.trans hopen'
      rw [hallowed] at heffect
      by_contra hlocked
      rw [if_pos (Bool.eq_true_of_not_eq_false hlocked)] at heffect
      exact hchanged heffect
  · rintro ⟨-, hallowed, hfree⟩
    rw [hallowed, hfree i hopen] at heffect
    have hsessions : s₁.sessions = (s.sessions.establish S i l.source l.occasion).1 := congrArg Prod.fst heffect
    have hqueued : queued₁ = (s.sessions.establish S i l.source l.occasion).2 := congrArg Prod.snd heffect
    have hcompleted := hcompleted₀.of_addr l.source
    refine ⟨s₁, queued₁, hforwards.symm ▸ hserve₁, l, List.mem_cons_self, ?_, ?_⟩
    · rw [hsessions, hqueued]
      exact hcompleted
    · intro start sessions ds hprompt hperm
      rw [hqueued] at hperm
      exact task_forwards hcompleted context clientAddr start sessions ds hprompt hperm

end Relay

namespace RelaySample
open AtomicitySample InitSample
open ForeignSample (home)

def clientInit : InitPayload := ⟨.handshakeInit, InitSample.init.toBytes, .inl rfl⟩

def server : ControlServer (context 2) := ⟨AtomicitySample.server 2, .new 0, .new .serverDefault⟩

def relay : Relay.RelayServer := .new ⟨300000, 1000, none, none, none, none, none⟩ 0

def forwardContext : Relay.HandshakeForwardContext := ⟨.v4 (Block.replicate 4 3) 51820, 2048, by decide⟩

def leg (port : UInt16) (data : Bytes) : Leg := ⟨data, 0, .v4 (Block.replicate 4 7) port, occasion, .first⟩

def accrue : Accrual := fun _ _ => 0

theorem completed_init :
    manager.Completed (manager.establish (context 2) InitSample.init home occasion).1
      home (manager.establish (context 2) InitSample.init home occasion).2 := by
  obtain ⟨response, keys, hok⟩ := answer_isOk.mpr (answers_init 2)
  have hledger : manager.Ledger := SessionManager.IsNew.ledger (.ipv4 ..)
  rcases (hledger.establish_iff hok rfl).mpr completes_init with hsame | hcompleted
  · have hlookup := hsame.sessions 42
    have hsome : ((manager.establish (context 2) init home occasion).1.sessions.lookup
        42).isSome = true := by decide +kernel
    rw [hlookup] at hsome
    exact absurd hsome (by decide)
  · exact hcompleted

theorem worksDirectly_of_serve {s : ControlServer (context 2)} {legs : List Leg}
    (hsame : s.toVpnServer = server.toVpnServer)
    (hserve : server.serve (legs.map fun l => { l with source := home }) =
      .ok (s.answered (some clientInit.packet) home occasion)) :
    server.WorksDirectly home legs := by
  have hadmits : server.toVpnServer.admits clientInit.packet home occasion = some init :=
    admits_packet 2
  have hpair := answered_eq hsame clientInit.packet home occasion
  rw [hadmits] at hpair
  generalize s.answered (some clientInit.packet) home occasion = r at hserve hpair
  have hsessions := congrArg Prod.fst hpair
  have hqueued := congrArg Prod.snd hpair
  dsimp only at hsessions hqueued
  refine ⟨r.1, r.2, hserve, ?_⟩
  rw [hsessions, hqueued]
  exact completed_init

def fragment (index : Nat) : Bytes := fragmentPacket (fragmentAt .handshakeInit 7 clientInit.payload index).toBytes

theorem fragment_eq (index : Nat) :
    fragment index = fragmentPacket (fragmentAt .handshakeInit 7 clientInit.payload index).toBytes := rfl

def fragmentLegs : List Leg := [leg 40000 (fragment 0), leg 40001 (fragment 1)]

theorem send_fragments : clientInit.send 7 = .ok [fragment 0, fragment 1] := by decide +kernel

theorem reachable_server : server.fragmentReassembly.Reachable .serverDefault := ⟨[], _, rfl, rfl⟩

theorem unknown_server (source : SocketAddr) : server.fragmentReassembly.Unknown source := fun _ => rfl

theorem forwardAll_fragmentLegs :
    relay.forwardAll accrue forwardContext.bufferSize home fragmentLegs = fragmentLegs := by
  have hshort : ∀ l ∈ fragmentLegs, l.data.length ≤ forwardContext.bufferSize := by decide +kernel
  apply (Relay.RelayServer.forwardAll_sublist accrue home fragmentLegs hshort relay).eq_of_length
  decide +kernel

theorem worksDirectly_fragmentLegs : server.WorksDirectly home fragmentLegs := by
  have hs := reachable_server.sound.2
  obtain ⟨s₁, first, hfirst, hsame₁, hs₁⟩ :=
    collect_ok hs (.handshakeFragment (fragment 0) home) 0 .first
  obtain ⟨s₂, second, hsecond, hsame₂, -⟩ :=
    collect_ok hs₁ (.handshakeFragment (fragment 1) home) 0 .first
  have hcollected : (do
      let (s, first) ← server.collect (.handshakeFragment (fragment 0) home) 0 .first
      let (_, second) ← s.collect (.handshakeFragment (fragment 1) home) 0 .first
      return (first, second)) = .ok (none, some clientInit.packet) := by decide +kernel
  rw [hfirst, ok_bind] at hcollected
  dsimp only at hcollected
  rw [hsecond] at hcollected
  cases Except.ok.inj hcollected
  apply worksDirectly_of_serve (hsame₂.trans hsame₁)
  rw [ControlServer.collect] at hfirst hsecond
  have hreceive₁ := receiveHandshake_fragment
    (l := { leg 40000 (fragment 0) with source := home }) (fragment_eq 0) hfirst
  have hreceive₂ := receiveHandshake_fragment
    (l := { leg 40001 (fragment 1) with source := home }) (fragment_eq 1) hsecond
  rw [fragmentLegs, List.map_cons, serve_cons hreceive₁, List.map_singleton,
    serve_singleton, hreceive₂]
  rfl

/-- The client's init completes when it is sent to the server, and is lost through the relay. -/
theorem fragmented_init_lost :
    clientInit.send 7 = .ok (fragmentLegs.map Leg.data) ∧
      relay.forwardAll accrue forwardContext.bufferSize home fragmentLegs = fragmentLegs ∧
      server.WorksDirectly home fragmentLegs ∧
      ¬Relay.WorksThrough forwardContext accrue relay server home fragmentLegs := by
  refine ⟨send_fragments, forwardAll_fragmentLegs, worksDirectly_fragmentLegs, ?_⟩
  apply Relay.not_worksThrough_of_many reachable_server.sound.2 send_fragments (.refl _)
  · exact le_rfl
  · decide
  · exact fun l _ => unknown_server l.source
  · exact forwardAll_fragmentLegs

def packetLegs : List Leg := [leg 40000 clientInit.packet]

theorem relayed_handshake_iff_packet :
    server.WorksDirectly home packetLegs ∧
      Relay.WorksThrough forwardContext accrue relay server home packetLegs := by
  have hforwards : relay.forwardAll accrue forwardContext.bufferSize home packetLegs = packetLegs := by
    have hshort : ∀ l ∈ packetLegs, l.data.length ≤ forwardContext.bufferSize := by decide +kernel
    apply (Relay.RelayServer.forwardAll_sublist accrue home packetLegs hshort relay).eq_of_length
    decide +kernel
  have hone : clientInit.datagrams none = .ok [clientInit.packet] := rfl
  have hdirect : server.WorksDirectly home packetLegs := by
    obtain ⟨s₁, collected, hreceive, hsame, -, hcollected⟩ := receive_single
      (l := { leg 40000 clientInit.packet with source := home }) reachable_server hone
    have hallowed : (server.rateLimiter.allow home.ip 0).2 = true := by decide
    have hpacket := (hcollected (unknown_server _)).trans (if_pos hallowed)
    rw [hpacket] at hreceive
    exact worksDirectly_of_serve hsame ((serve_singleton ..).trans hreceive)
  have hlegs : (packetLegs.map Leg.data).Perm [clientInit.packet] := by
    rw [packetLegs, List.map_singleton, leg]
  refine ⟨hdirect, (Relay.relayed_handshake_iff reachable_server hone hlegs (by decide)
    (fun l _ => unknown_server l.source) hforwards hdirect).mpr ⟨rfl, ?_⟩⟩
  intro l hl
  obtain rfl := List.mem_singleton.mp hl
  exact ⟨by decide, fun _ _ => rfl⟩

end RelaySample

end HpnVpn
