import HpnVpn.ControlPath

/-! What handshakes in fragments cost at the limiter: a token for each fragment without an entry, asked for before old
entries are forgotten. -/
namespace HpnVpn
open Wire Tables Slots Runs

namespace Reassembly

/-- Inserting the fragment opens an entry, or completes a message of a single fragment. -/
def opens (r : Reassembly) (source : SocketAddr) (f : HandshakeFragment) (now : Nat) : Bool :=
  match r.purgeExpired now with
  | .error _ => false
  | .ok r => r.config.Admits f.fragTotal && !r.contains source f.fragId

def heldFor (t : Table FragmentKey Entry) (network : IpAddr) : Finset FragmentKey :=
  t.keys.toFinset.filter fun key => rateLimitKey key.1.ip = network

variable {r : Reassembly} {source : SocketAddr} {f : HandshakeFragment} {now : Nat} {order : Chooser FragmentKey}
  {t t' : Table FragmentKey Entry} {out : Option (MessageType × Bytes)} {network : IpAddr} {key : FragmentKey}

theorem mem_heldFor : key ∈ heldFor t network ↔ (t.lookup key).isSome ∧ rateLimitKey key.1.ip = network := by
  rw [heldFor, Finset.mem_filter, List.mem_toFinset, ← AList.mem_keys, AList.lookup_isSome]

theorem heldFor_mono (h : ∀ key e, t.lookup key = some e → t'.lookup key = some e) :
    heldFor t network ⊆ heldFor t' network := by
  intro key hkey
  obtain ⟨hsome, hnetwork⟩ := mem_heldFor.mp hkey
  obtain ⟨e, he⟩ := Option.isSome_iff_exists.mp hsome
  exact mem_heldFor.mpr ⟨Option.isSome_of_eq_some (h key e he), hnetwork⟩

theorem heldFor_erase_subset (t : Table FragmentKey Entry) (key : FragmentKey) (network : IpAddr) :
    heldFor (t.erase key) network ⊆ (heldFor t network).erase key := by
  intro k hk
  obtain ⟨hsome, hnetwork⟩ := mem_heldFor.mp hk
  by_cases hne : k = key
  · rw [hne, AList.lookup_erase] at hsome
    cases hsome
  · rw [AList.lookup_erase_ne hne] at hsome
    exact Finset.mem_erase.mpr ⟨hne, mem_heldFor.mpr ⟨hsome, hnetwork⟩⟩

variable {held : Finset FragmentKey}

theorem heldFor_insert_subset {e : Entry} (h : heldFor t network ⊆ held)
    (hkey : rateLimitKey key.1.ip = network → key ∈ held) : heldFor (t.insert key e) network ⊆ held := by
  intro k hk
  obtain ⟨hsome, hnetwork⟩ := mem_heldFor.mp hk
  by_cases hne : k = key
  · rw [hne] at hnetwork ⊢
    exact hkey hnetwork
  · rw [AList.lookup_insert_ne hne] at hsome
    exact h (mem_heldFor.mpr ⟨hsome, hnetwork⟩)

theorem card_add_one_le {held' : Finset FragmentKey} (hmem : key ∈ held) (h : held' ⊆ held.erase key) :
    held'.card + 1 ≤ held.card := by
  calc held'.card + 1 ≤ (held.erase key).card + 1 := Nat.add_le_add_right (Finset.card_le_card h) 1
    _ = held.card := Finset.card_erase_add_one hmem

theorem opens_eq (h : r.Sound) : r.opens source f now = true ↔
    r.config.Admits f.fragTotal ∧ (r.live now).lookup (source, f.fragId) = none := by
  rw [opens, h.purgeExpired now]
  rw [Bool.and_eq_true, decide_eq_true_eq, Bool.not_eq_true', contains, Option.isSome_eq_false_iff,
    Option.isNone_iff_eq_none]
  rfl

theorem heldFor_subset (hout : Outcome (r.withEntries (r.live now)) (source, f.fragId) f now order t out)
    (h : r.Sound) (hlive : heldFor (r.live now) network ⊆ held)
    (hkey : rateLimitKey source.ip = network → (source, f.fragId) ∈ held) : heldFor t network ⊆ held := by
  have hcaps : ∀ {t}, (r.withEntries (r.live now)).enforceCapsForNewEntry order =
      .ok ((r.withEntries (r.live now)).withEntries t) → heldFor t network ⊆ held := by
    intro t hcaps
    obtain ⟨-, -, hsub⟩ := (h.live now).of_enforceCaps hcaps
    exact (heldFor_mono hsub).trans hlive
  cases hout with
  | refused => exact hlive
  | contradicted => exact (heldFor_erase_subset _ _ _).trans ((Finset.erase_subset _ _).trans hlive)
  | duplicate => exact hlive
  | stored => exact heldFor_insert_subset hlive hkey
  | completed => exact (heldFor_erase_subset _ _ _).trans ((Finset.erase_subset _ _).trans hlive)
  | opened _ _ hroom => exact heldFor_insert_subset (hcaps hroom) hkey
  | single _ _ hroom => exact hcaps hroom

theorem heldFor_subset_erase (hout : Outcome (r.withEntries (r.live now)) (source, f.fragId) f now order t out)
    (h : r.Sound) (hsome : out.isSome) :
    heldFor t network ⊆ (heldFor (r.live now) network).erase (source, f.fragId) := by
  cases hout with
  | refused => cases hsome
  | contradicted => cases hsome
  | duplicate => cases hsome
  | stored => cases hsome
  | completed => exact heldFor_erase_subset _ _ _
  | opened => cases hsome
  | single _ hnone hcaps =>
    obtain ⟨-, -, hsub⟩ := (h.live now).of_enforceCaps hcaps
    have hnotMem : (source, f.fragId) ∉ heldFor (r.live now) network := by
      intro hmem
      have hisSome := (mem_heldFor.mp hmem).1
      rw [show (r.live now).lookup (source, f.fragId) = none from hnone] at hisSome
      cases hisSome
    rw [Finset.erase_eq_of_notMem hnotMem]
    exact heldFor_mono hsub

theorem held_insert_le (hout : Outcome (r.withEntries (r.live now)) (source, f.fragId) f now order t out)
    (h : r.Sound) (network : IpAddr) :
    (heldFor t network).card + (if out.isSome ∧ rateLimitKey source.ip = network then 1 else 0) ≤
      (heldFor r.entries network).card +
        if (!r.contains source f.fragId) = true ∧ rateLimitKey source.ip = network then 1 else 0 := by
  have hlive : heldFor (r.live now) network ⊆ heldFor r.entries network :=
    heldFor_mono fun key e he => (lookup_live.mp he).1
  by_cases hnetwork : rateLimitKey source.ip = network
  · cases hsome : out.isSome with
    | false =>
      rw [if_neg (by simp)]
      cases hcontains : r.contains source f.fragId with
      | false =>
        rw [if_pos ⟨rfl, hnetwork⟩]
        have hsub := heldFor_subset hout h (hlive.trans (Finset.subset_insert (source, f.fragId) _))
          fun _ => Finset.mem_insert_self _ _
        exact (Finset.card_le_card hsub).trans (Finset.card_insert_le _ _)
      | true =>
        rw [if_neg (by simp)]
        exact Finset.card_le_card (heldFor_subset hout h hlive fun _ => mem_heldFor.mpr ⟨hcontains, hnetwork⟩)
    | true =>
      rw [if_pos ⟨rfl, hnetwork⟩]
      have hsub := (heldFor_subset_erase hout h hsome).trans (Finset.erase_subset_erase (source, f.fragId) hlive)
      cases hcontains : r.contains source f.fragId with
      | false =>
        rw [if_pos ⟨rfl, hnetwork⟩]
        exact Nat.add_le_add_right (Finset.card_le_card (hsub.trans (Finset.erase_subset _ _))) 1
      | true =>
        rw [if_neg (by simp)]
        exact card_add_one_le (mem_heldFor.mpr ⟨hcontains, hnetwork⟩) hsub
  · have hsub := heldFor_subset hout h hlive fun heq => absurd heq hnetwork
    rw [if_neg fun h => hnetwork h.2, if_neg fun h => hnetwork h.2]
    exact Finset.card_le_card hsub

end Reassembly

/-! ### The handler -/

structure FragmentDatagram where
  data : Bytes
  addr : SocketAddr
  occasion : InitOccasion
  order : Chooser FragmentKey

namespace FragmentDatagram

variable (d : FragmentDatagram)

def fragment : Option HandshakeFragment :=
  match PacketHeader.decode d.data with
  | .error _ => none
  | .ok header =>
    if header.msgType ≠ .handshakeFragment then none
    else (HandshakeFragment.fromBytes (d.data.drop headerSize)).toOption

def network : IpAddr := rateLimitKey d.addr.ip

end FragmentDatagram

namespace ControlServer
variable {S : InitContext} {s : ControlServer S} {d : FragmentDatagram}

def charges (s : ControlServer S) (d : FragmentDatagram) : Bool :=
  d.fragment.any fun f =>
    !s.fragmentReassembly.contains d.addr f.fragId && (s.rateLimiter.allow d.addr.ip d.occasion.instant).2

/-- The datagram passes the limiter and opens an entry, or completes a message of a single fragment. -/
def opens (s : ControlServer S) (d : FragmentDatagram) : Bool :=
  d.fragment.any fun f =>
    (s.chargeFragment f d.addr d.occasion.instant).2 && s.fragmentReassembly.opens d.addr f d.occasion.instant

/-- The datagram completes a message, which is then handled as an init. -/
def completes (s : ControlServer S) (d : FragmentDatagram) : Bool :=
  match s.collectFragment d.data d.addr d.occasion.instant d.order with
  | .ok (_, some _) => true
  | _ => false

theorem chargeFragment_snd (s : ControlServer S) (f : HandshakeFragment) (addr : SocketAddr) (now : Nat) :
    (s.chargeFragment f addr now).2 =
      (s.fragmentReassembly.contains addr f.fragId || (s.rateLimiter.allow addr.ip now).2) := by
  unfold chargeFragment
  cases s.fragmentReassembly.contains addr f.fragId with
  | false => rfl
  | true => rfl

theorem collectFragment_outcome (h : s.fragmentReassembly.Sound) (d : FragmentDatagram) :
    (s.charges d = false ∧ s.opens d = false ∧
      ∃ s', s.collectFragment d.data d.addr d.occasion.instant d.order = .ok (s', none) ∧
        s'.fragmentReassembly = s.fragmentReassembly) ∨
    ∃ f t out, d.fragment = some f ∧ f.WellFormed ∧
      (s.charges d = !s.fragmentReassembly.contains d.addr f.fragId) ∧
      (s.opens d = s.fragmentReassembly.opens d.addr f d.occasion.instant) ∧
      (∃ s' packet, s.collectFragment d.data d.addr d.occasion.instant d.order = .ok (s', packet) ∧
        packet.isSome = out.isSome ∧ s'.fragmentReassembly = s.fragmentReassembly.withEntries t) ∧
      Reassembly.Outcome
        (s.fragmentReassembly.withEntries (s.fragmentReassembly.live d.occasion.instant)) (d.addr, f.fragId) f
        d.occasion.instant d.order t out := by
  unfold charges opens collectFragment FragmentDatagram.fragment
  cases hdecode : PacketHeader.decode d.data with
  | error e => exact .inl ⟨rfl, rfl, s, rfl, rfl⟩
  | ok header =>
    dsimp only
    by_cases htype : header.msgType ≠ .handshakeFragment
    · rw [if_pos htype, if_pos htype]
      exact .inl ⟨rfl, rfl, s, rfl, rfl⟩
    rw [if_neg htype, if_neg htype]
    cases hparse : HandshakeFragment.fromBytes (d.data.drop headerSize) with
    | error e => exact .inl ⟨rfl, rfl, s, rfl, rfl⟩
    | ok f =>
      have hf : f.WellFormed := (HandshakeFragment.fromBytes_eq_ok.mp hparse).1
      dsimp only [Except.toOption, Option.any_some]
      have hpass := s.chargeFragment_snd f d.addr d.occasion.instant
      generalize hcontains : s.fragmentReassembly.contains d.addr f.fragId = contains at hpass ⊢
      generalize (s.rateLimiter.allow d.addr.ip d.occasion.instant).2 = granted at hpass ⊢
      generalize s.chargeFragment f d.addr d.occasion.instant = charge at hpass ⊢
      obtain ⟨rateLimiter, passes⟩ := charge
      obtain rfl : passes = (contains || granted) := hpass
      cases hpasses : contains || granted with
      | false =>
        obtain ⟨rfl, rfl⟩ := Bool.or_eq_false_iff.mp hpasses
        exact .inl ⟨rfl, rfl, _, rfl, rfl⟩
      | true =>
        have hcharges : (!contains && granted) = !contains := by
          cases contains with
          | false => exact hpasses
          | true => rfl
        obtain ⟨t, out, hinsert, hout⟩ := h.insert_outcome d.addr hf d.occasion.instant d.order
        refine .inr ⟨f, t, out, rfl, hf, hcharges.trans (congrArg not hcontains.symm), rfl, ?_, hout⟩
        rw [if_neg (by simp), hinsert, ok_bind]
        exact ⟨_, _, rfl, Option.isSome_map, rfl⟩

end ControlServer

/-! ### Runs -/

/-- The server, with the bucket of every token granted and message completed, newest first. -/
structure FragmentRun (S : InitContext) where
  server : ControlServer S
  charged : List IpAddr
  completed : List IpAddr

namespace FragmentRun
variable {S : InitContext} {r : FragmentRun S} {d : FragmentDatagram}

def start (s : ControlServer S) (config : ReassemblerConfig) : FragmentRun S :=
  ⟨{ s with fragmentReassembly := .new config }, [], []⟩

def step (r : FragmentRun S) (d : FragmentDatagram) : Except ReassemblyPanic (FragmentRun S) := do
  let (server, _) ← r.server.handleHandshakeFragmentInternal d.data d.addr d.occasion d.order
  return ⟨server, if r.server.charges d then d.network :: r.charged else r.charged,
    if r.server.completes d then d.network :: r.completed else r.completed⟩

/-- Opening an entry, or completing a message at once, is paid for with a token. -/
def Pays (r : FragmentRun S) (d : FragmentDatagram) : Prop := r.server.opens d = true → r.server.charges d = true

instance (r : FragmentRun S) (d : FragmentDatagram) : Decidable (r.Pays d) := inferInstanceAs (Decidable (_ → _))

/-- The entry that a fragment of an acceptable message finds under its key is not too old. -/
def Unexpired (r : FragmentRun S) (d : FragmentDatagram) : Prop :=
  ∀ f e, d.fragment = some f → r.server.fragmentReassembly.config.Admits f.fragTotal →
    r.server.fragmentReassembly.entries.lookup (d.addr, f.fragId) = some e →
    e.isExpired r.server.fragmentReassembly.config.ttl d.occasion.instant = false

/-- No network completed more messages than it was charged for. -/
def Covered (r : FragmentRun S) : Prop := ∀ network, r.completed.count network ≤ r.charged.count network

structure Sound (r : FragmentRun S) : Prop where
  buffer : r.server.fragmentReassembly.Sound
  covered : ∀ network, (Reassembly.heldFor r.server.fragmentReassembly.entries network).card +
    r.completed.count network ≤ r.charged.count network

theorem Sound.covers (h : r.Sound) : r.Covered := fun network => (Nat.le_add_left _ _).trans (h.covered network)

theorem sound_start (s : ControlServer S) (config : ReassemblerConfig) : (start s config).Sound where
  buffer := Reassembly.sound_new config
  covered := fun _ => le_rfl

theorem Sound.pays_iff (h : r.Sound) (d : FragmentDatagram) : r.Pays d ↔ r.Unexpired d := by
  unfold Pays Unexpired ControlServer.opens ControlServer.charges
  cases d.fragment with
  | none => exact ⟨fun _ _ _ hf => (nomatch hf), fun _ hopens => (nomatch hopens)⟩
  | some f =>
    rw [Option.any_some, Option.any_some, ControlServer.chargeFragment_snd]
    cases hlookup : r.server.fragmentReassembly.entries.lookup (d.addr, f.fragId) with
    | none =>
      have hcontains : r.server.fragmentReassembly.contains d.addr f.fragId = false := by
        rw [Reassembly.contains, hlookup]
        rfl
      rw [hcontains]
      constructor
      · rintro - _ _ ⟨⟩ - he
        exact absurd (hlookup.symm.trans he) (Option.some_ne_none _).symm
      · intro _ hopens
        exact (Bool.and_eq_true_iff.mp hopens).1
    | some e =>
      have hcontains : r.server.fragmentReassembly.contains d.addr f.fragId = true := by
        rw [Reassembly.contains, hlookup]
        rfl
      have hexpired : (r.server.fragmentReassembly.live d.occasion.instant).lookup (d.addr, f.fragId) = none ↔
          e.isExpired r.server.fragmentReassembly.config.ttl d.occasion.instant = true := by
        rw [Reassembly.live, lookup_retain, hlookup, Option.filter_eq_none_iff]
        simp
      rw [hcontains, Bool.true_or, Bool.true_and, Reassembly.opens_eq h.buffer, hexpired]
      constructor
      · rintro hpays _ _ ⟨⟩ hadmits he
        cases hlookup.symm.trans he
        exact Bool.eq_false_of_not_eq_true fun htrue => Bool.noConfusion (hpays ⟨hadmits, htrue⟩)
      · rintro hunexpired ⟨hadmits, htrue⟩
        exact absurd ((hunexpired f e rfl hadmits hlookup).symm.trans htrue) Bool.false_ne_true

theorem step_eq {s' : ControlServer S} {packet : Option Bytes}
    (h : r.server.collectFragment d.data d.addr d.occasion.instant d.order = .ok (s', packet)) :
    ∃ server, server.fragmentReassembly = s'.fragmentReassembly ∧
      r.step d = .ok ⟨server, if r.server.charges d then d.network :: r.charged else r.charged,
        if packet.isSome then d.network :: r.completed else r.completed⟩ := by
  have hcompletes : r.server.completes d = packet.isSome := by
    rw [ControlServer.completes, h]
    cases packet with
    | none => rfl
    | some packet => rfl
  unfold step ControlServer.handleHandshakeFragmentInternal
  rw [h, hcompletes]
  cases packet with
  | none => exact ⟨s', rfl, rfl⟩
  | some packet => exact ⟨(s'.handleHandshakeInitInternalPrechecked packet d.addr d.occasion).1, rfl, rfl⟩

theorem count_consIf (network network' : IpAddr) (b : Bool) (log : List IpAddr) :
    (if b then network' :: log else log).count network =
      log.count network + if b = true ∧ network' = network then 1 else 0 := by
  cases b with
  | false => simp
  | true => simp [List.count_cons]

theorem Sound.step (h : r.Sound) (d : FragmentDatagram) : OkAnd Sound (r.step d) := by
  obtain ⟨hcharges, -, s', hcollect, hbuffer⟩ |
    ⟨f, t, out, -, hf, hcharges, -, ⟨s', packet, hcollect, hpacket, hbuffer⟩, hout⟩ :=
    ControlServer.collectFragment_outcome h.buffer d
  · obtain ⟨server, hserver, hstep⟩ := step_eq hcollect
    rw [hstep, hcharges]
    refine ⟨_, rfl, ?_, ?_⟩
    · exact hserver ▸ hbuffer ▸ h.buffer
    · intro network
      rw [hserver, hbuffer]
      exact h.covered network
  · obtain ⟨server, hserver, hstep⟩ := step_eq hcollect
    rw [hstep, hcharges, hpacket]
    refine ⟨_, rfl, ?_, ?_⟩
    · rw [hserver, hbuffer]
      exact (h.buffer.live d.occasion.instant).outcome hf hout
    · intro network
      have hheld := Reassembly.held_insert_le hout h.buffer network
      have hcovered := h.covered network
      rw [hserver, hbuffer, count_consIf, count_consIf, FragmentDatagram.network]
      dsimp only [Reassembly.withEntries]
      omega

/-- No bucket completes more messages than it pays for; every opening is paid for just if no fragment finds an entry
that is too old. -/
theorem fragments_paid_iff_unexpired (s : ControlServer S) (config : ReassemblerConfig)
    (datagrams : List FragmentDatagram) :
    (Meets (WhenOk Pays) (unlessFailed step) (.ok (start s config)) datagrams ∧
      OkAnd Covered (exec (unlessFailed step) (.ok (start s config)) datagrams)) ↔
    Meets (WhenOk Unexpired) (unlessFailed step) (.ok (start s config)) datagrams := by
  have hinv : ∀ (run : Except ReassemblyPanic (FragmentRun S)) d, OkAnd Sound run →
      OkAnd Sound (unlessFailed step run d) := by
    rintro _ d ⟨r, rfl, hr⟩
    exact hr.step d
  have hiff : ∀ (run : Except ReassemblyPanic (FragmentRun S)) d, OkAnd Sound run →
      (WhenOk Pays run d ↔ WhenOk Unexpired run d) := by
    rintro _ d ⟨r, rfl, hr⟩
    exact hr.pays_iff d
  have hstart : OkAnd Sound (Except.ok (start s config) : Except ReassemblyPanic (FragmentRun S)) :=
    ⟨_, rfl, sound_start s config⟩
  rw [meets_congr hinv hiff datagrams (.ok (start s config)) hstart]
  obtain ⟨r, hr, hsound⟩ := exec_invariant hinv datagrams (.ok (start s config)) hstart
  exact ⟨And.left, fun h => ⟨h, r, hr, hsound.covers⟩⟩

end FragmentRun

namespace FragmentChargeSample
open AtomicitySample InitSample

def source : SocketAddr := .v4 (.fit 4 [203, 0, 113, 7]) 40000

def server : ControlServer (context 2) := ⟨AtomicitySample.server 2, .new 0, .new .serverDefault⟩

def first : HandshakeFragment where
  innerMsgType := .handshakeInit
  fragId := 7
  fragIndex := 0
  fragTotal := 2
  payload := [1, 2, 3]

def datagram (instant : Nat) : FragmentDatagram where
  data := (PacketHeader.new .handshakeFragment 0 0 0).toBytes ++ first.toBytes
  addr := source
  occasion := { occasion with instant }
  order := .first

/-- Sent again after six seconds, when its entry is too old, the fragment opens another one for free. -/
theorem reopened_without_token :
    ¬Meets (WhenOk FragmentRun.Pays) (unlessFailed FragmentRun.step) (.ok (FragmentRun.start server .serverDefault))
      [datagram 0, datagram 6000000000] := by
  decide +kernel

end FragmentChargeSample

end HpnVpn
