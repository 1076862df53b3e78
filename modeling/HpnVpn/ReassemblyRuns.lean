import HpnVpn.Reassembly
import HpnVpn.Runs

/-! The reassembly buffer over runs: no assertion fails and the bookkeeping is exact; the cap on all bytes is kept in
every run just if the other bounds of the configuration already keep it. -/
namespace HpnVpn
open Wire Tables Slots Runs Reassembly

/-- The payload of a datagram that carries a fragment, when it arrives, and what the hash map does with it. -/
structure FragmentArrival where
  source : SocketAddr
  body : Bytes
  now : Nat
  order : Chooser FragmentKey

/-- The buffer, the fragments inserted and the messages completed. -/
structure ReassemblyRun where
  reassembly : Reassembly
  inserted : List (SocketAddr × HandshakeFragment)
  completions : List (FragmentKey × (MessageType × Bytes))

namespace ReassemblyRun

def start (config : ReassemblerConfig) : ReassemblyRun := ⟨.new config, [], []⟩

variable (run : ReassemblyRun)

def record (r : Reassembly) (source : SocketAddr) (f : HandshakeFragment)
    (out : Option (MessageType × Bytes)) : ReassemblyRun where
  reassembly := r
  inserted := run.inserted ++ [(source, f)]
  completions := run.completions ++ (out.map ((source, f.fragId), ·)).toList

def step (a : FragmentArrival) : Except ReassemblyPanic ReassemblyRun :=
  match HandshakeFragment.fromBytes a.body with
  | .error _ => return run
  | .ok f => do
    let (r, out) ← run.reassembly.insert a.source f a.now a.order
    return run.record r a.source f out

def receive (config : ReassemblerConfig) (arrivals : List FragmentArrival) : Except ReassemblyPanic ReassemblyRun :=
  exec (unlessFailed step) (.ok (start config)) arrivals

def Sent (key : FragmentKey) (innerMsgType : MessageType) (fragTotal : UInt16) (index : Nat)
    (payload : Bytes) : Prop :=
  (key.1, HandshakeFragment.mk innerMsgType key.2 (UInt16.ofNat index) fragTotal payload) ∈ run.inserted

/-- The message is made of chunks that were inserted under one key as parts of one message. -/
def Unmixed (key : FragmentKey) (message : MessageType × Bytes) : Prop :=
  ∃ (fragTotal : UInt16) (pieces : List Bytes), pieces.length = fragTotal.toNat ∧ message.2 = pieces.flatten ∧
    ∀ i chunk, pieces[i]? = some chunk → run.Sent key message.1 fragTotal i chunk

structure Sound (config : ReassemblerConfig) (run : ReassemblyRun) : Prop where
  config_eq : run.reassembly.config = config
  reassembly : run.reassembly.Sound
  sent : Reassembly.Chunks run.Sent run.reassembly.entries
  unmixed : ∀ key message, (key, message) ∈ run.completions → run.Unmixed key message

theorem sound_start (config : ReassemblerConfig) : Sound config (start config) where
  config_eq := rfl
  reassembly := sound_new config
  sent _ _ _ _ h := nomatch h
  unmixed _ _ h := absurd h List.not_mem_nil

theorem Unmixed.mono {run run' : ReassemblyRun} {key : FragmentKey} {message : MessageType × Bytes}
    (h : run.Unmixed key message) (hinserted : ∀ x ∈ run.inserted, x ∈ run'.inserted) :
    run'.Unmixed key message := by
  obtain ⟨n, pieces, hlength, hpayload, hsent⟩ := h
  exact ⟨n, pieces, hlength, hpayload, fun i chunk hchunk => hinserted _ (hsent i chunk hchunk)⟩

theorem Sound.record {config : ReassemblerConfig} {run : ReassemblyRun} (h : Sound config run) {source : SocketAddr}
    {f : HandshakeFragment} {now : Nat} {order : Chooser FragmentKey} {t : Table FragmentKey Entry}
    {out : Option (MessageType × Bytes)} (hf : f.WellFormed)
    (hout : (run.reassembly.withEntries (run.reassembly.live now)).Outcome (source, f.fragId) f now order t out) :
    Sound config (run.record (run.reassembly.withEntries t) source f out) := by
  have hlive := h.reassembly.live now
  have hinserted : ∀ x ∈ run.inserted, x ∈ run.inserted ++ [(source, f)] := fun x => List.mem_append_left _
  have hnew : (run.record (run.reassembly.withEntries t) source f out).Sent (source, f.fragId) f.innerMsgType
      f.fragTotal f.fragIndex.toNat f.payload := by
    rw [Sent, UInt16.ofNat_toNat]
    exact List.mem_append_right _ List.mem_cons_self
  have hsent : Reassembly.Chunks (run.record (run.reassembly.withEntries t) source f out).Sent
      (run.reassembly.live now) := (h.sent.live now).mono (hinserted _)
  refine ⟨h.config_eq, hlive.outcome hf hout, hsent.outcome hlive hnew hout, ?_⟩
  intro key message hmem
  rcases List.mem_append.mp hmem with hold | hnow
  · exact (h.unmixed key message hold).mono hinserted
  · obtain ⟨message', rfl, heq⟩ := Option.map_eq_some_iff.mp (Option.mem_toList.mp hnow)
    cases heq
    obtain ⟨-, pieces, hlength, hpayload, hpieces⟩ := hsent.message hlive hf hnew hout
    exact ⟨f.fragTotal, pieces, hlength, hpayload, hpieces⟩

theorem Sound.step {config : ReassemblerConfig} (run : ReassemblyRun) (a : FragmentArrival) (h : Sound config run) :
    OkAnd (Sound config) (run.step a) := by
  unfold ReassemblyRun.step
  cases hparse : HandshakeFragment.fromBytes a.body with
  | error => exact ⟨run, rfl, h⟩
  | ok f =>
    have hf : f.WellFormed := (HandshakeFragment.fromBytes_eq_ok.mp hparse).1
    obtain ⟨t, out, hinsert, hout⟩ := h.reassembly.insert_outcome a.source hf a.now a.order
    dsimp only
    rw [hinsert, ok_bind]
    exact ⟨_, rfl, h.record hf hout⟩

/-- Whatever arrives, no assertion fails, the counters are right, the entries keep to their bound and no message mixes
parts of different ones. -/
theorem receive_sound (config : ReassemblerConfig) (hentries : 1 ≤ config.maxEntries)
    (arrivals : List FragmentArrival) :
    ∃ run, receive config arrivals = .ok run ∧
      run.reassembly.totalBytes = total (fun e => size List.length e.chunks) run.reassembly.entries ∧
      (∀ key e, run.reassembly.entries.lookup key = some e →
        e.receivedCount.toNat = filled e.chunks ∧ e.receivedCount < e.fragTotal) ∧
      run.reassembly.len ≤ config.maxEntries ∧
      ∀ key message, (key, message) ∈ run.completions → run.Unmixed key message := by
  obtain ⟨run, hrun, h⟩ := exec_ok_invariant Sound.step arrivals (start config) (sound_start config)
  refine ⟨run, hrun, ?_, ?_, ?_, h.unmixed⟩
  · rw [h.reassembly.bytes]
    exact total_congr fun key e he => (h.reassembly.entry he).bytes
  · intro key e he
    have hentry := h.reassembly.entry he
    refine ⟨hentry.received, UInt16.lt_iff_toNat_lt.mpr ?_⟩
    rw [hentry.received]
    exact hentry.incomplete
  · have hlen := h.reassembly.len_le
    rwa [h.config_eq, Nat.max_eq_left hentries] at hlen

end ReassemblyRun

/-! ### The cap on all bytes -/

namespace ReassemblerConfig

/-- The most fragments a message may have. -/
def maxFragments (config : ReassemblerConfig) : Nat :=
  min (min maxFragmentsPerHandshake config.maxFragmentsPerEntry.toNat) (config.maxEntryBytes / maxFragmentPayload)

/-- As many entries as there may be, each one fragment short of its message, are within the cap. -/
def Roomy (config : ReassemblerConfig) : Prop :=
  max config.maxEntries 1 * ((config.maxFragments - 1) * maxFragmentPayload) ≤ config.maxTotalBytes

instance (config : ReassemblerConfig) : Decidable config.Roomy :=
  inferInstanceAs (Decidable (_ ≤ _))

theorem admits_iff {config : ReassemblerConfig} {n : UInt16} :
    config.Admits n ↔ n ≠ 0 ∧ n.toNat ≤ config.maxFragments := by
  rw [Admits, maxFragments, le_min_iff, le_min_iff, UInt16.le_iff_toNat_le, Nat.le_div_iff_mul_le (by decide), and_assoc]

end ReassemblerConfig

namespace Reassembly
variable {r : Reassembly} {key : FragmentKey} {f : HandshakeFragment} {now : Nat} {order : Chooser FragmentKey}
  {t : Table FragmentKey Entry} {out : Option (MessageType × Bytes)} {e : Entry}

theorem Sound.totalBytes_le (h : r.Sound) :
    r.totalBytes ≤ max r.config.maxEntries 1 * ((r.config.maxFragments - 1) * maxFragmentPayload) := by
  have hentry : ∀ key e, r.entries.lookup key = some e →
      e.totalBytes ≤ (r.config.maxFragments - 1) * maxFragmentPayload := by
    intro key e he
    have hadmitted := (ReassemblerConfig.admits_iff.mp (h.admitted he)).2
    exact (h.entry he).totalBytes_le.trans (Nat.mul_le_mul_right _ (Nat.sub_le_sub_right hadmitted 1))
  rw [h.bytes]
  exact (total_le_mul hentry).trans (Nat.mul_le_mul_right _ h.len_le)

/-! #### A run that fills the buffer

Fragments that all arrive at once extend an entry while one lacks two fragments, and open one otherwise. -/

theorem Sound.live_zero (h : r.Sound) : r.withEntries (r.live 0) = r := by
  have hall : r.live 0 = r.entries := by
    apply AList.ext
    refine List.filter_eq_self.mpr fun entry _ => ?_
    simp [Entry.isExpired]
  rw [hall, ← h.eq_withEntries]

theorem Outcome.eq_store (h : r.Sound) (hout : Outcome r key f now order t out)
    (he : r.entries.lookup key = some e) (hmatches : e.Matches f) (hslot : e.chunks[f.fragIndex.toNat]? = some none)
    (hmore : filled e.chunks + 1 < e.fragTotal.toNat) : t = r.entries.insert key (e.store f) := by
  cases hout with
  | refused hrefused => exact absurd (hmatches.fragTotal ▸ h.admitted he) hrefused
  | contradicted he' hdiffers =>
    cases he.symm.trans he'
    exact absurd hmatches hdiffers
  | duplicate he' _ hslot' =>
    cases he.symm.trans he'
    cases hslot.symm.trans hslot'
  | stored he' =>
    cases he.symm.trans he'
    rfl
  | completed he' _ _ hpieces =>
    cases he.symm.trans he'
    have hfilled := Entry.filled_store hslot
    have hlength : (e.store f).chunks.length = e.fragTotal.toNat := List.length_set.trans (h.entry he).length_eq
    rw [hpieces, filled_map_some] at hfilled
    rw [hpieces, List.length_map] at hlength
    omega
  | opened _ hnone => cases he.symm.trans hnone
  | single _ hnone => cases he.symm.trans hnone

theorem Outcome.eq_open (hout : Outcome r key f now order t out) (hadmits : r.config.Admits f.fragTotal)
    (hnone : r.entries.lookup key = none) (hcaps : r.enforceCapsForNewEntry order = .ok r)
    (hmore : 1 < f.fragTotal.toNat) : t = r.entries.insert key (.ofFragment f now) := by
  cases hout with
  | refused hrefused => exact absurd hadmits hrefused
  | contradicted he | duplicate he | stored he | completed he => cases hnone.symm.trans he
  | opened _ _ hcaps' =>
    have ht := congrArg entries (Except.ok.inj (hcaps.symm.trans hcaps'))
    exact congrArg (AList.insert key (Entry.ofFragment f now)) ht.symm
  | single _ _ _ hone =>
    rw [hone] at hmore
    exact absurd hmore (by decide)

theorem enforceCaps_of_room (hlen : r.len < r.config.maxEntries) (hbytes : r.totalBytes < r.config.maxTotalBytes)
    (order : Chooser FragmentKey) : r.enforceCapsForNewEntry order = .ok r := by
  unfold enforceCapsForNewEntry
  cases r.len with
  | zero => rfl
  | succ rounds => exact if_neg (not_or_intro (not_le.mpr hlen) (not_le.mpr hbytes))

theorem exists_fresh_key (keys : List FragmentKey) (h : keys.length < 2 ^ 64) : ∃ key, key ∉ keys := by
  by_contra hall
  push Not at hall
  let key (i : Nat) : FragmentKey := (.v4 (be32 (UInt32.ofNat (i / 2 ^ 32))) 0, UInt32.ofNat i)
  have hkey : Set.InjOn key (Finset.range (2 ^ 64)) := by
    intro i hi j hj hij
    rw [Finset.coe_range, Set.mem_Iio] at hi hj
    obtain ⟨haddr, hid⟩ := Prod.mk.inj hij
    have hhigh := congrArg UInt32.toNat (be32_injective (SocketAddr.v4.inj haddr).1)
    have hlow := congrArg UInt32.toNat hid
    rw [UInt32.toNat_ofNat', UInt32.toNat_ofNat'] at hhigh hlow
    omega
  have hle : (Finset.range (2 ^ 64)).card ≤ keys.toFinset.card :=
    Finset.card_le_card_of_injOn key (fun i _ => List.mem_toFinset.mpr (hall (key i))) hkey
  rw [Finset.card_range] at hle
  exact absurd (hle.trans (List.toFinset_card_le keys)) (not_le.mpr h)

end Reassembly

namespace ReassemblyRun

/-- The buffer holds `n` fragments of messages of one length, all full but for `short` bytes. -/
structure Filling (config : ReassemblerConfig) (fragTotal : UInt16) (short n : Nat) (run : ReassemblyRun) : Prop where
  sound : Sound config run
  uniform : ∀ {key e}, run.reassembly.entries.lookup key = some e →
    e.fragTotal = fragTotal ∧ e.innerMsgType = .handshakeInit
  count : total (fun e => filled e.chunks) run.reassembly.entries = n
  bytes : run.reassembly.totalBytes + short = n * maxFragmentPayload

def piece (key : FragmentKey) (fragTotal : UInt16) (index length : Nat) : HandshakeFragment :=
  ⟨.handshakeInit, key.2, UInt16.ofNat index, fragTotal, List.replicate length 0⟩

variable {config : ReassemblerConfig} {run : ReassemblyRun} {fragTotal : UInt16} {short n : Nat} {key : FragmentKey}
  {index length : Nat}

theorem toNat_index (h : index < fragTotal.toNat) : (UInt16.ofNat index).toNat = index :=
  UInt16.toNat_ofNat_of_lt' (h.trans fragTotal.toNat_lt)

theorem wellFormed_piece (hadmits : config.Admits fragTotal) (hindex : index < fragTotal.toNat)
    (hlength : length ≤ maxFragmentPayload) : (piece key fragTotal index length).WellFormed where
  innerMsgType := rfl
  fragTotal_le := hadmits.2.1
  fragIndex_lt := UInt16.lt_iff_toNat_lt.mpr ((toNat_index hindex).trans_lt hindex)
  payload_le := List.length_replicate.trans_le hlength

theorem Sound.step_piece (h : Sound config run) (hf : (piece key fragTotal index length).WellFormed) :
    ∃ a run' t out, run.step a = .ok run' ∧ Sound config run' ∧ run'.reassembly = run.reassembly.withEntries t ∧
      run.reassembly.Outcome key (piece key fragTotal index length) 0 .first t out := by
  obtain ⟨t, out, hinsert, hout⟩ := h.reassembly.insert_outcome key.1 hf 0 .first
  refine ⟨⟨key.1, (piece key fragTotal index length).toBytes, 0, .first⟩,
    run.record (run.reassembly.withEntries t) key.1 (piece key fragTotal index length) out, t, out, ?_,
    h.record hf hout, rfl, h.reassembly.live_zero ▸ hout⟩
  rw [ReassemblyRun.step, HandshakeFragment.fromBytes_toBytes hf]
  dsimp only
  rw [hinsert]
  rfl

/-- Where an entry is opened the buffer is either empty or has room for one. -/
theorem Sound.fill_open (h : Sound config run) (hadmits : config.Admits fragTotal) (hmore : 1 < fragTotal.toNat)
    (huniform : ∀ {key e}, run.reassembly.entries.lookup key = some e →
      e.fragTotal = fragTotal ∧ e.innerMsgType = .handshakeInit)
    (hnone : run.reassembly.entries.lookup key = none)
    (hcaps : run.reassembly.enforceCapsForNewEntry .first = .ok run.reassembly)
    (hlength : length ≤ maxFragmentPayload)
    (hbytes : run.reassembly.totalBytes + length + short =
      (total (fun e => filled e.chunks) run.reassembly.entries + 1) * maxFragmentPayload) :
    ∃ a run', run.step a = .ok run' ∧
      Filling config fragTotal short (total (fun e => filled e.chunks) run.reassembly.entries + 1) run' := by
  have hf : (piece key fragTotal 0 length).WellFormed := wellFormed_piece hadmits (Nat.zero_lt_of_lt hmore) hlength
  obtain ⟨a, run', t, out, hstep, hsound, hrun', hout⟩ := h.step_piece hf
  obtain rfl := hout.eq_open (h.config_eq.symm ▸ hadmits) hnone hcaps hmore
  refine ⟨a, run', hstep, hsound, ?_, ?_, ?_⟩
  · intro k e he
    rw [hrun'] at he
    rcases lookup_insert_cases he with ⟨-, rfl⟩ | hold
    · exact ⟨rfl, rfl⟩
    · exact huniform hold
  · rw [hrun', Reassembly.withEntries, total_insert, erase_of_lookup hnone, Entry.filled_ofFragment hf]
  · rw [hrun', Reassembly.withEntries, total_insert, erase_of_lookup hnone, ← h.reassembly.bytes, ← hbytes]
    exact congrArg (run.reassembly.totalBytes + · + short) List.length_replicate

theorem Filling.extend (h : Filling config fragTotal short n run) (hadmits : config.Admits fragTotal) {e : Entry}
    (he : run.reassembly.entries.lookup key = some e) (hmore : filled e.chunks + 1 < fragTotal.toNat) :
    ∃ a run', run.step a = .ok run' ∧ Filling config fragTotal short (n + 1) run' := by
  obtain ⟨htotal, htype⟩ := h.uniform he
  have hentry := h.sound.reassembly.entry he
  have hlt : filled e.chunks < e.chunks.length := by
    rw [hentry.length_eq, htotal]
    omega
  obtain ⟨index, hindex, hslot⟩ := exists_empty_of_filled_lt hlt
  rw [hentry.length_eq, htotal] at hindex
  have hf : (piece key fragTotal index maxFragmentPayload).WellFormed := wellFormed_piece hadmits hindex le_rfl
  obtain ⟨a, run', t, out, hstep, hsound, hrun', hout⟩ := h.sound.step_piece hf
  have hslot' : e.chunks[(piece key fragTotal index maxFragmentPayload).fragIndex.toNat]? = some none := by
    rw [piece, toNat_index hindex]
    exact hslot
  obtain rfl := hout.eq_store h.sound.reassembly he ⟨htotal, htype⟩ hslot' (htotal.symm ▸ hmore)
  refine ⟨a, run', hstep, hsound, ?_, ?_, ?_⟩
  · intro k e' he'
    rw [hrun'] at he'
    rcases lookup_insert_cases he' with ⟨-, rfl⟩ | hold
    · exact ⟨htotal, htype⟩
    · exact h.uniform hold
  · rw [hrun', Reassembly.withEntries, total_insert, Entry.filled_store hslot', ← add_assoc,
      total_erase (fun e => filled e.chunks) he, h.count]
  · have hadded : run'.reassembly.totalBytes = run.reassembly.totalBytes + maxFragmentPayload := by
      rw [hrun', Reassembly.withEntries, total_store he, ← h.sound.reassembly.bytes, piece,
        List.length_replicate]
    have hbytes := h.bytes
    rw [hadded, Nat.succ_mul]
    omega

/-- Below the cap and with fewer fragments than the other bounds allow one more is taken. -/
theorem Filling.step (h : Filling config fragTotal short n run) (hadmits : config.Admits fragTotal)
    (hmore : 1 < fragTotal.toNat) (husize : config.maxEntries < 2 ^ 64) (hpos : 0 < n)
    (hn : n < max config.maxEntries 1 * (fragTotal.toNat - 1))
    (hcap : run.reassembly.totalBytes < config.maxTotalBytes) :
    ∃ a run', run.step a = .ok run' ∧ Filling config fragTotal short (n + 1) run' := by
  by_cases hlen : n < run.reassembly.len * (fragTotal.toNat - 1)
  · obtain ⟨key, e, he, hfilled⟩ := exists_lt_of_total_lt (h.count.trans_lt hlen)
    exact h.extend hadmits he (by omega)
  · -- every entry lacks one fragment, so there are fewer entries than there may be
    have hfew : run.reassembly.len < config.maxEntries := by
      have hlt := Nat.lt_of_mul_lt_mul_right ((not_lt.mp hlen).trans_lt hn)
      have hsome : run.reassembly.len ≠ 0 := by
        intro hzero
        have hle : n ≤ 0 * fragTotal.toNat := by
          rw [← hzero, ← h.count]
          exact total_le_mul fun key e he => (h.uniform he).1 ▸ (h.sound.reassembly.entry he).incomplete.le
        omega
      omega
    obtain ⟨key, hkey⟩ := exists_fresh_key run.reassembly.entries.keys (hfew.trans husize)
    have hcaps := enforceCaps_of_room (h.sound.config_eq.symm ▸ hfew) (h.sound.config_eq.symm ▸ hcap) .first
    have hbytes : run.reassembly.totalBytes + maxFragmentPayload + short =
        (total (fun e => filled e.chunks) run.reassembly.entries + 1) * maxFragmentPayload := by
      have hbytes := h.bytes
      rw [h.count, Nat.succ_mul]
      omega
    obtain ⟨a, run', hstep, hfilling⟩ := h.sound.fill_open hadmits hmore h.uniform (AList.lookup_eq_none.mpr hkey) hcaps
      le_rfl hbytes
    exact ⟨a, run', hstep, h.count ▸ hfilling⟩

def Kept (config : ReassemblerConfig) : Prop :=
  ∀ arrivals run, receive config arrivals = .ok run → run.reassembly.totalBytes ≤ config.maxTotalBytes

theorem receive_append {arrivals : List FragmentArrival} {a : FragmentArrival} {run' : ReassemblyRun}
    (h : receive config arrivals = .ok run) (hstep : run.step a = .ok run') :
    receive config (arrivals ++ [a]) = .ok run' := by
  rw [receive, exec_append]
  exact (congrArg (unlessFailed ReassemblyRun.step · a) h).trans hstep

/-- One byte is left out if need be, so that the bytes held are never just the cap. -/
theorem exists_filling (hkept : Kept config) (hadmits : config.Admits fragTotal) (hmore : 1 < fragTotal.toNat)
    (husize : config.maxEntries < 2 ^ 64) (hshort : short ≤ maxFragmentPayload)
    (hmiss : ∀ n, n * maxFragmentPayload ≠ config.maxTotalBytes + short)
    (n : Nat) (hn : n < max config.maxEntries 1 * (fragTotal.toNat - 1)) :
    ∃ arrivals run, receive config arrivals = .ok run ∧ Filling config fragTotal short (n + 1) run := by
  induction n with
  | zero =>
    have hbytes : (start config).reassembly.totalBytes + (maxFragmentPayload - short) + short =
        (0 + 1) * maxFragmentPayload := by
      show 0 + (maxFragmentPayload - short) + short = _
      omega
    have hnone : (start config).reassembly.entries.lookup (.v4 (be32 0) 0, 0) = none := rfl
    obtain ⟨a, run, hstep, hfilling⟩ :=
      (sound_start config).fill_open hadmits hmore nofun hnone rfl (Nat.sub_le _ _) hbytes
    exact ⟨[a], run, hstep, hfilling⟩
  | succ n ih =>
    obtain ⟨arrivals, run, hrun, hfilling⟩ := ih (Nat.lt_of_succ_lt hn)
    have hcap : run.reassembly.totalBytes < config.maxTotalBytes := by
      have hle := hkept arrivals run hrun
      have hne := hmiss (n + 1)
      rw [← hfilling.bytes] at hne
      omega
    obtain ⟨a, run', hstep, hnext⟩ := hfilling.step hadmits hmore husize n.succ_pos hn hcap
    exact ⟨arrivals ++ [a], run', receive_append hrun hstep, hnext⟩

theorem roomy_of_kept (hkept : Kept config) (husize : config.maxEntries < 2 ^ 64) : config.Roomy := by
  unfold ReassemblerConfig.Roomy
  by_cases hmore : 1 < config.maxFragments
  case neg =>
    rw [Nat.sub_eq_zero_of_le (not_lt.mp hmore), Nat.zero_mul, Nat.mul_zero]
    exact Nat.zero_le _
  obtain ⟨fragTotal, htotal⟩ : ∃ fragTotal : UInt16, fragTotal.toNat = config.maxFragments := by
    have hfew : config.maxFragments ≤ maxFragmentsPerHandshake := (min_le_left _ _).trans (min_le_left _ _)
    exact ⟨_, UInt16.toNat_ofNat_of_lt' (hfew.trans_lt (by decide))⟩
  have hadmits : config.Admits fragTotal := by
    refine ReassemblerConfig.admits_iff.mpr ⟨?_, htotal.le⟩
    rintro rfl
    exact absurd (htotal.symm ▸ hmore) (by decide)
  rw [← htotal] at hmore ⊢
  obtain ⟨short, hshort, hmiss⟩ : ∃ short ≤ 1, ∀ n, n * maxFragmentPayload ≠ config.maxTotalBytes + short := by
    by_cases hdvd : maxFragmentPayload ∣ config.maxTotalBytes
    · refine ⟨1, le_rfl, fun n hn => ?_⟩
      have hone := (Nat.dvd_add_right hdvd).mp (hn ▸ Dvd.intro_left n rfl)
      exact absurd (Nat.le_of_dvd Nat.one_pos hone) (by decide)
    · exact ⟨0, Nat.zero_le _, fun n hn => hdvd (Dvd.intro_left n hn)⟩
  have hpos : 0 < max config.maxEntries 1 * (fragTotal.toNat - 1) :=
    Nat.mul_pos (Nat.lt_of_lt_of_le Nat.one_pos (le_max_right _ _)) (Nat.sub_pos_of_lt hmore)
  obtain ⟨arrivals, run, hrun, hfull⟩ := exists_filling hkept hadmits hmore husize
    (hshort.trans (by decide)) hmiss _ (Nat.sub_lt hpos Nat.one_pos)
  have hle := hkept arrivals run hrun
  have hbytes := hfull.bytes
  have hne := hmiss (max config.maxEntries 1 * (fragTotal.toNat - 1))
  rw [Nat.sub_add_cancel hpos] at hbytes
  rw [← Nat.mul_assoc]
  omega

/-- The bytes held are within the cap after every insert of every run just if the bounds on entries and fragments
alone keep them there.  The number of entries is a machine word. -/
theorem cap_kept_iff_roomy (config : ReassemblerConfig) (husize : config.maxEntries < 2 ^ 64) :
    (∀ arrivals run, receive config arrivals = .ok run → run.reassembly.totalBytes ≤ config.maxTotalBytes) ↔
      config.Roomy := by
  refine ⟨fun hkept => roomy_of_kept hkept husize, ?_⟩
  intro hroomy arrivals run hrun
  obtain ⟨run', hrun', h⟩ := exec_ok_invariant Sound.step arrivals (start config) (sound_start config)
  cases hrun.symm.trans hrun'
  have hle := h.reassembly.totalBytes_le
  rw [h.config_eq] at hle
  exact hle.trans hroomy

end ReassemblyRun

namespace ReassemblySample
open ReassemblyRun

def home : SocketAddr := .v4 (Block.replicate 4 9) 4433

def arrival (fragIndex fragTotal : UInt16) (length now : Nat) : FragmentArrival where
  source := home
  body := HandshakeFragment.toBytes ⟨.handshakeInit, 7, fragIndex, fragTotal, List.replicate length 0⟩
  now := now
  order := .first

def contradictory : List FragmentArrival :=
  [arrival 0 2 10 0, arrival 1 3 10 1, arrival 0 2 10 2, arrival 1 2 5 3, arrival 1 2 5 (6 * 10 ^ 9)]

theorem receive_sound_contradictory :
    1 ≤ ReassemblerConfig.clientDefault.maxEntries ∧ ∃ run, receive .clientDefault contradictory = .ok run ∧
      run.reassembly.totalBytes = total (fun e => size List.length e.chunks) run.reassembly.entries ∧
      run.reassembly.len ≤ 4 := by
  have hentries : 1 ≤ ReassemblerConfig.clientDefault.maxEntries := by decide
  obtain ⟨run, hrun, hbytes, -, hlen, -⟩ := receive_sound .clientDefault hentries contradictory
  exact ⟨hentries, run, hrun, hbytes, hlen⟩

def tight : ReassemblerConfig where
  maxEntries := 4
  maxTotalBytes := maxFragmentPayload
  maxEntryBytes := 64 * 1024
  maxFragmentsPerEntry := 32
  ttl := 5 * 10 ^ 9

theorem cap_exceeded :
    maxFragmentPayload ≤ tight.maxTotalBytes ∧
      ∃ run, receive tight [arrival 0 3 1165 0, arrival 1 3 1165 1] = .ok run ∧
        tight.maxTotalBytes < run.reassembly.totalBytes := by
  have hrun : (receive tight [arrival 0 3 1165 0, arrival 1 3 1165 1]).toOption.map (·.reassembly.totalBytes) =
      some 2330 := by decide +kernel
  obtain ⟨run, hok, hbytes⟩ := Option.map_eq_some_iff.mp hrun
  refine ⟨le_rfl, run, toOption_eq_some.mp hok, ?_⟩
  rw [hbytes]
  decide

/-- The client's bounds keep its cap in every run; with the server's there is a run that exceeds it. -/
theorem cap_kept_iff_roomy_defaults :
    (∀ arrivals run, receive .clientDefault arrivals = .ok run → run.reassembly.totalBytes ≤ 256 * 1024) ∧
      ∃ arrivals run, receive .serverDefault arrivals = .ok run ∧ 16 * 1024 * 1024 < run.reassembly.totalBytes := by
  refine ⟨(cap_kept_iff_roomy .clientDefault (by decide)).mpr (by decide), ?_⟩
  by_contra hkept
  push Not at hkept
  exact absurd ((cap_kept_iff_roomy .serverDefault (by decide)).mp hkept) (by decide)

end ReassemblySample

end HpnVpn
