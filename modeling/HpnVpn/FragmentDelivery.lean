import HpnVpn.ReassemblyRuns

/-! From a message through its fragments and the reassembly buffer back, in any order, repeated, and among fragments
of others. -/
namespace HpnVpn
open Wire Tables Slots Runs

def FragmentArrival.key? (a : FragmentArrival) : Option FragmentKey :=
  (HandshakeFragment.fromBytes a.body).toOption.map fun f => (a.source, f.fragId)

theorem FragmentArrival.key?_eq_some {a : FragmentArrival} {key : FragmentKey} :
    a.key? = some key ↔ ∃ f, HandshakeFragment.fromBytes a.body = .ok f ∧ (a.source, f.fragId) = key := by
  simp only [FragmentArrival.key?, Option.map_eq_some_iff, toOption_eq_some]

structure FragmentedMessage where
  source : SocketAddr
  fragId : UInt32
  innerMsgType : MessageType
  payload : Bytes
  fragmentable : Fragmentable innerMsgType payload

namespace FragmentedMessage
variable (m : FragmentedMessage)

def key : FragmentKey := (m.source, m.fragId)

def count : Nat := fragmentCount m.payload

def fragment (index : Nat) : HandshakeFragment := fragmentAt m.innerMsgType m.fragId m.payload index

def bodies : List Bytes := (List.range m.count).map fun index => (m.fragment index).toBytes

/-- The bodies that arrive under the message's key. -/
def own (arrivals : List FragmentArrival) : List Bytes :=
  (arrivals.filter fun a => a.key? = some m.key).map (·.body)

/-- What arrives under the message's key is one of its fragments. -/
def Alone (a : FragmentArrival) : Prop := a.key? = some m.key → a.body ∈ m.bodies

instance (a : FragmentArrival) : Decidable (m.Alone a) := inferInstanceAs (Decidable (_ → _))

theorem build_eq : buildHandshakeFragments m.innerMsgType m.fragId m.payload = .ok m.bodies :=
  m.fragmentable.buildHandshakeFragments_eq m.fragId

variable {m}

variable {index : Nat}

theorem fromBytes_toBytes (h : index < m.count) :
    HandshakeFragment.fromBytes (m.fragment index).toBytes = .ok (m.fragment index) :=
  HandshakeFragment.fromBytes_toBytes (m.fragmentable.wellFormed m.fragId h)

theorem wellFormed (h : index < m.count) : (m.fragment index).WellFormed :=
  m.fragmentable.wellFormed m.fragId h

theorem toNat_fragIndex (h : index < m.count) : (m.fragment index).fragIndex.toNat = index :=
  m.fragmentable.toNat_index h

theorem toNat_fragTotal (index : Nat) : (m.fragment index).fragTotal.toNat = m.count :=
  m.fragmentable.toNat_count

theorem toBytes_inj {i j : Nat} (hi : i < m.count) (hj : j < m.count)
    (h : (m.fragment i).toBytes = (m.fragment j).toBytes) : i = j := by
  have hfragment : m.fragment i = m.fragment j :=
    Except.ok.inj ((fromBytes_toBytes hi).symm.trans (h ▸ fromBytes_toBytes hj))
  rw [← toNat_fragIndex hi, hfragment, toNat_fragIndex hj]

variable {a : FragmentArrival} {f : HandshakeFragment}

theorem Alone.fragment (h : m.Alone a)
    (hparse : HandshakeFragment.fromBytes a.body = .ok f) (hkey : (a.source, f.fragId) = m.key) :
    ∃ index < m.count, f = m.fragment index ∧ a.body = (m.fragment index).toBytes := by
  obtain ⟨index, hindex, hbody⟩ := List.mem_map.mp (h (FragmentArrival.key?_eq_some.mpr ⟨f, hparse, hkey⟩))
  rw [List.mem_range] at hindex
  rw [← hbody, fromBytes_toBytes hindex] at hparse
  exact ⟨index, hindex, (Except.ok.inj hparse).symm, hbody.symm⟩

/-! ### What is reported is the message -/

def Own (m : FragmentedMessage) (key : FragmentKey) (_ : MessageType) (_ : UInt16) (index : Nat) (chunk : Bytes) :
    Prop :=
  key = m.key → chunk = chunkAt m.payload index

structure Faithful (m : FragmentedMessage) (config : ReassemblerConfig) (run : ReassemblyRun) : Prop where
  config_eq : run.reassembly.config = config
  sound : run.reassembly.Sound
  chunks : Reassembly.Chunks m.Own run.reassembly.entries
  completions : ∀ message, (m.key, message) ∈ run.completions → message = (m.innerMsgType, m.payload)

theorem own_new (h : m.Alone a) (hparse : HandshakeFragment.fromBytes a.body = .ok f) :
    m.Own (a.source, f.fragId) f.innerMsgType f.fragTotal f.fragIndex.toNat f.payload := by
  intro hkey
  obtain ⟨index, hindex, rfl, -⟩ := h.fragment hparse hkey
  rw [toNat_fragIndex hindex]
  rfl

theorem message_of_outcome {r : Reassembly} {now : Nat} {order : Chooser FragmentKey} {t : Table FragmentKey Entry}
    (hchunks : Reassembly.Chunks m.Own r.entries) (hs : r.Sound) (hindex : index < m.count)
    {message : MessageType × Bytes}
    (hout : Reassembly.Outcome r m.key (m.fragment index) now order t (some message)) :
    message = (m.innerMsgType, m.payload) := by
  obtain ⟨type, payload⟩ := message
  have hnew : m.Own m.key (m.fragment index).innerMsgType (m.fragment index).fragTotal
      (m.fragment index).fragIndex.toNat (m.fragment index).payload := by
    intro _
    rw [toNat_fragIndex hindex]
    rfl
  obtain ⟨rfl, pieces, hlength, rfl, hpieces⟩ := hchunks.message hs (wellFormed hindex) hnew hout
  rw [toNat_fragTotal] at hlength
  exact Prod.ext rfl (m.fragmentable.flatten_eq hlength fun i chunk hchunk => hpieces i chunk hchunk rfl)

variable {config : ReassemblerConfig}

theorem Faithful.step (run : ReassemblyRun) (a : FragmentArrival)
    (h : m.Faithful config run) (halone : m.Alone a) : OkAnd (m.Faithful config) (run.step a) := by
  unfold ReassemblyRun.step
  cases hparse : HandshakeFragment.fromBytes a.body with
  | error => exact ⟨run, rfl, h⟩
  | ok f =>
    have hf : f.WellFormed := (HandshakeFragment.fromBytes_eq_ok.mp hparse).1
    obtain ⟨t, out, hinsert, hout⟩ := h.sound.insert_outcome a.source hf a.now a.order
    have hlive := h.sound.live a.now
    have hchunks : Reassembly.Chunks m.Own (run.reassembly.live a.now) := h.chunks.live a.now
    dsimp only
    rw [hinsert, ok_bind]
    refine ⟨_, rfl, h.config_eq, hlive.outcome hf hout, hchunks.outcome hlive (own_new halone hparse) hout, ?_⟩
    intro message hmem
    rcases List.mem_append.mp hmem with hold | hnow
    · exact h.completions message hold
    · obtain ⟨message', rfl, heq⟩ := Option.map_eq_some_iff.mp (Option.mem_toList.mp hnow)
      obtain ⟨hkey, rfl⟩ := Prod.mk.inj heq
      obtain ⟨index, hindex, rfl, -⟩ := halone.fragment hparse hkey
      rw [hkey] at hout
      exact message_of_outcome hchunks hlive hindex hout

/-! ### How far the message has come -/

def Holds (m : FragmentedMessage) (seen : List Bytes) : Option Entry → Prop
  | none => ∀ i < m.count, (m.fragment i).toBytes ∉ seen
  | some e => e.Matches (m.fragment 0) ∧ ∀ i < m.count, e.chunks[i]? = some none ↔ (m.fragment i).toBytes ∉ seen

theorem Holds.exists_missing {seen : List Bytes} {e : Entry} (h : m.Holds seen (some e)) (he : e.Sound) :
    ∃ i < m.count, (m.fragment i).toBytes ∉ seen := by
  have hlength : e.chunks.length = m.count := by
    rw [he.length_eq, h.1.fragTotal]
    exact toNat_fragTotal 0
  obtain ⟨i, hi, hempty⟩ := exists_empty_of_filled_lt (he.incomplete.trans_eq he.length_eq.symm)
  rw [hlength] at hi
  exact ⟨i, hi, (h.2 i hi).mp hempty⟩

theorem not_mem_append_iff {seen : List Bytes} {i j : Nat} (hi : i < m.count) (hj : j < m.count) :
    (m.fragment i).toBytes ∉ seen ++ [(m.fragment j).toBytes] ↔ (m.fragment i).toBytes ∉ seen ∧ i ≠ j := by
  rw [List.mem_append, List.mem_singleton, not_or]
  refine and_congr_right fun _ => not_congr ⟨toBytes_inj hi hj, fun h => by rw [h]⟩

theorem getElem?_set_eq_none_iff {slots : List (Option Bytes)} {i j : Nat} {payload : Bytes} :
    (slots.set j (some payload))[i]? = some none ↔ slots[i]? = some none ∧ i ≠ j := by
  by_cases hij : j = i
  · subst hij
    rw [List.getElem?_set_self']
    simp
  · rw [List.getElem?_set_ne hij]
    exact (and_iff_left (Ne.symm hij)).symm

variable {r : Reassembly} {now : Nat} {order : Chooser FragmentKey} {t : Table FragmentKey Entry}
  {out : Option (MessageType × Bytes)} {seen : List Bytes}

theorem collect_own (hs : r.Sound) (hadmits : r.config.Admits (m.fragment 0).fragTotal)
    (hold : m.Holds seen (r.entries.lookup m.key)) (hindex : index < m.count)
    (hout : Reassembly.Outcome r m.key (m.fragment index) now order t out) :
    ((∃ i < m.count, (m.fragment i).toBytes ∉ seen ++ [(m.fragment index).toBytes]) ∧ out = none ∧
        m.Holds (seen ++ [(m.fragment index).toBytes]) (t.lookup m.key)) ∨
      (∀ i < m.count, (m.fragment i).toBytes ∈ seen ++ [(m.fragment index).toBytes]) ∧ out.isSome := by
  have hwf := wellFormed hindex
  -- as long as an entry stays, it is one with an empty slot
  have hleft : ∀ {e}, e.Sound → m.Holds (seen ++ [(m.fragment index).toBytes]) (some e) → out = none →
      t.lookup m.key = some e →
      (∃ i < m.count, (m.fragment i).toBytes ∉ seen ++ [(m.fragment index).toBytes]) ∧ out = none ∧
        m.Holds (seen ++ [(m.fragment index).toBytes]) (t.lookup m.key) :=
    fun he hholds hnone ht => ⟨hholds.exists_missing he, hnone, ht ▸ hholds⟩
  cases hout with
  | refused hrefused => exact absurd hadmits hrefused
  | contradicted he hdiffers =>
    rw [he] at hold
    exact absurd ⟨hold.1.1, hold.1.2⟩ hdiffers
  | duplicate he hmatches hslot =>
    rw [he] at hold
    rw [toNat_fragIndex hindex] at hslot
    refine .inl (hleft (hs.entry he) ⟨hold.1, ?_⟩ rfl he)
    intro i hi
    rw [not_mem_append_iff hi hindex, hold.2 i hi]
    refine ⟨fun hmissing => ⟨hmissing, ?_⟩, And.left⟩
    rintro rfl
    rw [← hold.2 i hi, hslot] at hmissing
    cases hmissing
  | stored he hmatches hslot hmore =>
    rw [he] at hold
    refine .inl (hleft ((hs.entry he).store hwf hslot hmore) ⟨⟨hold.1.1, hold.1.2⟩, ?_⟩ rfl (AList.lookup_insert _))
    intro i hi
    rw [Entry.store, getElem?_set_eq_none_iff, not_mem_append_iff hi hindex, hold.2 i hi, toNat_fragIndex hindex]
  | @completed e pieces he hmatches hslot hpieces =>
    rw [he] at hold
    refine .inr ⟨?_, rfl⟩
    intro i hi
    by_contra hmissing
    rw [not_mem_append_iff hi hindex, ← hold.2 i hi, ← toNat_fragIndex hindex] at hmissing
    have hempty : (e.store (m.fragment index)).chunks[i]? = some none :=
      getElem?_set_eq_none_iff.mpr hmissing
    rw [hpieces, List.getElem?_map, Option.map_eq_some_iff] at hempty
    obtain ⟨_, -, hpiece⟩ := hempty
    cases hpiece
  | opened hadmits hnone hcaps hmore =>
    rw [hnone] at hold
    refine .inl (hleft (Entry.sound_ofFragment hwf now hmore) ⟨⟨rfl, rfl⟩, ?_⟩ rfl (AList.lookup_insert _))
    intro i hi
    rw [Entry.ofFragment, getElem?_set_eq_none_iff, not_mem_append_iff hi hindex, toNat_fragIndex hindex,
      List.getElem?_replicate, toNat_fragTotal, if_pos hi]
    exact and_congr_left fun _ => ⟨fun _ => hold i hi, fun _ => rfl⟩
  | single hadmits hnone hcaps hone =>
    refine .inr ⟨?_, rfl⟩
    intro i hi
    have hcount : m.count = 1 := by
      rw [← toNat_fragTotal index, hone]
      rfl
    obtain rfl : i = index := by omega
    exact List.mem_append_right _ List.mem_cons_self

theorem lookup_of_other {key : FragmentKey} (hs : r.Sound) (hkey : m.key ≠ key)
    (hspared : ∀ e ∈ r.entries.lookup m.key, r.config.Admits f.fragTotal → r.entries.lookup key = none →
      ∀ r' ∈ (r.enforceCapsForNewEntry order).toOption, (r'.entries.lookup m.key).isSome)
    (hout : Reassembly.Outcome r key f now order t out) : t.lookup m.key = r.entries.lookup m.key := by
  have hkept : ∀ {t'}, r.config.Admits f.fragTotal → r.entries.lookup key = none →
      r.enforceCapsForNewEntry order = .ok (r.withEntries t') → t'.lookup m.key = r.entries.lookup m.key := by
    intro t' hadmits hnone hcaps
    cases he : r.entries.lookup m.key with
    | none => exact hs.lookup_of_enforceCaps hcaps he
    | some e =>
      have hsome := hspared e he hadmits hnone _ (toOption_eq_some.mpr hcaps)
      obtain ⟨e', he'⟩ := Option.isSome_iff_exists.mp hsome
      rw [← he]
      exact he'.trans ((hs.of_enforceCaps hcaps).2.2 m.key e' he').symm
  cases hout with
  | refused => rfl
  | contradicted => exact AList.lookup_erase_ne hkey
  | duplicate => rfl
  | stored => exact AList.lookup_insert_ne hkey
  | completed => exact AList.lookup_erase_ne hkey
  | opened hadmits hnone hcaps => exact (AList.lookup_insert_ne hkey).trans (hkept hadmits hnone hcaps)
  | single hadmits hnone hcaps => exact hkept hadmits hnone hcaps

/-! ### The message arrives -/

/-- The entry of the message is not too old when the fragment arrives, and is not evicted for a new entry. -/
def Spares (m : FragmentedMessage) (run : ReassemblyRun) (a : FragmentArrival) : Prop :=
  ∀ e ∈ run.reassembly.entries.lookup m.key, e.isExpired run.reassembly.config.ttl a.now = false ∧
    ∀ f ∈ (HandshakeFragment.fromBytes a.body).toOption, run.reassembly.config.Admits f.fragTotal →
      (run.reassembly.live a.now).lookup (a.source, f.fragId) = none →
      ∀ r ∈ ((run.reassembly.withEntries (run.reassembly.live a.now)).enforceCapsForNewEntry a.order).toOption,
        (r.entries.lookup m.key).isSome

instance (run : ReassemblyRun) (a : FragmentArrival) : Decidable (m.Spares run a) :=
  inferInstanceAs (Decidable (∀ e ∈ run.reassembly.entries.lookup m.key, _))

def mine (m : FragmentedMessage) (run : ReassemblyRun) : List (FragmentKey × (MessageType × Bytes)) :=
  run.completions.filter (·.1 = m.key)

/-- The message is reported once each fragment has arrived, and only once if none arrived twice. -/
structure Progress (m : FragmentedMessage) (seen : List Bytes) (run : ReassemblyRun) : Prop where
  collecting : (∃ b ∈ m.bodies, b ∉ seen) → m.mine run = [] ∧ m.Holds seen (run.reassembly.entries.lookup m.key)
  reported : (∀ b ∈ m.bodies, b ∈ seen) →
    ∃ more, m.mine run = (m.key, (m.innerMsgType, m.payload)) :: more ∧ (seen.Nodup → more = [])

variable {run : ReassemblyRun}

theorem lookup_live_of_spares (h : m.Spares run a) :
    (run.reassembly.live a.now).lookup m.key = run.reassembly.entries.lookup m.key := by
  cases he : run.reassembly.entries.lookup m.key with
  | none =>
    by_contra hsome
    obtain ⟨e, hlive⟩ := Option.ne_none_iff_exists'.mp hsome
    rw [(Reassembly.lookup_live.mp hlive).1] at he
    cases he
  | some e => exact Reassembly.lookup_live.mpr ⟨he, (h e he).1⟩

theorem own_append (before : List FragmentArrival) (a : FragmentArrival) :
    m.own (before ++ [a]) = m.own before ++ if a.key? = some m.key then [a.body] else [] := by
  rw [own, List.filter_append, List.map_append, ← own]
  congr 1
  by_cases hkey : a.key? = some m.key
  all_goals simp [hkey]

theorem mine_record (run : ReassemblyRun) (r : Reassembly) (source : SocketAddr) (f : HandshakeFragment)
    (out : Option (MessageType × Bytes)) :
    m.mine (run.record r source f out) =
      m.mine run ++ if (source, f.fragId) = m.key then (out.map (m.key, ·)).toList else [] := by
  rw [mine, ReassemblyRun.record, List.filter_append, ← mine]
  congr 1
  by_cases hkey : (source, f.fragId) = m.key
  all_goals cases out <;> simp [hkey]

theorem Progress.own_step
    (h : m.Progress seen run) (hfaithful : m.Faithful config run)
    (hadmits : config.Admits (m.fragment 0).fragTotal) (hspares : m.Spares run a)
    (hindex : index < m.count)
    (hout : Reassembly.Outcome (run.reassembly.withEntries (run.reassembly.live a.now)) m.key (m.fragment index) a.now
      a.order t out) :
    m.Progress (seen ++ [(m.fragment index).toBytes])
      (run.record (run.reassembly.withEntries t) m.source (m.fragment index) out) := by
  have hbody : (m.fragment index).toBytes ∈ m.bodies :=
    List.mem_map.mpr ⟨index, List.mem_range.mpr hindex, rfl⟩
  have hmine : m.mine (run.record (run.reassembly.withEntries t) m.source (m.fragment index) out) =
      m.mine run ++ (out.map (m.key, ·)).toList := by
    rw [mine_record]
    exact congrArg _ (if_pos rfl)
  by_cases hmissing : ∃ b ∈ m.bodies, b ∉ seen
  · obtain ⟨hnone, hholds⟩ := h.collecting hmissing
    rw [← lookup_live_of_spares hspares] at hholds
    have hlive := hfaithful.sound.live a.now
    rw [← hfaithful.config_eq] at hadmits
    rcases collect_own hlive hadmits hholds hindex hout with ⟨⟨i, hi, hnot⟩, rfl, hholds'⟩ | ⟨hall, hsome⟩
    · refine ⟨fun _ => ⟨?_, hholds'⟩, fun hall => ?_⟩
      · rw [hmine, hnone]
        rfl
      · exact absurd (hall _ (List.mem_map.mpr ⟨i, List.mem_range.mpr hi, rfl⟩)) hnot
    · obtain ⟨message, rfl⟩ := Option.isSome_iff_exists.mp hsome
      refine ⟨?_, fun _ => ⟨[], ?_, fun _ => rfl⟩⟩
      · rintro ⟨b, hb, hnot⟩
        obtain ⟨i, hi, rfl⟩ := List.mem_map.mp hb
        exact absurd (hall i (List.mem_range.mp hi)) hnot
      · rw [hmine, hnone, message_of_outcome (hfaithful.chunks.live a.now) hlive hindex hout]
        rfl
  · have hseen : (m.fragment index).toBytes ∈ seen := by
      by_contra hnot
      exact hmissing ⟨_, hbody, hnot⟩
    refine ⟨?_, ?_⟩
    · rintro ⟨b, hb, hnot⟩
      exact absurd ⟨b, hb, fun hmem => hnot (List.mem_append_left _ hmem)⟩ hmissing
    · intro _
      have hall : ∀ b ∈ m.bodies, b ∈ seen := fun b hb => by_contra fun hnot => hmissing ⟨b, hb, hnot⟩
      obtain ⟨more, hreported, -⟩ := h.reported hall
      refine ⟨more ++ (out.map (m.key, ·)).toList, by rw [hmine, hreported, List.cons_append], ?_⟩
      intro hnodup
      exact absurd hseen (List.disjoint_right.mp (List.nodup_append'.mp hnodup).2.2 List.mem_cons_self)

theorem Progress.other_step
    (h : m.Progress seen run) (hfaithful : m.Faithful config run) (hspares : m.Spares run a)
    (hparse : HandshakeFragment.fromBytes a.body = .ok f) (hkey : (a.source, f.fragId) ≠ m.key)
    (hout : Reassembly.Outcome (run.reassembly.withEntries (run.reassembly.live a.now)) (a.source, f.fragId) f a.now
      a.order t out) :
    m.Progress seen (run.record (run.reassembly.withEntries t) a.source f out) := by
  have hmine : m.mine (run.record (run.reassembly.withEntries t) a.source f out) = m.mine run := by
    rw [mine_record, if_neg hkey, List.append_nil]
  have hlive := lookup_live_of_spares hspares
  have hlookup : t.lookup m.key = run.reassembly.entries.lookup m.key := by
    rw [← hlive]
    apply lookup_of_other (hfaithful.sound.live a.now) (Ne.symm hkey) ?_ hout
    intro e he hadmits hnone
    exact (hspares e (hlive ▸ he)).2 f (toOption_eq_some.mpr hparse) hadmits hnone
  refine ⟨?_, ?_⟩
  · rw [hmine]
    intro hmissing
    obtain ⟨hnone, hholds⟩ := h.collecting hmissing
    exact ⟨hnone, hlookup ▸ hholds⟩
  · rw [hmine]
    exact h.reported

theorem Progress.step {run' : ReassemblyRun}
    {before : List FragmentArrival} (h : m.Progress (m.own before) run) (hfaithful : m.Faithful config run)
    (hadmits : config.Admits (m.fragment 0).fragTotal) (halone : m.Alone a) (hspares : m.Spares run a)
    (hstep : run.step a = .ok run') : m.Progress (m.own (before ++ [a])) run' := by
  unfold ReassemblyRun.step at hstep
  rw [own_append]
  cases hparse : HandshakeFragment.fromBytes a.body with
  | error =>
    have hkey : a.key? ≠ some m.key := by
      rw [FragmentArrival.key?, hparse]
      exact nofun
    rw [hparse] at hstep
    cases hstep
    rwa [if_neg hkey, List.append_nil]
  | ok f =>
    have hf : f.WellFormed := (HandshakeFragment.fromBytes_eq_ok.mp hparse).1
    obtain ⟨t, out, hinsert, hout⟩ := hfaithful.sound.insert_outcome a.source hf a.now a.order
    rw [hparse] at hstep
    dsimp only at hstep
    rw [hinsert, ok_bind] at hstep
    cases hstep
    by_cases hkey : (a.source, f.fragId) = m.key
    · obtain ⟨index, hindex, rfl, hbody⟩ := halone.fragment hparse hkey
      rw [if_pos (FragmentArrival.key?_eq_some.mpr ⟨_, hparse, hkey⟩), hbody]
      have hsource : a.source = m.source := congrArg Prod.fst hkey
      rw [hkey] at hout
      rw [hsource]
      exact h.own_step hfaithful hadmits hspares hindex hout
    · have hother : a.key? ≠ some m.key := by
        intro heq
        obtain ⟨f', hparse', hkey'⟩ := FragmentArrival.key?_eq_some.mp heq
        cases hparse.symm.trans hparse'
        exact hkey hkey'
      rw [if_neg hother, List.append_nil]
      exact h.other_step hfaithful hspares hparse hkey hout

theorem length_mine_step {run' : ReassemblyRun} (hstep : run.step a = .ok run') :
    (m.mine run').length ≤ (m.mine run).length + 1 := by
  unfold ReassemblyRun.step at hstep
  split at hstep
  · cases hstep
    exact Nat.le_succ _
  · obtain ⟨⟨r, out⟩, -, heq⟩ := bind_ok_iff.mp hstep
    cases heq
    rw [mine_record, List.length_append]
    apply Nat.add_le_add_left
    split
    · cases out with
      | none => exact Nat.zero_le _
      | some => exact le_rfl
    · exact Nat.zero_le _

end FragmentedMessage

def Reassembly.Reachable (config : ReassemblerConfig) (r : Reassembly) : Prop :=
  ∃ arrivals run, ReassemblyRun.receive config arrivals = .ok run ∧ run.reassembly = r

theorem Reassembly.Reachable.sound {config : ReassemblerConfig} {r : Reassembly} (h : r.Reachable config) :
    r.config = config ∧ r.Sound := by
  obtain ⟨arrivals, run, hrun, rfl⟩ := h
  obtain ⟨run', hrun', hsound⟩ := exec_ok_invariant ReassemblyRun.Sound.step arrivals (ReassemblyRun.start config)
    (ReassemblyRun.sound_start config)
  cases hrun.symm.trans hrun'
  exact ⟨hsound.config_eq, hsound.reassembly⟩

def Reassembly.receive (r : Reassembly) (arrivals : List FragmentArrival) : Except ReassemblyPanic ReassemblyRun :=
  exec (unlessFailed ReassemblyRun.step) (.ok ⟨r, [], []⟩) arrivals

namespace FragmentedMessage
variable {m : FragmentedMessage} {config : ReassemblerConfig} {r : Reassembly}

theorem bodies_ne_nil : m.bodies ≠ [] := by
  have hpos : 0 < m.count := m.fragmentable.fragmentCount_pos
  rw [bodies, Ne, List.map_eq_nil_iff, List.range_eq_nil]
  omega

theorem nodup_bodies : m.bodies.Nodup := by
  refine List.Nodup.map_on ?_ List.nodup_range
  intro i hi j hj
  exact toBytes_inj (List.mem_range.mp hi) (List.mem_range.mp hj)

theorem faithful_receive (hr : r.Reachable config) (hnone : r.entries.lookup m.key = none)
    {arrivals : List FragmentArrival} (halone : ∀ a ∈ arrivals, m.Alone a) :
    ∃ run, r.receive arrivals = .ok run ∧ m.Faithful config run := by
  obtain ⟨hconfig, hsound⟩ := hr.sound
  have hstart : m.Faithful config ⟨r, [], []⟩ := by
    refine ⟨hconfig, hsound, ?_, fun _ h => absurd h List.not_mem_nil⟩
    rintro k e i chunk he - rfl
    rw [hnone] at he
    cases he
  have hmeets : Meets (WhenOk fun _ a => m.Alone a) (unlessFailed ReassemblyRun.step) (.ok ⟨r, [], []⟩) arrivals := by
    apply meets_of_forall
    intro a ha s
    cases s with
    | error => trivial
    | ok => exact halone a ha
  exact exec_ok_invariant_of Faithful.step arrivals ⟨r, [], []⟩ hstart hmeets

theorem receive_append (r : Reassembly) (before : List FragmentArrival) (a : FragmentArrival) :
    r.receive (before ++ [a]) = unlessFailed ReassemblyRun.step (r.receive before) a := by
  rw [Reassembly.receive, exec_append, ← Reassembly.receive]
  rfl

theorem progress_receive (hr : r.Reachable config) (hnone : r.entries.lookup m.key = none)
    (hadmits : config.Admits (m.fragment 0).fragTotal) {arrivals : List FragmentArrival}
    (halone : ∀ a ∈ arrivals, m.Alone a)
    (hspares : Meets (WhenOk m.Spares) (unlessFailed ReassemblyRun.step) (.ok ⟨r, [], []⟩) arrivals) :
    ∃ run, r.receive arrivals = .ok run ∧ m.Progress (m.own arrivals) run := by
  -- the condition is on the state an arrival meets, so the run grows at its end
  induction arrivals using List.reverseRecOn with
  | nil =>
    refine ⟨⟨r, [], []⟩, rfl, fun _ => ⟨rfl, ?_⟩, fun hall => ?_⟩
    · rw [hnone]
      exact fun i _ => List.not_mem_nil
    · obtain ⟨b, hb⟩ := List.exists_mem_of_ne_nil _ (bodies_ne_nil (m := m))
      exact absurd (hall b hb) List.not_mem_nil
  | append_singleton before a ih =>
    rw [meets_append] at hspares
    have halone' : ∀ x ∈ before, m.Alone x := fun x hx => halone x (List.mem_append_left _ hx)
    obtain ⟨run, hrun, hprogress⟩ := ih halone' hspares.1
    obtain ⟨run₁, hrun₁, hfaithful⟩ := faithful_receive hr hnone halone'
    cases hrun.symm.trans hrun₁
    have ha : m.Alone a := halone a (List.mem_append_right _ List.mem_cons_self)
    have hspared : m.Spares run a := by
      have := hspares.2.1
      rw [← Reassembly.receive, hrun] at this
      exact this
    obtain ⟨run', hrun', -⟩ := hfaithful.step run a ha
    refine ⟨run', ?_, hprogress.step hfaithful hadmits ha hspared hrun'⟩
    rw [receive_append, hrun]
    exact hrun'

theorem length_bodies : m.bodies.length = m.count := by
  rw [bodies, List.length_map, List.length_range]

theorem defaults_admit (m : FragmentedMessage) :
    ReassemblerConfig.serverDefault.Admits (UInt16.ofNat m.bodies.length) ∧
      ReassemblerConfig.clientDefault.Admits (UInt16.ofNat m.bodies.length) := by
  have hle : m.count ≤ 32 := m.fragmentable.fragmentCount_le
  have hpos : 0 < m.count := m.fragmentable.fragmentCount_pos
  have htoNat : (UInt16.ofNat m.count).toNat = m.count := m.fragmentable.toNat_count
  have hne : UInt16.ofNat m.count ≠ 0 := by
    intro hzero
    rw [hzero] at htoNat
    exact absurd htoNat (Nat.ne_of_lt hpos)
  have hfragments : UInt16.ofNat m.count ≤ UInt16.ofNat maxFragmentsPerHandshake := by
    rw [UInt16.le_iff_toNat_le, htoNat]
    exact hle
  have hbytes : (UInt16.ofNat m.count).toNat * maxFragmentPayload ≤ 64 * 1024 := by
    rw [htoNat]
    exact (Nat.mul_le_mul_right _ hle).trans (by decide)
  rw [length_bodies]
  exact ⟨⟨hne, htoNat.trans_le hle, hfragments, hbytes⟩, ⟨hne, htoNat.trans_le hle, hfragments, hbytes⟩⟩

/-- The fragments of a message, in any order and among any others, give back the message and nothing else, as soon as
all have arrived, and just once if each arrives once. -/
theorem fragments_delivered (m : FragmentedMessage) (config : ReassemblerConfig) (r : Reassembly)
    (hr : r.Reachable config) (hnone : r.entries.lookup m.key = none) (arrivals : List FragmentArrival)
    (halone : ∀ a ∈ arrivals, m.Alone a) :
    buildHandshakeFragments m.innerMsgType m.fragId m.payload = .ok m.bodies ∧
    (ReassemblerConfig.serverDefault.Admits (UInt16.ofNat m.bodies.length) ∧
      ReassemblerConfig.clientDefault.Admits (UInt16.ofNat m.bodies.length)) ∧
    ∃ run, r.receive arrivals = .ok run ∧
      (∀ message, (m.key, message) ∈ run.completions → message = (m.innerMsgType, m.payload)) ∧
      (config.Admits (UInt16.ofNat m.bodies.length) →
        Meets (WhenOk m.Spares) (unlessFailed ReassemblyRun.step) (.ok ⟨r, [], []⟩) arrivals →
        (∀ before a after, arrivals = before ++ a :: after → (∃ b ∈ m.bodies, b ∉ m.own before) →
          (∀ b ∈ m.bodies, b ∈ m.own (before ++ [a])) →
          ∃ run₁ run₂, r.receive before = .ok run₁ ∧ m.mine run₁ = [] ∧ run₁.step a = .ok run₂ ∧
            m.mine run₂ = [(m.key, (m.innerMsgType, m.payload))]) ∧
        ((m.own arrivals).Perm m.bodies → m.mine run = [(m.key, (m.innerMsgType, m.payload))])) := by
  obtain ⟨run, hrun, hfaithful⟩ := faithful_receive hr hnone halone
  refine ⟨m.build_eq, m.defaults_admit, run, hrun, hfaithful.completions, fun hadmits hspares => ⟨?_, ?_⟩⟩
  · rintro before a after rfl hmissing hall
    rw [length_bodies] at hadmits
    rw [List.append_cons] at halone hspares
    have halone' : ∀ x ∈ before ++ [a], m.Alone x := fun x hx => halone x (List.mem_append_left _ hx)
    obtain ⟨run₂, hrun₂, hprogress₂⟩ := progress_receive hr hnone hadmits halone' (meets_append.mp hspares).1
    obtain ⟨run₁, hrun₁, hprogress₁⟩ := progress_receive hr hnone hadmits
      (fun x hx => halone' x (List.mem_append_left _ hx)) (meets_append.mp (meets_append.mp hspares).1).1
    rw [receive_append, hrun₁] at hrun₂
    have hnone₁ := (hprogress₁.collecting hmissing).1
    obtain ⟨more, hmine, -⟩ := hprogress₂.reported hall
    have hlength := length_mine_step (m := m) hrun₂
    rw [hnone₁, hmine, List.length_cons, List.length_nil] at hlength
    have hmore : more = [] := List.length_eq_zero_iff.mp (by omega)
    exact ⟨run₁, run₂, hrun₁, hnone₁, hrun₂, hmore ▸ hmine⟩
  · intro hperm
    rw [length_bodies] at hadmits
    obtain ⟨run', hrun', hprogress⟩ := progress_receive hr hnone hadmits halone hspares
    cases hrun.symm.trans hrun'
    obtain ⟨more, hmine, hmore⟩ := hprogress.reported fun b hb => hperm.mem_iff.mpr hb
    rw [hmine, hmore (hperm.nodup_iff.mpr nodup_bodies)]

end FragmentedMessage

namespace ReassemblySample

def hello : FragmentedMessage where
  source := home
  fragId := 8
  innerMsgType := .handshakeInit
  payload := List.replicate 1200 5
  fragmentable := ⟨rfl, List.cons_ne_nil 5 (List.replicate 1199 5), by rw [List.length_replicate]; decide⟩

def swapped : List FragmentArrival :=
  [⟨home, (hello.fragment 1).toBytes, 0, .first⟩, arrival 0 2 10 1, ⟨home, (hello.fragment 0).toBytes, 2, .first⟩]

theorem fragments_delivered_swapped :
    ∃ run, (Reassembly.new .clientDefault).receive swapped = .ok run ∧
      hello.mine run = [(hello.key, (.handshakeInit, List.replicate 1200 5))] := by
  obtain ⟨-, ⟨-, hadmits⟩, run, hrun, -, hdelivered⟩ := hello.fragments_delivered .clientDefault (.new .clientDefault)
    ⟨[], _, rfl, rfl⟩ rfl swapped (by decide +kernel)
  exact ⟨run, hrun, (hdelivered hadmits (by decide +kernel)).2 (by decide +kernel)⟩

end ReassemblySample

end HpnVpn
