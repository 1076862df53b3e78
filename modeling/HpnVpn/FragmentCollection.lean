import HpnVpn.FragmentDelivery
import HpnVpn.Header

/-! The fragments of one message in a client's buffer: how far it has come while nothing is too old, and when its
parts came. -/
namespace HpnVpn
open Wire Tables Slots

def fragmentPacket (body : Bytes) : Bytes := (PacketHeader.new .handshakeFragment 0 0 0).toBytes ++ body

theorem length_newHeader (msgType : MessageType) (sessionId : SessionId) (keyId : KeyId) (counter : Counter) :
    (PacketHeader.new msgType sessionId keyId counter).toBytes.length = headerSize := by
  rw [PacketHeader.toBytes_length]
  rfl

theorem fragmentPacket_injective : Function.Injective fragmentPacket := fun _ _ h => List.append_cancel_left h

theorem drop_fragmentPacket (body : Bytes) : (fragmentPacket body).drop headerSize = body :=
  List.drop_left' (length_newHeader ..)

theorem decode_fragmentPacket (body : Bytes) :
    PacketHeader.decode (fragmentPacket body) = .ok (.new .handshakeFragment 0 0 0) :=
  PacketHeader.decode_toBytes (PacketHeader.new_wellFormed ..) body

namespace FragmentedMessage
variable {m : FragmentedMessage}

theorem length_fragmentPacket_le {index : Nat} (hindex : index < m.count) :
    (fragmentPacket (m.fragment index).toBytes).length ≤ 1500 := by
  have hpayload := (wellFormed hindex).payload_le
  rw [fragmentPacket, List.length_append, length_newHeader, HandshakeFragment.toBytes]
  simp only [List.length_cons, List.length_append, Block.length_bytes]
  unfold headerSize
  unfold maxFragmentPayload at hpayload
  omega

structure Collecting (m : FragmentedMessage) (start : Nat) (seen : List Bytes) (r : Reassembly) : Prop where
  config_eq : r.config = .clientDefault
  sound : r.Sound
  chunks : Reassembly.Chunks m.Own r.entries
  holds : m.Holds seen (r.entries.lookup m.key)
  since : ∀ e, r.entries.lookup m.key = some e → start ≤ e.firstSeen

theorem collecting_new (m : FragmentedMessage) (start : Nat) : m.Collecting start [] (.new .clientDefault) where
  config_eq := rfl
  sound := Reassembly.sound_new _
  chunks := fun _ _ _ _ he => nomatch he
  holds := fun _ _ => List.not_mem_nil
  since := fun _ he => nomatch he

variable {r : Reassembly} {start now index : Nat} {seen : List Bytes} {order : Chooser FragmentKey}

theorem Collecting.lookup_live (h : m.Collecting start seen r) (hnow : now ≤ start + 5 * 10 ^ 9) :
    (r.live now).lookup m.key = r.entries.lookup m.key := by
  cases he : r.entries.lookup m.key with
  | none =>
    by_contra hsome
    obtain ⟨e, hlive⟩ := Option.ne_none_iff_exists'.mp hsome
    rw [(Reassembly.lookup_live.mp hlive).1] at he
    cases he
  | some e =>
    refine Reassembly.lookup_live.mpr ⟨he, decide_eq_false ?_⟩
    have hsince := h.since e he
    rw [h.config_eq]
    change ¬5 * 10 ^ 9 < now - e.firstSeen
    omega

theorem Collecting.admits (h : m.Collecting start seen r) (index : Nat) :
    r.config.Admits (m.fragment index).fragTotal := by
  have hadmits := m.defaults_admit.2
  rw [length_bodies] at hadmits
  rw [h.config_eq]
  exact hadmits

theorem entry_of_outcome {t : Table FragmentKey Entry} {out : Option (MessageType × Bytes)} {f : HandshakeFragment}
    {key : FragmentKey} {e : Entry} (hs : r.Sound) (hout : Reassembly.Outcome r key f now order t out)
    (he : t.lookup key = some e) :
    r.entries.lookup key = some e ∨ (∃ old, r.entries.lookup key = some old ∧ e = old.store f) ∨
      e = Entry.ofFragment f now := by
  cases hout with
  | refused | duplicate => exact .inl he
  | contradicted | completed =>
    rw [AList.lookup_erase] at he
    cases he
  | @stored old hold =>
    rw [AList.lookup_insert] at he
    exact .inr (.inl ⟨old, hold, (Option.some.inj he).symm⟩)
  | opened =>
    rw [AList.lookup_insert] at he
    exact .inr (.inr (Option.some.inj he).symm)
  | single hadmits hnone hcaps =>
    rw [hs.lookup_of_enforceCaps hcaps hnone] at he
    cases he

theorem firstSeen_of_outcome {t : Table FragmentKey Entry} {out : Option (MessageType × Bytes)} {f : HandshakeFragment}
    (hs : r.Sound) (hsince : ∀ e, r.entries.lookup m.key = some e → start ≤ e.firstSeen) (hnow : start ≤ now)
    (hout : Reassembly.Outcome r m.key f now order t out) :
    ∀ e, t.lookup m.key = some e → start ≤ e.firstSeen := by
  intro e he
  obtain hold | ⟨old, hold, rfl⟩ | rfl := entry_of_outcome hs hout he
  · exact hsince e hold
  · exact hsince old hold
  · exact hnow

theorem Collecting.insert (h : m.Collecting start seen r) (hstart : start ≤ now)
    (hnow : now ≤ start + 5 * 10 ^ 9) (hindex : index < m.count) (order : Chooser FragmentKey) :
    ∃ r' out, r.insert m.source (m.fragment index) now order = .ok (r', out) ∧
      (((∃ i < m.count, (m.fragment i).toBytes ∉ seen ++ [(m.fragment index).toBytes]) ∧ out = none ∧
          m.Collecting start (seen ++ [(m.fragment index).toBytes]) r') ∨
        (∀ i < m.count, (m.fragment i).toBytes ∈ seen ++ [(m.fragment index).toBytes]) ∧
          out = some (m.innerMsgType, m.payload)) := by
  have hwf := wellFormed hindex
  obtain ⟨t, out, hinsert, hout⟩ := h.sound.insert_outcome m.source hwf now order
  have hlive := h.sound.live now
  have hchunks : Reassembly.Chunks m.Own (r.live now) := h.chunks.live now
  have hlookup : (r.withEntries (r.live now)).entries.lookup m.key = r.entries.lookup m.key := h.lookup_live hnow
  have hholds : m.Holds seen ((r.withEntries (r.live now)).entries.lookup m.key) := hlookup ▸ h.holds
  have hown : m.Own m.key (m.fragment index).innerMsgType (m.fragment index).fragTotal
      (m.fragment index).fragIndex.toNat (m.fragment index).payload := by
    intro _
    rw [toNat_fragIndex hindex]
    rfl
  refine ⟨r.withEntries t, out, hinsert, ?_⟩
  rcases collect_own hlive (h.admits 0) hholds hindex hout with ⟨hmissing, hnone, hholds'⟩ | ⟨hall, hsome⟩
  · refine .inl ⟨hmissing, hnone, h.config_eq, hlive.outcome hwf hout, hchunks.outcome hlive hown hout, hholds', ?_⟩
    exact firstSeen_of_outcome hlive (fun e he => h.since e (hlookup ▸ he)) hstart hout
  · obtain ⟨message, rfl⟩ := Option.isSome_iff_exists.mp hsome
    exact .inr ⟨hall, congrArg some (message_of_outcome hchunks hlive hindex hout)⟩

/-! ### When the parts came in -/

/-- What the entry of the message holds has come in since it was first seen, and that was not later than `now`. -/
structure Timed (m : FragmentedMessage) (now : Nat) (seen : List (Nat × Bytes)) (r : Reassembly) : Prop where
  config_eq : r.config = .clientDefault
  sound : r.Sound
  firstSeen : ∀ e, r.entries.lookup m.key = some e → e.firstSeen ≤ now
  chunks : ∀ e i chunk, r.entries.lookup m.key = some e → e.chunks[i]? = some (some chunk) →
    ∃ time, (time, (m.fragment i).toBytes) ∈ seen ∧ e.firstSeen ≤ time

theorem timed_new (m : FragmentedMessage) (now : Nat) : m.Timed now [] (.new .clientDefault) where
  config_eq := rfl
  sound := Reassembly.sound_new _
  firstSeen := fun _ he => nomatch he
  chunks := fun _ _ _ he => nomatch he

theorem Timed.insert {last : Nat} {seen : List (Nat × Bytes)} (h : m.Timed last seen r) (hlast : last ≤ now)
    (hindex : index < m.count) (order : Chooser FragmentKey) :
    ∃ r' out, r.insert m.source (m.fragment index) now order = .ok (r', out) ∧
      m.Timed now (seen ++ [(now, (m.fragment index).toBytes)]) r' ∧
      (out.isSome = true → ∃ start ≤ now, now ≤ start + 5 * 10 ^ 9 ∧ ∀ i < m.count, ∃ time,
        (time, (m.fragment i).toBytes) ∈ seen ++ [(now, (m.fragment index).toBytes)] ∧ start ≤ time) := by
  have hwf := wellFormed hindex
  obtain ⟨t, out, hinsert, hout⟩ := h.sound.insert_outcome m.source hwf now order
  have hlive := h.sound.live now
  have hold : ∀ e, (r.withEntries (r.live now)).entries.lookup m.key = some e →
      r.entries.lookup m.key = some e ∧ now ≤ e.firstSeen + 5 * 10 ^ 9 := by
    intro e he
    obtain ⟨hlookup, hfresh⟩ := Reassembly.lookup_live.mp he
    have hage : ¬r.config.ttl < now - e.firstSeen := of_decide_eq_false hfresh
    rw [h.config_eq] at hage
    refine ⟨hlookup, ?_⟩
    change ¬5 * 10 ^ 9 < now - e.firstSeen at hage
    omega
  have hself : (now, (m.fragment index).toBytes) ∈ seen ++ [(now, (m.fragment index).toBytes)] :=
    List.mem_append_right _ List.mem_cons_self
  have hearlier : ∀ e i chunk, (r.withEntries (r.live now)).entries.lookup m.key = some e →
      e.chunks[i]? = some (some chunk) → ∃ time,
        (time, (m.fragment i).toBytes) ∈ seen ++ [(now, (m.fragment index).toBytes)] ∧ e.firstSeen ≤ time := by
    intro e i chunk he hchunk
    obtain ⟨time, hmem, hle⟩ := h.chunks e i chunk (hold e he).1 hchunk
    exact ⟨time, List.mem_append_left _ hmem, hle⟩
  -- A stored fragment joins those that are held, and is the latest of them.
  have hstored : ∀ e i chunk, (r.withEntries (r.live now)).entries.lookup m.key = some e →
      (e.store (m.fragment index)).chunks[i]? = some (some chunk) → ∃ time,
        (time, (m.fragment i).toBytes) ∈ seen ++ [(now, (m.fragment index).toBytes)] ∧ e.firstSeen ≤ time := by
    intro e i chunk he hchunk
    rcases Reassembly.getElem?_set_some hchunk with ⟨rfl, -⟩ | hchunk
    · rw [toNat_fragIndex hindex]
      exact ⟨now, hself, (h.firstSeen e (hold e he).1).trans hlast⟩
    · exact hearlier e i chunk he hchunk
  refine ⟨r.withEntries t, out, hinsert, ⟨h.config_eq, hlive.outcome hwf hout, ?_, ?_⟩, ?_⟩
  · intro e he
    obtain hsame | ⟨old, hstays, rfl⟩ | rfl := entry_of_outcome hlive hout he
    · exact (h.firstSeen e (hold e hsame).1).trans hlast
    · exact (h.firstSeen old (hold old hstays).1).trans hlast
    · exact le_rfl
  · intro e i chunk he hchunk
    obtain hsame | ⟨old, hstays, rfl⟩ | rfl := entry_of_outcome hlive hout he
    · exact hearlier e i chunk hsame hchunk
    · exact hstored old i chunk hstays hchunk
    · rcases Reassembly.getElem?_set_some hchunk with ⟨rfl, -⟩ | hchunk
      · rw [toNat_fragIndex hindex]
        exact ⟨now, hself, le_rfl⟩
      · rw [List.getElem?_replicate] at hchunk
        split at hchunk <;> cases hchunk
  · intro hsome
    cases hout with
    | refused | contradicted | duplicate | stored | opened => cases hsome
    | @completed e pieces he hmatches hslot hpieces =>
      obtain ⟨hlookup, hfresh⟩ := hold e he
      refine ⟨e.firstSeen, (h.firstSeen e hlookup).trans hlast, hfresh, ?_⟩
      intro i hi
      have hlength : (e.store (m.fragment index)).chunks.length = m.count := by
        rw [Entry.store, List.length_set, (hlive.entry he).length_eq, hmatches.fragTotal, toNat_fragTotal]
      have hlt : i < (e.store (m.fragment index)).chunks.length := hlength ▸ hi
      obtain ⟨piece, hpiece⟩ : ∃ piece, (e.store (m.fragment index)).chunks[i]? = some (some piece) := by
        rw [hpieces, List.length_map] at hlt
        rw [hpieces, List.getElem?_map, List.getElem?_eq_getElem hlt]
        exact ⟨_, rfl⟩
      exact hstored e i piece he hpiece
    | single hadmits hnone hcaps hone =>
      refine ⟨now, le_rfl, Nat.le_add_right _ _, ?_⟩
      intro i hi
      have hcount : m.count = 1 := by
        rw [← toNat_fragTotal index, hone]
        rfl
      obtain rfl : i = index := by omega
      exact ⟨now, hself, le_rfl⟩

end FragmentedMessage

end HpnVpn
