import HpnVpn.Fragment
import HpnVpn.Slots
import HpnVpn.Tables

/-! The reassembly buffer: an entry for each source and fragment id, evicted when old or to make room.  Every
assertion and index is a place where the model can stop. -/
namespace HpnVpn
open Wire Tables Slots

/-- Tunable bounds; times are nanoseconds of the monotonic clock. -/
structure ReassemblerConfig where
  maxEntries : Nat
  maxTotalBytes : Nat
  maxEntryBytes : Nat
  maxFragmentsPerEntry : UInt16
  ttl : Nat
deriving DecidableEq

namespace ReassemblerConfig

def serverDefault : ReassemblerConfig where
  maxEntries := 1024
  maxTotalBytes := 16 * 1024 * 1024
  maxEntryBytes := 64 * 1024
  maxFragmentsPerEntry := UInt16.ofNat maxFragmentsPerHandshake
  ttl := 5 * 10 ^ 9

def clientDefault : ReassemblerConfig where
  maxEntries := 4
  maxTotalBytes := 256 * 1024
  maxEntryBytes := 64 * 1024
  maxFragmentsPerEntry := UInt16.ofNat maxFragmentsPerHandshake
  ttl := 5 * 10 ^ 9

/-- Whether a message of so many fragments is put together at all. -/
def Admits (config : ReassemblerConfig) (fragTotal : UInt16) : Prop :=
  fragTotal ≠ 0 ∧ fragTotal.toNat ≤ maxFragmentsPerHandshake ∧ fragTotal ≤ config.maxFragmentsPerEntry ∧
    fragTotal.toNat * maxFragmentPayload ≤ config.maxEntryBytes

instance (config : ReassemblerConfig) (fragTotal : UInt16) : Decidable (config.Admits fragTotal) :=
  inferInstanceAs (Decidable (_ ∧ _))

end ReassemblerConfig

structure Entry where
  innerMsgType : MessageType
  fragTotal : UInt16
  chunks : List (Option Bytes)
  receivedCount : UInt16
  totalBytes : Nat
  firstSeen : Nat
deriving DecidableEq

abbrev FragmentKey := SocketAddr × UInt32

structure Reassembly where
  config : ReassemblerConfig
  entries : Table FragmentKey Entry
  totalBytes : Nat

/-- The assertions and indexings of the source that stop the program when they fail. -/
inductive ReassemblyPanic
  | debitBytes
  | purgeExpired
  | slotIndex
  | chunkIndex
  | entryGone
  | missingChunk
deriving DecidableEq

def reassemble (entry : Entry) : Except ReassemblyPanic (MessageType × Bytes) := do
  let chunks ← entry.chunks.mapM fun chunk => okOr chunk .missingChunk
  return (entry.innerMsgType, chunks.flatten)

def Entry.isExpired (e : Entry) (ttl now : Nat) : Bool := decide (ttl < now - e.firstSeen)

namespace Reassembly

def new (config : ReassemblerConfig) : Reassembly := ⟨config, ∅, 0⟩

variable (r : Reassembly) (order : Chooser FragmentKey)

def len : Nat := r.entries.keys.length

def contains (source : SocketAddr) (fragId : UInt32) : Bool :=
  (r.entries.lookup (source, fragId)).isSome

def debitBytes (r : Reassembly) (bytes : Nat) : Except ReassemblyPanic Reassembly := do
  ensure (bytes ≤ r.totalBytes) .debitBytes
  return { r with totalBytes := r.totalBytes - bytes }

/-- What `retain` does to the byte counter at one entry. -/
def debitExpired (ttl now total : Nat) (e : Entry) : Except ReassemblyPanic Nat :=
  if e.isExpired ttl now then do
    ensure (e.totalBytes ≤ total) .purgeExpired
    return total - e.totalBytes
  else return total

def purgeExpired (now : Nat) : Except ReassemblyPanic Reassembly := do
  if r.entries.entries.isEmpty then return r
  if ¬ r.entries.entries.any (·.2.isExpired r.config.ttl now) then return r
  let total ← r.entries.entries.foldlM (fun total x => debitExpired r.config.ttl now total x.2) r.totalBytes
  return { r with entries := retain r.entries fun _ e => !e.isExpired r.config.ttl now, totalBytes := total }

/-- An entry first seen before all others; which one among several is up to the hash map. -/
def oldestKey : Option FragmentKey :=
  order.choose ((r.entries.entries.filter fun x =>
    r.entries.entries.all fun y => x.2.firstSeen ≤ y.2.firstSeen).map (·.1))

/-- The loop of `enforce_caps_for_new_entry`; each round removes an entry, so there are at most as many
rounds as entries. -/
def evictOldest (order : Chooser FragmentKey) : Nat → Reassembly → Except ReassemblyPanic Reassembly
  | 0, r => return r
  | rounds + 1, r =>
    if r.config.maxEntries ≤ r.len ∨ r.config.maxTotalBytes ≤ r.totalBytes then
      match r.oldestKey order with
      | none => return r
      | some key =>
        match r.entries.lookup key with
        | none => evictOldest order rounds r
        | some entry => do
          let r ← { r with entries := r.entries.erase key }.debitBytes entry.totalBytes
          evictOldest order rounds r
    else return r

def enforceCapsForNewEntry : Except ReassemblyPanic Reassembly :=
  evictOldest order r.len r

def extend (key : FragmentKey) (entry : Entry) (fragment : HandshakeFragment) :
    Except ReassemblyPanic (Reassembly × Option (MessageType × Bytes)) := do
  if entry.fragTotal ≠ fragment.fragTotal ∨ entry.innerMsgType ≠ fragment.innerMsgType then
    let r ← { r with entries := r.entries.erase key }.debitBytes entry.totalBytes
    return (r, none)
  let index := fragment.fragIndex.toNat
  let slot ← okOr entry.chunks[index]? .slotIndex
  if slot.isSome then return (r, none)
  let chunkLen := fragment.payload.length
  if r.config.maxEntryBytes < entry.totalBytes + chunkLen then
    let r ← { r with entries := r.entries.erase key }.debitBytes entry.totalBytes
    return (r, none)
  let entry := { entry with
    chunks := entry.chunks.set index (some fragment.payload)
    receivedCount := entry.receivedCount + 1
    totalBytes := entry.totalBytes + chunkLen }
  let r := { r with entries := r.entries.insert key entry, totalBytes := r.totalBytes + chunkLen }
  if entry.receivedCount = entry.fragTotal then
    let entry ← okOr (r.entries.lookup key) .entryGone
    let r ← { r with entries := r.entries.erase key }.debitBytes entry.totalBytes
    return (r, some (← reassemble entry))
  return (r, none)

def openEntry (key : FragmentKey) (fragment : HandshakeFragment) (now : Nat) (order : Chooser FragmentKey) :
    Except ReassemblyPanic (Reassembly × Option (MessageType × Bytes)) := do
  let r ← r.enforceCapsForNewEntry order
  let index := fragment.fragIndex.toNat
  let chunks := List.replicate fragment.fragTotal.toNat none
  ensure (index < chunks.length) .chunkIndex
  let entry : Entry :=
    { innerMsgType := fragment.innerMsgType
      fragTotal := fragment.fragTotal
      chunks := chunks.set index (some fragment.payload)
      receivedCount := 1
      totalBytes := fragment.payload.length
      firstSeen := now }
  let r := { r with totalBytes := r.totalBytes + fragment.payload.length }
  if entry.receivedCount = entry.fragTotal then
    let r ← r.debitBytes entry.totalBytes
    return (r, some (← reassemble entry))
  return ({ r with entries := r.entries.insert key entry }, none)

def insert (source : SocketAddr) (fragment : HandshakeFragment) (now : Nat) (order : Chooser FragmentKey) :
    Except ReassemblyPanic (Reassembly × Option (MessageType × Bytes)) := do
  let r ← r.purgeExpired now
  if ¬ r.config.Admits fragment.fragTotal then return (r, none)
  match r.entries.lookup (source, fragment.fragId) with
  | some entry => r.extend (source, fragment.fragId) entry fragment
  | none => r.openEntry (source, fragment.fragId) fragment now order

/-! ### What an insert does -/

end Reassembly

structure Entry.Sound (e : Entry) : Prop where
  length_eq : e.chunks.length = e.fragTotal.toNat
  received : e.receivedCount.toNat = filled e.chunks
  incomplete : filled e.chunks < e.fragTotal.toNat
  bytes : e.totalBytes = size List.length e.chunks
  bounded : ∀ chunk, some chunk ∈ e.chunks → chunk.length ≤ maxFragmentPayload

variable {e : Entry}

theorem Entry.Sound.totalBytes_le (h : e.Sound) :
    e.totalBytes ≤ (e.fragTotal.toNat - 1) * maxFragmentPayload := by
  have hincomplete := h.incomplete
  calc e.totalBytes = size List.length e.chunks := h.bytes
    _ ≤ filled e.chunks * maxFragmentPayload := size_le h.bounded
    _ ≤ (e.fragTotal.toNat - 1) * maxFragmentPayload := Nat.mul_le_mul_right _ (by omega)

structure Entry.Matches (e : Entry) (f : HandshakeFragment) : Prop where
  fragTotal : e.fragTotal = f.fragTotal
  innerMsgType : e.innerMsgType = f.innerMsgType

instance (e : Entry) (f : HandshakeFragment) : Decidable (e.Matches f) :=
  decidable_of_iff (e.fragTotal = f.fragTotal ∧ e.innerMsgType = f.innerMsgType)
    ⟨fun h => ⟨h.1, h.2⟩, fun h => ⟨h.1, h.2⟩⟩

def Entry.store (e : Entry) (f : HandshakeFragment) : Entry :=
  { e with
    chunks := e.chunks.set f.fragIndex.toNat (some f.payload)
    receivedCount := e.receivedCount + 1
    totalBytes := e.totalBytes + f.payload.length }

def Entry.ofFragment (f : HandshakeFragment) (now : Nat) : Entry where
  innerMsgType := f.innerMsgType
  fragTotal := f.fragTotal
  chunks := (List.replicate f.fragTotal.toNat none).set f.fragIndex.toNat (some f.payload)
  receivedCount := 1
  totalBytes := f.payload.length
  firstSeen := now

namespace Entry
variable {e : Entry} {f : HandshakeFragment}

theorem filled_store (hslot : e.chunks[f.fragIndex.toNat]? = some none) :
    filled (e.store f).chunks = filled e.chunks + 1 :=
  filled_set hslot f.payload

theorem Sound.toNat_receivedCount (h : e.Sound) : (e.receivedCount + 1).toNat = filled e.chunks + 1 := by
  have hlt := h.incomplete
  have hbound := e.fragTotal.toNat_lt
  rw [UInt16.toNat_add, h.received, UInt16.toNat_one]
  omega

theorem mem_store {chunk : Bytes} (h : some chunk ∈ (e.store f).chunks) : some chunk ∈ e.chunks ∨ chunk = f.payload := by
  rcases List.mem_or_eq_of_mem_set h with hold | hnew
  · exact .inl hold
  · exact .inr (Option.some.inj hnew)

theorem Sound.store (h : e.Sound) (hf : f.WellFormed) (hslot : e.chunks[f.fragIndex.toNat]? = some none)
    (hmore : filled e.chunks + 1 < e.fragTotal.toNat) : (e.store f).Sound where
  length_eq := List.length_set.trans h.length_eq
  received := h.toNat_receivedCount.trans (filled_store hslot).symm
  incomplete := (filled_store hslot).trans_lt hmore
  bytes := (congrArg (· + f.payload.length) h.bytes).trans (size_set hslot f.payload).symm
  bounded chunk hchunk := (mem_store hchunk).elim (h.bounded chunk) fun heq => heq ▸ hf.payload_le

theorem replicate_slot (hf : f.WellFormed) :
    (List.replicate f.fragTotal.toNat (none : Option Bytes))[f.fragIndex.toNat]? = some none := by
  rw [List.getElem?_replicate, if_pos (UInt16.lt_iff_toNat_lt.mp hf.fragIndex_lt)]

theorem filled_ofFragment (hf : f.WellFormed) (now : Nat) : filled (ofFragment f now).chunks = 1 := by
  rw [ofFragment, filled_set (replicate_slot hf), filled_replicate]

theorem sound_ofFragment (hf : f.WellFormed) (now : Nat) (hmore : 1 < f.fragTotal.toNat) :
    (ofFragment f now).Sound where
  length_eq := by rw [ofFragment, List.length_set, List.length_replicate]
  received := (filled_ofFragment hf now).symm
  incomplete := (filled_ofFragment hf now).trans_lt hmore
  bytes := by rw [ofFragment, size_set (replicate_slot hf), size_replicate, Nat.zero_add]
  bounded := by
    intro chunk hchunk
    rcases List.mem_or_eq_of_mem_set hchunk with hnone | hnew
    · cases (List.mem_replicate.mp hnone).2
    · rw [Option.some.inj hnew]
      exact hf.payload_le

end Entry

theorem reassemble_of_filled {pieces : List Bytes} (h : e.chunks = pieces.map some) :
    reassemble e = .ok (e.innerMsgType, pieces.flatten) := by
  have hmapM : (pieces.map some).mapM (fun chunk => okOr chunk ReassemblyPanic.missingChunk) = .ok pieces := by
    clear h
    induction pieces with
    | nil => rfl
    | cons piece pieces ih =>
      rw [List.map_cons, List.mapM_cons, okOr_some, ih]
      rfl
  rw [reassemble, h, hmapM]
  rfl

namespace Reassembly

def withEntries (r : Reassembly) (entries : Table FragmentKey Entry) : Reassembly :=
  ⟨r.config, entries, total Entry.totalBytes entries⟩

structure Sound (r : Reassembly) : Prop where
  entry : ∀ {key e}, r.entries.lookup key = some e → e.Sound
  admitted : ∀ {key e}, r.entries.lookup key = some e → r.config.Admits e.fragTotal
  bytes : r.totalBytes = total Entry.totalBytes r.entries
  len_le : r.len ≤ max r.config.maxEntries 1

variable {r : Reassembly}

theorem sound_new (config : ReassemblerConfig) : (new config).Sound where
  entry h := nomatch h
  admitted h := nomatch h
  bytes := rfl
  len_le := Nat.zero_le _

theorem Sound.eq_withEntries (h : r.Sound) : r = r.withEntries r.entries := by
  rw [withEntries, ← h.bytes]

theorem Sound.shrink (h : r.Sound) {t : Table FragmentKey Entry}
    (hsub : ∀ key e, t.lookup key = some e → r.entries.lookup key = some e)
    (hlen : t.keys.length ≤ r.len) : (r.withEntries t).Sound where
  entry he := h.entry (hsub _ _ he)
  admitted he := h.admitted (hsub _ _ he)
  bytes := rfl
  len_le := hlen.trans h.len_le

theorem lookup_of_erase {t : Table FragmentKey Entry} {key key' : FragmentKey} {e : Entry}
    (h : (t.erase key).lookup key' = some e) : t.lookup key' = some e := by
  by_cases hkey : key' = key
  · rw [hkey, AList.lookup_erase] at h
    cases h
  · rwa [AList.lookup_erase_ne hkey] at h

theorem Sound.erase (h : r.Sound) (key : FragmentKey) : (r.withEntries (r.entries.erase key)).Sound :=
  h.shrink (fun _ _ => lookup_of_erase) (keys_length_erase_le _ _)

theorem debit_erase (h : r.totalBytes = total Entry.totalBytes r.entries) {key : FragmentKey} {e : Entry}
    (he : r.entries.lookup key = some e) :
    { r with entries := r.entries.erase key }.debitBytes e.totalBytes =
      .ok (r.withEntries (r.entries.erase key)) := by
  have htotal := total_erase Entry.totalBytes he
  have hle : e.totalBytes ≤ r.totalBytes := by
    rw [h, ← htotal]
    exact Nat.le_add_left _ _
  have hsub : r.totalBytes - e.totalBytes = total Entry.totalBytes (r.entries.erase key) := by
    rw [h, ← htotal, Nat.add_sub_cancel]
  rw [debitBytes, ensure_of hle, hsub]
  rfl

/-! #### Old entries -/

def live (r : Reassembly) (now : Nat) : Table FragmentKey Entry :=
  retain r.entries fun _ e => !e.isExpired r.config.ttl now

theorem lookup_live {now : Nat} {key : FragmentKey} {e : Entry} :
    (r.live now).lookup key = some e ↔ r.entries.lookup key = some e ∧ e.isExpired r.config.ttl now = false := by
  rw [live, lookup_retain, Option.filter_eq_some_iff, Bool.not_eq_true']

theorem foldlM_debitExpired (ttl now base : Nat) (entries : List (Sigma fun _ : FragmentKey => Entry)) :
    entries.foldlM (fun total x => debitExpired ttl now total x.2)
        (base + (entries.map fun x => x.2.totalBytes).sum) =
      .ok (base + ((entries.filter fun x => !x.2.isExpired ttl now).map fun x => x.2.totalBytes).sum) := by
  induction entries generalizing base with
  | nil => rfl
  | cons x entries ih =>
    rw [List.foldlM_cons, List.map_cons, List.sum_cons, debitExpired]
    cases hexpired : x.2.isExpired ttl now with
    | true =>
      have hle : x.2.totalBytes ≤ base + (x.2.totalBytes + (entries.map fun x => x.2.totalBytes).sum) := by
        omega
      have hsub : base + (x.2.totalBytes + (entries.map fun x => x.2.totalBytes).sum) - x.2.totalBytes =
          base + (entries.map fun x => x.2.totalBytes).sum := by omega
      rw [if_pos rfl, ensure_of hle, ok_bind, hsub, pure_bind, ih, List.filter_cons_of_neg (by simp [hexpired])]
    | false =>
      rw [if_neg Bool.false_ne_true, pure_bind, ← add_assoc, ih,
        List.filter_cons_of_pos (by simp [hexpired]), List.map_cons, List.sum_cons, add_assoc]

theorem Sound.purgeExpired (h : r.Sound) (now : Nat) : r.purgeExpired now = .ok (r.withEntries (r.live now)) := by
  have hnone : (∀ x ∈ r.entries.entries, x.2.isExpired r.config.ttl now = false) → r.live now = r.entries := by
    intro hall
    apply AList.ext
    exact List.filter_eq_self.mpr fun x hx => Bool.not_eq_true' _ ▸ hall x hx
  rw [Reassembly.purgeExpired]
  split
  · rename_i hempty
    have hnil : r.entries.entries = [] := List.isEmpty_iff.mp hempty
    rw [hnone (by rw [hnil]; exact nofun), ← h.eq_withEntries]
    rfl
  · split
    · rename_i hany
      rw [hnone, ← h.eq_withEntries]
      · rfl
      · intro x hx
        have := List.any_eq_false.mp (Bool.not_eq_true _ ▸ hany) x hx
        simpa using this
    · have hfold := foldlM_debitExpired r.config.ttl now 0 r.entries.entries
      rw [zero_add, zero_add] at hfold
      rw [h.bytes, total, hfold]
      rfl

theorem Sound.live (h : r.Sound) (now : Nat) : (r.withEntries (r.live now)).Sound := by
  refine h.shrink (fun _ _ he => (lookup_live.mp he).1) ?_
  exact (List.filter_sublist.map _).length_le

/-! #### Making room -/

theorem oldestKey_mem {order : Chooser FragmentKey} {key : FragmentKey} (h : r.oldestKey order = some key) :
    ∃ e, r.entries.lookup key = some e := by
  obtain ⟨x, hx, rfl⟩ := List.mem_map.mp (order.choose_mem h)
  exact ⟨x.2, AList.mem_lookup_iff.mpr (List.mem_filter.mp hx).1⟩

theorem oldestKey_none {order : Chooser FragmentKey} (h : r.oldestKey order = none) : r.entries.entries = [] := by
  have hnone := List.map_eq_nil_iff.mp (order.choose_none h)
  by_contra hne
  have hne : (r.entries.entries : Multiset (Sigma fun _ : FragmentKey => Entry)) ≠ 0 :=
    fun h => hne (Multiset.coe_eq_zero _ |>.mp h)
  obtain ⟨x, hx, hmin⟩ := Multiset.exists_min_image (fun x => x.2.firstSeen) hne
  have hmem : x ∈ r.entries.entries.filter fun x => r.entries.entries.all fun y => x.2.firstSeen ≤ y.2.firstSeen :=
    List.mem_filter.mpr ⟨hx, List.all_eq_true.mpr fun y hy => decide_eq_true (hmin y hy)⟩
  rw [hnone] at hmem
  exact absurd hmem List.not_mem_nil

def HasRoom (r : Reassembly) (t : Table FragmentKey Entry) : Prop :=
  t.keys.length < r.config.maxEntries ∧ total Entry.totalBytes t < r.config.maxTotalBytes ∨ t.entries = []

theorem evictOldest_spec (order : Chooser FragmentKey) {rounds : Nat} (h : r.Sound) (hrounds : r.len ≤ rounds) :
    ∃ t, evictOldest order rounds r = .ok (r.withEntries t) ∧ r.HasRoom t ∧ t.keys.length ≤ r.len ∧
      ∀ key e, t.lookup key = some e → r.entries.lookup key = some e := by
  induction rounds generalizing r with
  | zero =>
    refine ⟨r.entries, congrArg _ h.eq_withEntries, .inr ?_, le_rfl, fun _ _ he => he⟩
    have hlen : r.entries.entries.length = 0 := (List.length_map _).symm.trans (Nat.le_zero.mp hrounds)
    exact List.length_eq_zero_iff.mp hlen
  | succ rounds ih =>
    rw [evictOldest]
    split
    case isFalse hroom =>
        rw [not_or, not_le, not_le] at hroom
        exact ⟨r.entries, congrArg _ h.eq_withEntries, .inl (h.bytes ▸ hroom), le_rfl, fun _ _ he => he⟩
    case isTrue =>
        cases hold : r.oldestKey order with
        | none => exact ⟨r.entries, congrArg _ h.eq_withEntries, .inr (oldestKey_none hold), le_rfl, fun _ _ he => he⟩
        | some key =>
          obtain ⟨e, he⟩ := oldestKey_mem hold
          have hlen : (r.entries.erase key).keys.length + 1 = r.len := keys_length_erase he
          have hrounds : (r.withEntries (r.entries.erase key)).len ≤ rounds :=
            Nat.le_of_succ_le_succ (hlen.trans_le hrounds)
          obtain ⟨t, hevict, hroom, htlen, hsub⟩ := ih (h.erase key) hrounds
          refine ⟨t, ?_, hroom, ?_, fun k e' he' => lookup_of_erase (hsub k e' he')⟩
          · dsimp only
            rw [he]
            dsimp only
            rw [debit_erase h.bytes he, ok_bind, hevict]
            rfl
          · exact htlen.trans (Nat.le_of_succ_le hlen.le)

theorem Sound.enforceCaps (h : r.Sound) (order : Chooser FragmentKey) :
    ∃ t, r.enforceCapsForNewEntry order = .ok (r.withEntries t) ∧ r.HasRoom t ∧ t.keys.length ≤ r.len ∧
      ∀ key e, t.lookup key = some e → r.entries.lookup key = some e :=
  evictOldest_spec order h le_rfl

/-! #### The outcome -/

/-- What inserting a fragment into a buffer without old entries does to the entries, and what it reports. -/
inductive Outcome (r : Reassembly) (key : FragmentKey) (f : HandshakeFragment) (now : Nat)
    (order : Chooser FragmentKey) : Table FragmentKey Entry → Option (MessageType × Bytes) → Prop
  | refused (hrefused : ¬ r.config.Admits f.fragTotal) : Outcome r key f now order r.entries none
  | contradicted {e : Entry} (he : r.entries.lookup key = some e) (hdiffers : ¬ e.Matches f) :
      Outcome r key f now order (r.entries.erase key) none
  | duplicate {e : Entry} {chunk : Bytes} (he : r.entries.lookup key = some e) (hmatches : e.Matches f)
      (hslot : e.chunks[f.fragIndex.toNat]? = some (some chunk)) : Outcome r key f now order r.entries none
  | stored {e : Entry} (he : r.entries.lookup key = some e) (hmatches : e.Matches f)
      (hslot : e.chunks[f.fragIndex.toNat]? = some none) (hmore : filled e.chunks + 1 < e.fragTotal.toNat) :
      Outcome r key f now order (r.entries.insert key (e.store f)) none
  | completed {e : Entry} {pieces : List Bytes} (he : r.entries.lookup key = some e) (hmatches : e.Matches f)
      (hslot : e.chunks[f.fragIndex.toNat]? = some none) (hpieces : (e.store f).chunks = pieces.map some) :
      Outcome r key f now order (r.entries.erase key) (some (f.innerMsgType, pieces.flatten))
  | opened {t : Table FragmentKey Entry} (hadmits : r.config.Admits f.fragTotal)
      (hnone : r.entries.lookup key = none) (hcaps : r.enforceCapsForNewEntry order = .ok (r.withEntries t))
      (hmore : 1 < f.fragTotal.toNat) :
      Outcome r key f now order (t.insert key (Entry.ofFragment f now)) none
  | single {t : Table FragmentKey Entry} (hadmits : r.config.Admits f.fragTotal)
      (hnone : r.entries.lookup key = none) (hcaps : r.enforceCapsForNewEntry order = .ok (r.withEntries t))
      (hone : f.fragTotal = 1) : Outcome r key f now order t (some (f.innerMsgType, f.payload))

variable {key : FragmentKey} {f : HandshakeFragment} {e : Entry} {now : Nat} {order : Chooser FragmentKey}

theorem Sound.store_fits (h : r.Sound) (he : r.entries.lookup key = some e) (hf : f.WellFormed) :
    e.totalBytes + f.payload.length ≤ r.config.maxEntryBytes := by
  obtain ⟨-, -, -, hbytes⟩ := h.admitted he
  have hincomplete := (h.entry he).incomplete
  calc e.totalBytes + f.payload.length
      ≤ (e.fragTotal.toNat - 1) * maxFragmentPayload + maxFragmentPayload :=
        add_le_add (h.entry he).totalBytes_le hf.payload_le
    _ = e.fragTotal.toNat * maxFragmentPayload := by
        rw [← Nat.succ_mul, Nat.succ_eq_add_one, Nat.sub_add_cancel (by omega)]
    _ ≤ r.config.maxEntryBytes := hbytes

theorem total_store (he : r.entries.lookup key = some e) :
    total Entry.totalBytes (r.entries.insert key (e.store f)) =
      total Entry.totalBytes r.entries + f.payload.length := by
  rw [total_insert, ← total_erase _ he, Entry.store, add_assoc]

theorem take_completed (key : FragmentKey) {pieces : List Bytes} {bytes : Nat} (hpieces : e.chunks = pieces.map some)
    (hbytes : bytes = total Entry.totalBytes (r.entries.insert key e)) :
    (do
      let entry ← okOr ((r.entries.insert key e).lookup key) ReassemblyPanic.entryGone
      let r ← { r with entries := (r.entries.insert key e).erase key, totalBytes := bytes }.debitBytes entry.totalBytes
      return (r, some (← reassemble entry))) =
      .ok (r.withEntries (r.entries.erase key), some (e.innerMsgType, pieces.flatten)) := by
  have hlookup : (r.entries.insert key e).lookup key = some e := AList.lookup_insert r.entries
  have hdebit := debit_erase (r := ⟨r.config, r.entries.insert key e, bytes⟩) hbytes hlookup
  rw [hlookup, okOr_some, ok_bind, hdebit, reassemble_of_filled hpieces, erase_insert]
  rfl

theorem Sound.extend_outcome (h : r.Sound) (he : r.entries.lookup key = some e) (hf : f.WellFormed) (now : Nat)
    (order : Chooser FragmentKey) :
    ∃ t out, r.extend key e f = .ok (r.withEntries t, out) ∧ Outcome r key f now order t out := by
  have hsound := h.entry he
  unfold extend
  by_cases hmatches : e.Matches f
  · have hsame : ¬ (e.fragTotal ≠ f.fragTotal ∨ e.innerMsgType ≠ f.innerMsgType) := by
      rw [hmatches.fragTotal, hmatches.innerMsgType]
      exact fun hne => hne.elim (· rfl) (· rfl)
    have hindex : f.fragIndex.toNat < e.chunks.length := by
      rw [hsound.length_eq, hmatches.fragTotal]
      exact UInt16.lt_iff_toNat_lt.mp hf.fragIndex_lt
    rw [if_neg hsame]
    dsimp only
    cases hslot : e.chunks[f.fragIndex.toNat]? with
    | none => exact absurd (List.getElem?_eq_none_iff.mp hslot) (not_le.mpr hindex)
    | some slot =>
      rw [okOr_some, ok_bind]
      cases slot with
      | some chunk =>
        refine ⟨r.entries, none, ?_, .duplicate he hmatches hslot⟩
        rw [← h.eq_withEntries]
        rfl
      | none =>
        have hbytes : r.totalBytes + f.payload.length =
            total Entry.totalBytes (r.entries.insert key (e.store f)) := by rw [total_store he, h.bytes]
        rw [if_neg (by simp), if_neg (not_lt.mpr (h.store_fits he hf))]
        split
        case isTrue hlast =>
            have hfilled : filled (e.store f).chunks = (e.store f).chunks.length := by
              rw [Entry.filled_store hslot, ← hsound.toNat_receivedCount, hlast, Entry.store, List.length_set,
                hsound.length_eq]
            obtain ⟨pieces, hpieces⟩ := eq_map_some_of_filled hfilled
            have htake := take_completed key hpieces hbytes
            exact ⟨_, _, htake.trans (by rw [← hmatches.innerMsgType]; rfl), .completed he hmatches hslot hpieces⟩
        case isFalse hlast =>
            have hmore : filled e.chunks + 1 < e.fragTotal.toNat := by
              have hne : filled e.chunks + 1 ≠ e.fragTotal.toNat := by
                rw [← hsound.toNat_receivedCount]
                exact fun heq => hlast (UInt16.toNat_inj.mp heq)
              have := hsound.incomplete
              omega
            refine ⟨_, none, ?_, .stored he hmatches hslot hmore⟩
            rw [hbytes]
            rfl
  · have hdiffers : e.fragTotal ≠ f.fragTotal ∨ e.innerMsgType ≠ f.innerMsgType := by
      by_contra hsame
      rw [not_or, not_not, not_not] at hsame
      exact hmatches ⟨hsame.1, hsame.2⟩
    rw [if_pos hdiffers, debit_erase h.bytes he]
    exact ⟨_, none, rfl, .contradicted he hmatches⟩

theorem Sound.of_enforceCaps (h : r.Sound) {t : Table FragmentKey Entry}
    (hcaps : r.enforceCapsForNewEntry order = .ok (r.withEntries t)) :
    r.HasRoom t ∧ t.keys.length ≤ r.len ∧ ∀ key e, t.lookup key = some e → r.entries.lookup key = some e := by
  obtain ⟨t', hcaps', hspec⟩ := h.enforceCaps order
  have ht : t' = t := congrArg entries (Except.ok.inj (hcaps'.symm.trans hcaps))
  exact ht ▸ hspec

theorem Sound.lookup_of_enforceCaps (h : r.Sound) {t : Table FragmentKey Entry}
    (hcaps : r.enforceCapsForNewEntry order = .ok (r.withEntries t)) (hnone : r.entries.lookup key = none) :
    t.lookup key = none := by
  by_contra hsome
  obtain ⟨e, he⟩ := Option.ne_none_iff_exists'.mp hsome
  rw [(h.of_enforceCaps hcaps).2.2 key e he] at hnone
  cases hnone

theorem Sound.openEntry_outcome (h : r.Sound) (hadmits : r.config.Admits f.fragTotal)
    (hnone : r.entries.lookup key = none) (hf : f.WellFormed) (now : Nat) (order : Chooser FragmentKey) :
    ∃ t out, r.openEntry key f now order = .ok (r.withEntries t, out) ∧ Outcome r key f now order t out := by
  obtain ⟨t, hcaps, -⟩ := h.enforceCaps order
  have hindex : f.fragIndex.toNat < (List.replicate f.fragTotal.toNat (none : Option Bytes)).length := by
    rw [List.length_replicate]
    exact UInt16.lt_iff_toNat_lt.mp hf.fragIndex_lt
  have htnone := h.lookup_of_enforceCaps hcaps hnone
  unfold openEntry
  rw [hcaps, ok_bind]
  dsimp only
  rw [ensure_of hindex, ok_bind]
  split
  case isTrue hone =>
      have hpieces : (Entry.ofFragment f now).chunks = [f.payload].map some := by
        have hzero : f.fragIndex = 0 := by
          have := UInt16.lt_iff_toNat_lt.mp hf.fragIndex_lt
          rw [← hone] at this
          exact UInt16.toNat_inj.mp (Nat.lt_one_iff.mp this)
        rw [Entry.ofFragment, ← hone, hzero]
        rfl
      have hdebit : ({ r.withEntries t with totalBytes := (r.withEntries t).totalBytes + f.payload.length }).debitBytes
          f.payload.length = .ok (r.withEntries t) := by
        rw [debitBytes, ensure_of (Nat.le_add_left _ _), Nat.add_sub_cancel]
        rfl
      have hmessage := reassemble_of_filled hpieces
      refine ⟨t, _, ?_, .single hadmits hnone hcaps hone.symm⟩
      rw [hdebit, ok_bind]
      exact (congrArg (· >>= _) hmessage).trans (by rw [ok_bind, List.flatten_singleton]; rfl)
  case isFalse hne =>
      have hmore : 1 < f.fragTotal.toNat := by
        have hzero : f.fragTotal.toNat ≠ 0 := fun hz => hf.fragTotal_ne_zero (UInt16.toNat_inj.mp hz)
        have hone : f.fragTotal.toNat ≠ 1 := fun ho => hne (UInt16.toNat_inj.mp ho.symm)
        omega
      have hbytes : (r.withEntries t).totalBytes + f.payload.length =
          total Entry.totalBytes (t.insert key (Entry.ofFragment f now)) := by
        rw [total_insert, erase_of_lookup htnone]
        rfl
      refine ⟨_, none, ?_, .opened hadmits hnone hcaps hmore⟩
      rw [hbytes]
      rfl

theorem Sound.insert_outcome (h : r.Sound) (source : SocketAddr) (hf : f.WellFormed) (now : Nat)
    (order : Chooser FragmentKey) :
    ∃ t out, r.insert source f now order = .ok (r.withEntries t, out) ∧
      Outcome (r.withEntries (r.live now)) (source, f.fragId) f now order t out := by
  have hlive := h.live now
  unfold insert
  rw [h.purgeExpired now, ok_bind]
  split
  case isTrue hrefused => exact ⟨_, _, rfl, .refused hrefused⟩
  case isFalse hadmits =>
      cases he : (r.withEntries (r.live now)).entries.lookup (source, f.fragId) with
      | some e => exact hlive.extend_outcome he hf now order
      | none => exact hlive.openEntry_outcome (not_not.mp hadmits) he hf now order

/-! ### What every insert keeps -/

theorem lookup_insert_cases {t : Table FragmentKey Entry} {k : FragmentKey} {e' : Entry}
    (h : (t.insert key e).lookup k = some e') : k = key ∧ e' = e ∨ t.lookup k = some e' := by
  by_cases hk : k = key
  · rw [hk, AList.lookup_insert] at h
    exact .inl ⟨hk, (Option.some.inj h).symm⟩
  · rw [AList.lookup_insert_ne hk] at h
    exact .inr h

theorem Sound.put (h : r.Sound) {t : Table FragmentKey Entry}
    (hsub : ∀ k e, t.lookup k = some e → r.entries.lookup k = some e) (he : e.Sound)
    (hadmits : r.config.Admits e.fragTotal) (hlen : (t.insert key e).keys.length ≤ max r.config.maxEntries 1) :
    (r.withEntries (t.insert key e)).Sound where
  entry hk := (lookup_insert_cases hk).elim (fun heq => heq.2 ▸ he) fun hold => h.entry (hsub _ _ hold)
  admitted hk := (lookup_insert_cases hk).elim (fun heq => heq.2 ▸ hadmits) fun hold => h.admitted (hsub _ _ hold)
  bytes := rfl
  len_le := hlen

theorem Sound.outcome (h : r.Sound) (hf : f.WellFormed) {t : Table FragmentKey Entry}
    {out : Option (MessageType × Bytes)} (hout : Outcome r key f now order t out) : (r.withEntries t).Sound := by
  cases hout with
  | refused => exact h.eq_withEntries ▸ h
  | contradicted => exact h.erase key
  | duplicate => exact h.eq_withEntries ▸ h
  | stored he hmatches hslot hmore =>
    have hadmits := h.admitted he
    refine h.put (fun _ _ hk => hk) ((h.entry he).store hf hslot hmore) hadmits ?_
    rw [keys_length_insert_of_some he]
    exact h.len_le
  | completed => exact h.erase key
  | opened hadmits hnone hcaps hmore =>
    rename_i t
    obtain ⟨hroom, -, hsub⟩ := h.of_enforceCaps hcaps
    have htnone := h.lookup_of_enforceCaps hcaps hnone
    refine h.put hsub (Entry.sound_ofFragment hf now hmore) hadmits ?_
    rw [keys_length_insert htnone]
    rcases hroom with ⟨hlen, -⟩ | hempty
    · exact Nat.succ_le_of_lt hlen |>.trans (le_max_left _ _)
    · have hlen : t.keys.length = 0 := by rw [AList.keys, hempty]; rfl
      rw [hlen]
      exact le_max_right _ _
  | single hadmits hnone hcaps =>
    obtain ⟨-, hlen, hsub⟩ := h.of_enforceCaps hcaps
    exact h.shrink hsub hlen

def Chunks (P : FragmentKey → MessageType → UInt16 → Nat → Bytes → Prop) (t : Table FragmentKey Entry) : Prop :=
  ∀ k e i chunk, t.lookup k = some e → e.chunks[i]? = some (some chunk) → P k e.innerMsgType e.fragTotal i chunk

variable {P : FragmentKey → MessageType → UInt16 → Nat → Bytes → Prop} {t t' : Table FragmentKey Entry}
  {out : Option (MessageType × Bytes)}

theorem Chunks.mono {Q : FragmentKey → MessageType → UInt16 → Nat → Bytes → Prop} (h : Chunks P t)
    (hPQ : ∀ {k type n i chunk}, P k type n i chunk → Q k type n i chunk) : Chunks Q t :=
  fun k e i chunk he hchunk => hPQ (h k e i chunk he hchunk)

theorem Chunks.sub (h : Chunks P t) (hsub : ∀ k e, t'.lookup k = some e → t.lookup k = some e) : Chunks P t' :=
  fun k e i chunk he => h k e i chunk (hsub k e he)

theorem Chunks.live (h : Chunks P r.entries) (now : Nat) : Chunks P (r.live now) :=
  h.sub fun _ _ he => (lookup_live.mp he).1

variable {i : Nat} {payload chunk : Bytes}

theorem getElem?_set_some {slots : List (Option Bytes)} {j : Nat}
    (h : (slots.set j (some payload))[i]? = some (some chunk)) :
    i = j ∧ chunk = payload ∨ slots[i]? = some (some chunk) := by
  by_cases hij : j = i
  · subst hij
    rw [List.getElem?_set_self'] at h
    obtain ⟨x, -, hx⟩ := Option.map_eq_some_iff.mp h
    exact .inl ⟨rfl, (Option.some.inj hx).symm⟩
  · rw [List.getElem?_set_ne hij] at h
    exact .inr h

theorem Chunks.store (h : Chunks P r.entries) (he : r.entries.lookup key = some e) (hmatches : e.Matches f)
    (hnew : P key f.innerMsgType f.fragTotal f.fragIndex.toNat f.payload)
    (hchunk : (e.store f).chunks[i]? = some (some chunk)) : P key f.innerMsgType f.fragTotal i chunk := by
  rcases getElem?_set_some hchunk with ⟨rfl, rfl⟩ | hold
  · exact hnew
  · have := h key e i chunk he hold
    rwa [hmatches.fragTotal, hmatches.innerMsgType] at this

theorem Chunks.outcome (h : Chunks P r.entries) (hs : r.Sound)
    (hnew : P key f.innerMsgType f.fragTotal f.fragIndex.toNat f.payload)
    (hout : Outcome r key f now order t out) : Chunks P t := by
  cases hout with
  | refused => exact h
  | contradicted => exact h.sub fun _ _ => lookup_of_erase
  | duplicate => exact h
  | stored he hmatches hslot hmore =>
    intro k e' i chunk hk hchunk
    rcases lookup_insert_cases hk with ⟨rfl, rfl⟩ | hold
    · have := h.store he hmatches hnew hchunk
      rwa [← hmatches.fragTotal, ← hmatches.innerMsgType] at this
    · exact h k e' i chunk hold hchunk
  | completed => exact h.sub fun _ _ => lookup_of_erase
  | opened hadmits hnone hcaps =>
    intro k e' i chunk hk hchunk
    rcases lookup_insert_cases hk with ⟨rfl, rfl⟩ | hold
    · rcases getElem?_set_some hchunk with ⟨rfl, rfl⟩ | hnone
      · exact hnew
      · rw [List.getElem?_replicate] at hnone
        split at hnone <;> cases hnone
    · exact h k e' i chunk ((hs.of_enforceCaps hcaps).2.2 k e' hold) hchunk
  | single hadmits hnone hcaps => exact h.sub (hs.of_enforceCaps hcaps).2.2

theorem Chunks.message (h : Chunks P r.entries) (hs : r.Sound) (hf : f.WellFormed)
    (hnew : P key f.innerMsgType f.fragTotal f.fragIndex.toNat f.payload)
    {type : MessageType} (hout : Outcome r key f now order t (some (type, payload))) :
    type = f.innerMsgType ∧ ∃ pieces : List Bytes, pieces.length = f.fragTotal.toNat ∧ payload = pieces.flatten ∧
      ∀ i chunk, pieces[i]? = some chunk → P key type f.fragTotal i chunk := by
  cases hout with
  | completed he hmatches hslot hpieces =>
    rename_i e pieces
    have hlength : pieces.length = f.fragTotal.toNat := by
      rw [← hmatches.fragTotal, ← (hs.entry he).length_eq, ← List.length_map some, ← hpieces]
      exact List.length_set
    refine ⟨rfl, pieces, hlength, rfl, ?_⟩
    intro i chunk hchunk
    apply h.store he hmatches hnew
    rw [hpieces, List.getElem?_map, hchunk]
    rfl
  | single hadmits hnone hcaps hone =>
    have hzero : f.fragIndex.toNat = 0 := by
      have hlt := UInt16.lt_iff_toNat_lt.mp hf.fragIndex_lt
      rw [hone] at hlt
      exact Nat.lt_one_iff.mp hlt
    refine ⟨rfl, [f.payload], by rw [hone]; rfl, (List.flatten_singleton).symm, ?_⟩
    intro i chunk hchunk
    obtain ⟨rfl, rfl⟩ : i = 0 ∧ f.payload = chunk := by
      rw [List.getElem?_singleton] at hchunk
      split at hchunk
      · exact ⟨‹_›, Option.some.inj hchunk⟩
      · cases hchunk
    exact hzero ▸ hnew

end Reassembly

end HpnVpn
