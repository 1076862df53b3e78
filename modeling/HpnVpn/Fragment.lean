import HpnVpn.Types

/-! Handshake messages that do not fit one datagram travel in fragments of at most 1165 bytes. -/
namespace HpnVpn
open Wire

def maxFragmentPayload : Nat := 1165
def maxFragmentsPerHandshake : Nat := 32
def fragmentationThreshold : Nat := 1176
def fragmentHeaderSize : Nat := 1 + 4 + 2 + 2 + 2

structure HandshakeFragment where
  innerMsgType : MessageType
  fragId : UInt32
  fragIndex : UInt16
  fragTotal : UInt16
  payload : Bytes
deriving DecidableEq

namespace HandshakeFragment

def isValidInnerType : MessageType → Bool
  | .handshakeInit | .encryptedHandshakeInit | .handshakeResponse => true
  | _ => false

def toBytes (f : HandshakeFragment) : Bytes :=
  f.innerMsgType.asU8 :: ((be32 f.fragId).bytes ++ ((be16 f.fragIndex).bytes ++ ((be16 f.fragTotal).bytes ++
    ((be16 (UInt16.ofNat f.payload.length)).bytes ++ f.payload))))

def fromBytes (bytes : Bytes) : Except ProtocolError HandshakeFragment := do
  let short := ProtocolError.packetTooShort fragmentHeaderSize bytes.length
  ensure (fragmentHeaderSize ≤ bytes.length) short
  match bytes with
  | [] => .error short
  | value :: rest =>
    let innerMsgType ← okOr (MessageType.fromU8 value)
      (.invalidData s!"unknown inner_msg_type byte {value} in HandshakeFragment")
    ensure (isValidInnerType innerMsgType)
      (.invalidData s!"inner_msg_type {innerMsgType.debug} is not a valid fragmentable handshake message")
    let (fragId, rest) ← takeBlock short 4 rest
    let (fragIndex, rest) ← takeBlock short 2 rest
    let (fragTotal, rest) ← takeBlock short 2 rest
    let (payloadLen, rest) ← takeBlock short 2 rest
    let fragIndex := ofBe16 fragIndex
    let fragTotal := ofBe16 fragTotal
    let payloadLen := (ofBe16 payloadLen).toNat
    ensure (fragTotal ≠ 0 ∧ fragTotal.toNat ≤ maxFragmentsPerHandshake)
      (.invalidData s!"frag_total {fragTotal} out of range (1..={maxFragmentsPerHandshake})")
    ensure (fragIndex < fragTotal) (.invalidData s!"frag_index {fragIndex} >= frag_total {fragTotal}")
    ensure (payloadLen ≤ maxFragmentPayload)
      (.invalidData s!"payload_len {payloadLen} exceeds MAX_FRAGMENT_PAYLOAD {maxFragmentPayload}")
    ensure (payloadLen ≤ rest.length) (.packetTooShort (fragmentHeaderSize + payloadLen) bytes.length)
    return { innerMsgType, fragId := ofBe32 fragId, fragIndex, fragTotal, payload := rest.take payloadLen }

/-- The fragments that travel: what `fromBytes` can return and what `toBytes` loses nothing of. -/
structure WellFormed (f : HandshakeFragment) : Prop where
  innerMsgType : isValidInnerType f.innerMsgType = true
  fragTotal_le : f.fragTotal.toNat ≤ maxFragmentsPerHandshake
  fragIndex_lt : f.fragIndex < f.fragTotal
  payload_le : f.payload.length ≤ maxFragmentPayload

variable {f : HandshakeFragment}

theorem WellFormed.fragTotal_ne_zero (h : f.WellFormed) : f.fragTotal ≠ 0 := by
  have hlt := UInt16.lt_iff_toNat_lt.mp h.fragIndex_lt
  intro hzero
  rw [hzero] at hlt
  exact absurd hlt (Nat.not_lt_zero _)

theorem WellFormed.toNat_length (h : f.WellFormed) : (UInt16.ofNat f.payload.length).toNat = f.payload.length := by
  have hle := h.payload_le
  unfold maxFragmentPayload at hle
  rw [UInt16.toNat_ofNat', Nat.mod_eq_of_lt (by omega)]

theorem fromBytes_eq_ok {bytes : Bytes} :
    fromBytes bytes = .ok f ↔ f.WellFormed ∧ ∃ rest, bytes = f.toBytes ++ rest := by
  constructor
  · intro h
    unfold fromBytes at h
    simp only [bind_ok_iff, ensure_eq_ok] at h
    obtain ⟨_, -, h⟩ := h
    cases bytes with
    | nil => cases h
    | cons value tail =>
      simp only [bind_ok_iff, ensure_eq_ok, okOr_eq_ok, Prod.exists, takeBlock_eq_ok, MessageType.fromU8_eq_some] at h
      obtain ⟨type, rfl, _, htype, fragId, _, rfl, fragIndex, _, rfl, fragTotal, _, rfl, h⟩ := h
      obtain ⟨payloadLen, rest, rfl, h⟩ := h
      obtain ⟨_, htotal, _, hindex, _, hle, _, hlen, h⟩ := h
      cases h
      have hlength : (rest.take (ofBe16 payloadLen).toNat).length = (ofBe16 payloadLen).toNat :=
        List.length_take_of_le hlen
      refine ⟨⟨htype, htotal.2, hindex, hlength.trans_le hle⟩, rest.drop (ofBe16 payloadLen).toNat, ?_⟩
      simp only [toBytes, hlength, UInt16.ofNat_toNat, be16_ofBe16, be32_ofBe32, List.cons_append,
        List.append_assoc, List.take_append_drop]
  · rintro ⟨hwf, rest, rfl⟩
    have hpayload : f.payload.length ≤ (f.payload ++ rest).length := by simp
    unfold fromBytes
    simp only [toBytes, List.cons_append, List.append_assoc, MessageType.fromU8_asU8, okOr_some, ok_bind,
      ensure_of hwf.innerMsgType, takeBlock_append, ofBe16_be16, ofBe32_be32, hwf.toNat_length,
      ensure_of (And.intro hwf.fragTotal_ne_zero hwf.fragTotal_le), ensure_of hwf.fragIndex_lt,
      ensure_of hwf.payload_le, ensure_of hpayload, List.take_left]
    rfl

theorem fromBytes_toBytes (h : f.WellFormed) : fromBytes f.toBytes = .ok f :=
  fromBytes_eq_ok.mpr ⟨h, [], (List.append_nil _).symm⟩

end HandshakeFragment

inductive FragmentError
  | invalidInnerType (type : MessageType)
  | payloadTooLarge (payloadLen requiredFragments : Nat)
  | emptyPayload
deriving DecidableEq

def FragmentError.display : FragmentError → String
  | invalidInnerType type =>
    s!"cannot fragment message of type {type.debug}; fragmentation only applies to " ++
      "HandshakeInit / EncryptedHandshakeInit / HandshakeResponse"
  | payloadTooLarge payloadLen requiredFragments =>
    s!"payload of {payloadLen} bytes would need {requiredFragments} fragments (max {maxFragmentsPerHandshake})"
  | emptyPayload => "cannot fragment an empty payload"

def splitPayload (innerMsgType : MessageType) (fragId : UInt32) (payload : Bytes) :
    Except FragmentError (List HandshakeFragment) := do
  ensure (HandshakeFragment.isValidInnerType innerMsgType) (.invalidInnerType innerMsgType)
  ensure (payload ≠ []) .emptyPayload
  let required := (payload.length + maxFragmentPayload - 1) / maxFragmentPayload
  ensure (required ≤ maxFragmentsPerHandshake) (.payloadTooLarge payload.length required)
  return (List.range required).map fun index =>
    { innerMsgType, fragId
      fragIndex := UInt16.ofNat index
      fragTotal := UInt16.ofNat required
      payload := (payload.drop (index * maxFragmentPayload)).take maxFragmentPayload }

def buildHandshakeFragments (innerMsgType : MessageType) (fragId : UInt32) (payload : Bytes) :
    Except FragmentError (List Bytes) := do
  let fragments ← splitPayload innerMsgType fragId payload
  return fragments.map HandshakeFragment.toBytes

/-! ### The fragments of a message -/

def fragmentCount (payload : Bytes) : Nat := (payload.length + maxFragmentPayload - 1) / maxFragmentPayload

def chunkAt (payload : Bytes) (index : Nat) : Bytes :=
  (payload.drop (index * maxFragmentPayload)).take maxFragmentPayload

def fragmentAt (innerMsgType : MessageType) (fragId : UInt32) (payload : Bytes) (index : Nat) : HandshakeFragment where
  innerMsgType := innerMsgType
  fragId := fragId
  fragIndex := UInt16.ofNat index
  fragTotal := UInt16.ofNat (fragmentCount payload)
  payload := chunkAt payload index

structure Fragmentable (innerMsgType : MessageType) (payload : Bytes) : Prop where
  innerMsgType : HandshakeFragment.isValidInnerType innerMsgType = true
  payload_ne : payload ≠ []
  payload_le : payload.length ≤ maxFragmentsPerHandshake * maxFragmentPayload

namespace Fragmentable
variable {innerMsgType : MessageType} {payload : Bytes}

theorem fragmentCount_le (h : Fragmentable innerMsgType payload) :
    fragmentCount payload ≤ maxFragmentsPerHandshake := by
  have hle := h.payload_le
  unfold fragmentCount maxFragmentsPerHandshake maxFragmentPayload at *
  omega

theorem fragmentCount_pos (h : Fragmentable innerMsgType payload) : 0 < fragmentCount payload := by
  have hpos := List.length_pos_of_ne_nil h.payload_ne
  unfold fragmentCount maxFragmentPayload
  omega

theorem length_le (h : Fragmentable innerMsgType payload) :
    payload.length ≤ fragmentCount payload * maxFragmentPayload := by
  have hpos := List.length_pos_of_ne_nil h.payload_ne
  unfold fragmentCount maxFragmentPayload
  omega

theorem toNat_count (h : Fragmentable innerMsgType payload) :
    (UInt16.ofNat (fragmentCount payload)).toNat = fragmentCount payload := by
  have hle := h.fragmentCount_le
  unfold maxFragmentsPerHandshake at hle
  rw [UInt16.toNat_ofNat', Nat.mod_eq_of_lt (by omega)]

theorem toNat_index (h : Fragmentable innerMsgType payload) {index : Nat} (hindex : index < fragmentCount payload) :
    (UInt16.ofNat index).toNat = index := by
  have hle := h.fragmentCount_le
  unfold maxFragmentsPerHandshake at hle
  rw [UInt16.toNat_ofNat', Nat.mod_eq_of_lt (by omega)]

theorem wellFormed (h : Fragmentable innerMsgType payload) (fragId : UInt32) {index : Nat}
    (hindex : index < fragmentCount payload) : (fragmentAt innerMsgType fragId payload index).WellFormed where
  innerMsgType := h.innerMsgType
  fragTotal_le := h.toNat_count.trans_le h.fragmentCount_le
  fragIndex_lt := by
    rw [fragmentAt, UInt16.lt_iff_toNat_lt, h.toNat_count, h.toNat_index hindex]
    exact hindex
  payload_le := List.length_take_le _ _

theorem buildHandshakeFragments_eq (h : Fragmentable innerMsgType payload) (fragId : UInt32) :
    buildHandshakeFragments innerMsgType fragId payload =
      .ok ((List.range (fragmentCount payload)).map fun i => (fragmentAt innerMsgType fragId payload i).toBytes) := by
  have hcount := h.fragmentCount_le
  unfold fragmentCount at hcount
  rw [buildHandshakeFragments, splitPayload, ensure_of h.innerMsgType, ok_bind, ensure_of h.payload_ne, ok_bind]
  dsimp only
  rw [ensure_of hcount, ok_bind]
  exact congrArg Except.ok List.map_map

end Fragmentable

variable {payload : Bytes}

theorem buildHandshakeFragments_of_long {innerMsgType : MessageType}
    (htype : HandshakeFragment.isValidInnerType innerMsgType = true) (fragId : UInt32)
    (hlong : maxFragmentsPerHandshake * maxFragmentPayload < payload.length) :
    buildHandshakeFragments innerMsgType fragId payload =
      .error (.payloadTooLarge payload.length (fragmentCount payload)) := by
  have hne : payload ≠ [] := List.ne_nil_of_length_pos (Nat.zero_lt_of_lt hlong)
  have hcount : ¬(payload.length + maxFragmentPayload - 1) / maxFragmentPayload ≤ maxFragmentsPerHandshake := by
    unfold maxFragmentsPerHandshake maxFragmentPayload at *
    omega
  rw [buildHandshakeFragments, splitPayload, ensure_of htype, ok_bind, ensure_of hne, ok_bind]
  dsimp only
  rw [ensure_of_not hcount]
  rfl

theorem flatten_chunkAt (payload : Bytes) (n : Nat) :
    ((List.range n).map (chunkAt payload)).flatten = payload.take (n * maxFragmentPayload) := by
  induction n with
  | zero => simp
  | succ n ih =>
    rw [List.range_succ, List.map_append, List.flatten_append, ih, List.map_singleton, List.flatten_singleton,
      chunkAt, Nat.succ_mul, List.take_add]

theorem Fragmentable.flatten_eq {innerMsgType : MessageType} (h : Fragmentable innerMsgType payload)
    {pieces : List Bytes} (hlength : pieces.length = fragmentCount payload)
    (hpieces : ∀ i chunk, pieces[i]? = some chunk → chunk = chunkAt payload i) : pieces.flatten = payload := by
  have heq : pieces = (List.range (fragmentCount payload)).map (chunkAt payload) := by
    apply List.ext_getElem?
    intro i
    cases hi : pieces[i]? with
    | none =>
      have hge := List.getElem?_eq_none_iff.mp hi
      rw [eq_comm, List.getElem?_eq_none_iff, List.length_map, List.length_range, ← hlength]
      exact hge
    | some chunk =>
      have hlt := (List.getElem?_eq_some_iff.mp hi).1
      rw [hlength] at hlt
      rw [List.getElem?_map, List.getElem?_range hlt, hpieces i chunk hi]
      rfl
  rw [heq, flatten_chunkAt, List.take_of_length_le h.length_le]

theorem fragmentable_of_build {msgType : MessageType} {fragId : UInt32} {bodies : List Bytes}
    (h : buildHandshakeFragments msgType fragId payload = .ok bodies) : Fragmentable msgType payload := by
  unfold buildHandshakeFragments splitPayload at h
  simp only [bind_ok_iff, ensure_eq_ok] at h
  obtain ⟨_, ⟨_, htype, _, hne, _, hcount, -⟩, -⟩ := h
  refine ⟨htype, hne, ?_⟩
  unfold maxFragmentPayload maxFragmentsPerHandshake at *
  omega

end HpnVpn
