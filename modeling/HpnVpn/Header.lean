import HpnVpn.Types

/-! The packet header, 24 bytes or 32 with a timestamp, which is also the associated data of every encrypted packet.
-/
namespace HpnVpn
open Wire

def headerSize : Nat := 24
def headerSizeWithTimestamp : Nat := 32

/-- The flag bits the protocol allocates; bit 3 is undefined. -/
def HeaderFlags.all : UInt8 := 0b11110111

structure HeaderFlags where
  bits : UInt8
  defined : bits &&& HeaderFlags.all = bits
deriving DecidableEq

namespace HeaderFlags

def empty : HeaderFlags := ⟨0, by decide⟩

def hasTimestamp : HeaderFlags := ⟨1, by decide⟩

def fromBits (bits : UInt8) : Option HeaderFlags :=
  if h : bits &&& all = bits then some ⟨bits, h⟩ else none

variable (f g : HeaderFlags)

def contains : Bool := f.bits &&& g.bits == g.bits

def insert : HeaderFlags :=
  ⟨f.bits ||| g.bits, by
    have hf := congrArg UInt8.toBitVec f.defined
    have hg := congrArg UInt8.toBitVec g.defined
    apply UInt8.toBitVec_inj.mp
    simp only [UInt8.toBitVec_and, UInt8.toBitVec_or] at hf hg ⊢
    rw [← hf, ← hg]
    ext i hi
    simp only [BitVec.getElem_and, BitVec.getElem_or]
    cases f.bits.toBitVec[i] <;> cases g.bits.toBitVec[i] <;> simp⟩

@[simp] theorem fromBits_bits : fromBits f.bits = some f := by
  simp [fromBits, f.defined]

theorem fromBits_eq_some {bits : UInt8} {f : HeaderFlags} : fromBits bits = some f ↔ bits = f.bits := by
  constructor
  · intro h
    unfold fromBits at h
    split at h
    · cases h
      rfl
    · cases h
  · rintro rfl
    exact fromBits_bits f

end HeaderFlags

structure PacketHeader where
  version : UInt8
  msgType : MessageType
  flags : HeaderFlags
  reserved : UInt8
  sessionId : SessionId
  keyId : KeyId
  counter : Counter
  timestamp : Option UInt64
deriving DecidableEq

namespace PacketHeader

def new (msgType : MessageType) (sessionId : SessionId) (keyId : KeyId) (counter : Counter) : PacketHeader where
  version := protocolVersion
  msgType := msgType
  flags := HeaderFlags.empty
  reserved := 0
  sessionId := sessionId
  keyId := keyId
  counter := counter
  timestamp := none

def withTimestamp (h : PacketHeader) (timestamp : UInt64) : PacketHeader :=
  { h with flags := h.flags.insert HeaderFlags.hasTimestamp, timestamp := some timestamp }

def encodedSize (h : PacketHeader) : Nat :=
  if h.timestamp.isSome then headerSizeWithTimestamp else headerSize

def timestampBytes : Option UInt64 → Bytes
  | some ts => (be64 ts).bytes
  | none => []

def toBytes (h : PacketHeader) : Bytes :=
  let flags := if h.timestamp.isSome then h.flags.insert HeaderFlags.hasTimestamp else h.flags
  [h.version, h.msgType.asU8, flags.bits, h.reserved] ++
    ((be64 h.sessionId).bytes ++ ((be32 h.keyId).bytes ++ ((be64 h.counter).bytes ++ timestampBytes h.timestamp)))

def encode (h : PacketHeader) (bufLen : Nat) : Except ProtocolError Bytes := do
  ensure (h.encodedSize ≤ bufLen) (.packetTooShort h.encodedSize bufLen)
  .ok h.toBytes

/-- The optional timestamp after the fixed part; `bufLen` is the length of the whole packet. -/
def decodeTimestamp (flags : HeaderFlags) (bufLen : Nat) (rest : Bytes) : Except ProtocolError (Option UInt64) :=
  if flags.contains HeaderFlags.hasTimestamp then do
    let (ts, _) ← takeBlock (.packetTooShort headerSizeWithTimestamp bufLen) 8 rest
    .ok (some (ofBe64 ts))
  else .ok none

def decode (buf : Bytes) : Except ProtocolError PacketHeader := do
  let short := ProtocolError.packetTooShort headerSize buf.length
  ensure (headerSize ≤ buf.length) short
  match buf with
  | version :: msgType :: flags :: reserved :: rest =>
    ensure (version = protocolVersion) (.invalidVersion version)
    let msgType ← okOr (MessageType.fromU8 msgType) (.invalidMessageType msgType)
    let flags ← okOr (HeaderFlags.fromBits flags) (.invalidHeaderFlags flags)
    ensure (reserved = 0) (.invalidReservedByte reserved)
    let (sessionId, rest) ← takeBlock short 8 rest
    let (keyId, rest) ← takeBlock short 4 rest
    let (counter, rest) ← takeBlock short 8 rest
    let timestamp ← decodeTimestamp flags buf.length rest
    .ok
      { version, msgType, flags, reserved
        sessionId := ofBe64 sessionId
        keyId := ofBe32 keyId
        counter := ofBe64 counter
        timestamp }
  | _ => .error short

/-- The headers that travel: what `decode` can return and what `encode` loses nothing of. -/
structure WellFormed (h : PacketHeader) : Prop where
  version : h.version = protocolVersion
  reserved : h.reserved = 0
  timestamp : h.flags.contains HeaderFlags.hasTimestamp = h.timestamp.isSome

theorem new_wellFormed (msgType : MessageType) (sessionId : SessionId) (keyId : KeyId)
    (counter : Counter) : (new msgType sessionId keyId counter).WellFormed :=
  ⟨rfl, rfl, by simp [new]; decide⟩

@[simp] theorem toBytes_length (h : PacketHeader) : h.toBytes.length = h.encodedSize := by
  cases hts : h.timestamp <;> simp [toBytes, timestampBytes, encodedSize, hts, headerSize, headerSizeWithTimestamp]

theorem headerSize_le_encodedSize (h : PacketHeader) : headerSize ≤ h.encodedSize := by
  unfold encodedSize
  split <;> simp [headerSize, headerSizeWithTimestamp]

variable {h : PacketHeader}

theorem WellFormed.encodedFlags (hwf : h.WellFormed) :
    (if h.timestamp.isSome then h.flags.insert HeaderFlags.hasTimestamp else h.flags) = h.flags := by
  split
  case isTrue hts =>
      have hset : h.flags.bits &&& 1 = 1 := by
        have h' := hwf.timestamp
        rw [hts] at h'
        simpa [HeaderFlags.contains, HeaderFlags.hasTimestamp] using h'
      have hor : h.flags.bits ||| 1 = h.flags.bits := by
        apply UInt8.toBitVec_inj.mp
        have hbits := congrArg UInt8.toBitVec hset
        simp only [UInt8.toBitVec_and, UInt8.toBitVec_or] at hbits ⊢
        rw [← hbits]
        ext i hi
        rw [BitVec.getElem_or, BitVec.getElem_and]
        cases h.flags.bits.toBitVec[i] <;> simp
      simp [HeaderFlags.insert, HeaderFlags.hasTimestamp, hor]
  case isFalse => rfl

theorem decodeTimestamp_eq_ok {flags : HeaderFlags} {bufLen : Nat} {rest : Bytes} {ts : Option UInt64} :
    decodeTimestamp flags bufLen rest = .ok ts ↔
      flags.contains HeaderFlags.hasTimestamp = ts.isSome ∧ ∃ tail, rest = timestampBytes ts ++ tail := by
  unfold decodeTimestamp
  split
  case isTrue hflag =>
      simp only [bind_ok_iff, Prod.exists, takeBlock_eq_ok, Except.ok.injEq]
      constructor
      · rintro ⟨block, tail, rfl, rfl⟩
        exact ⟨by simpa using hflag, tail, by simp [timestampBytes]⟩
      · rintro ⟨hsome, tail, rfl⟩
        cases ts with
        | none => simp [hflag] at hsome
        | some ts => exact ⟨be64 ts, tail, rfl, by simp⟩
  case isFalse hflag =>
      cases ts <;> simp_all [timestampBytes]

theorem decode_eq_ok {buf : Bytes} : decode buf = .ok h ↔ h.WellFormed ∧ ∃ rest, buf = h.toBytes ++ rest := by
  constructor
  · intro hdecode
    unfold decode at hdecode
    simp only [bind_ok_iff, ensure_eq_ok] at hdecode
    obtain ⟨_, -, hdecode⟩ := hdecode
    obtain _ | ⟨version, _ | ⟨msgType, _ | ⟨flags, _ | ⟨reserved, rest⟩⟩⟩⟩ := buf
    iterate 4 cases hdecode
    · simp only [bind_ok_iff, ensure_eq_ok, okOr_eq_ok, Prod.exists, takeBlock_eq_ok,
        decodeTimestamp_eq_ok, HeaderFlags.fromBits_eq_some, MessageType.fromU8_eq_some] at hdecode
      obtain ⟨_, hversion, msgType, rfl, flags, rfl, _, hreserved, hdecode⟩ := hdecode
      obtain ⟨sessionId, _, rfl, keyId, _, rfl, counter, _, rfl, ts, ⟨hts, tail, rfl⟩, hh⟩ := hdecode
      cases hh
      have hwf : WellFormed ⟨version, msgType, flags, reserved, ofBe64 sessionId, ofBe32 keyId,
          ofBe64 counter, ts⟩ := ⟨hversion, hreserved, hts⟩
      exact ⟨hwf, tail, by simp [toBytes, hwf.encodedFlags]⟩
  · rintro ⟨hwf, rest, rfl⟩
    have hlen : headerSize ≤ (h.toBytes ++ rest).length := by
      have := h.headerSize_le_encodedSize
      simp only [List.length_append, toBytes_length]
      omega
    have hts : ∀ n, decodeTimestamp h.flags n (timestampBytes h.timestamp ++ rest) = .ok h.timestamp :=
      fun n => decodeTimestamp_eq_ok.mpr ⟨hwf.timestamp, rest, rfl⟩
    unfold decode
    simp only [ensure_of hlen, ok_bind]
    simp only [toBytes, hwf.encodedFlags, List.append_assoc, List.cons_append, List.nil_append,
      ensure_of hwf.version, ensure_of hwf.reserved, ok_bind, MessageType.fromU8_asU8, okOr_some,
      HeaderFlags.fromBits_bits, takeBlock_append, hts, ofBe64_be64, ofBe32_be32]

theorem headerSize_le_of_decode {data : Bytes} (hdecode : decode data = .ok h) : headerSize ≤ data.length := by
  obtain ⟨-, rest, rfl⟩ := decode_eq_ok.mp hdecode
  rw [List.length_append, toBytes_length]
  exact h.headerSize_le_encodedSize.trans (Nat.le_add_right _ _)

theorem decode_toBytes (hwf : h.WellFormed) (rest : Bytes) : decode (h.toBytes ++ rest) = .ok h :=
  decode_eq_ok.mpr ⟨hwf, rest, rfl⟩

theorem WellFormed.toBytes_inj {h' : PacketHeader} (hwf : h.WellFormed) (hwf' : h'.WellFormed)
    (heq : h.toBytes = h'.toBytes) : h = h' := by
  have hdecode := decode_toBytes hwf []
  rw [heq, decode_toBytes hwf' []] at hdecode
  exact (Except.ok.inj hdecode).symm

end PacketHeader
end HpnVpn
