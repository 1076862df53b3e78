import HpnVpn.Crypto
import HpnVpn.Slices

/-! The signed envelope in which the app hands its configuration to the tunnel provider. -/
namespace HpnVpn.ProviderEnvelope
open Wire

def magic : Bytes := ascii "HPNX"
def info : Bytes := ascii "HPN-PROVIDER-CONFIG-V1"
def maxPayloadLen : Nat := 64 * 1024
def masterKeyLen : Nat := 32

inductive EnvelopeError
  | tooShort (needed actual : Nat)
  | badMagic
  | badVersion (version : UInt8)
  | tooLarge (actual max : Nat)
  | badKeyLength (expected actual : Nat)
  | badHmac

def deriveSubkey (P : Primitives) (masterKey : Bytes) : Except EnvelopeError (Block 32) := do
  ensure (masterKey.length = masterKeyLen) (.badKeyLength masterKeyLen masterKey.length)
  return P.hkdfSha256 [] masterKey info 32

/-- Magic, version and three reserved bytes. -/
def start : Bytes := magic ++ [1, 0, 0, 0]

def buildMacInput (json : Bytes) : Bytes := start ++ ((be32 (UInt32.ofNat json.length)).bytes ++ json)

def wrap (P : Primitives) (masterKey json : Bytes) : Except EnvelopeError Bytes := do
  ensure (json.length ≤ maxPayloadLen) (.tooLarge json.length maxPayloadLen)
  let key ← deriveSubkey P masterKey
  let macInput := buildMacInput json
  let tag := P.hmacSha256 key macInput
  return macInput.take 8 ++ (tag.bytes ++ macInput.drop 8)

def unwrapPayload (P : Primitives) (masterKey envelope : Bytes) : ExceptT EnvelopeError Option Bytes := do
  check (44 ≤ envelope.length) (.tooShort 44 envelope.length)
  let word ← slice envelope 0 4
  check (word.bytes = magic) .badMagic
  let version ← index envelope 4
  check (version = 1) (.badVersion version)
  let reserved ← slice envelope 5 3
  check (reserved.bytes = [0, 0, 0]) (.badVersion version)
  let tag ← slice envelope 8 32
  let jsonLen ← slice envelope 40 4
  let jsonLen := (ofBe32 jsonLen).toNat
  check (jsonLen ≤ maxPayloadLen) (.tooLarge jsonLen maxPayloadLen)
  check (44 + jsonLen ≤ envelope.length) (.tooShort (44 + jsonLen) envelope.length)
  let json ← slice envelope 44 jsonLen
  let key ← inside (deriveSubkey P masterKey)
  check (P.hmacSha256 key (buildMacInput json.bytes) = tag) .badHmac
  return json.bytes

theorem deriveSubkey_eq (P : Primitives) (key : Block masterKeyLen) :
    deriveSubkey P key.bytes = .ok (P.hkdfSha256 [] key.bytes info 32) := by
  rw [deriveSubkey, ensure_of key.length_bytes]
  rfl

theorem wrap_eq_ok {P : Primitives} {key : Block masterKeyLen} {json wrapped : Bytes} :
    wrap P key.bytes json = .ok wrapped ↔ json.length ≤ maxPayloadLen ∧
      start ++ ((P.hmacSha256 (P.hkdfSha256 [] key.bytes info 32) (buildMacInput json)).bytes ++
        ((be32 (UInt32.ofNat json.length)).bytes ++ json)) = wrapped := by
  simp only [wrap, deriveSubkey_eq, bind_ok_iff, ensure_eq_ok, exists_const, ok_bind]
  exact and_congr_right fun _ => ⟨Except.ok.inj, congrArg Except.ok⟩

/-- An envelope is accepted just if it begins with what `wrap` makes of the payload. -/
theorem unwrapPayload_exact (P : Primitives) (key : Block masterKeyLen) (envelope : Bytes) :
    (∀ payload, unwrapPayload P key.bytes envelope = inside (.ok payload) ↔
      ∃ wrapped, wrap P key.bytes payload = .ok wrapped ∧ wrapped <+: envelope) ∧
    Safe (unwrapPayload P key.bytes envelope) := by
  constructor
  · intro payload
    simp only [unwrapPayload, wrap_eq_ok, check, bind_eq_ok, slice_eq_ok, index_eq_ok, inside_eq_ok, ensure_eq_ok,
      deriveSubkey_eq, Except.ok.injEq, exists_eq_left', exists_const]
    constructor
    · rintro ⟨-, word, ⟨-, h0⟩, hmagic, version, h4, rfl, reserved, ⟨-, h5⟩, hreserved, tag, ⟨-, h8⟩,
        len, ⟨-, h40⟩, hmax, -, json, ⟨-, h44⟩, rfl, hjson⟩
      cases hjson
      refine ⟨_, ⟨by simpa using hmax, rfl⟩, envelope.drop (44 + (ofBe32 len).toNat), ?_⟩
      rw [hmagic] at h0
      rw [hreserved] at h5
      rw [json.length_bytes, UInt32.ofNat_toNat, be32_ofBe32, List.append_assoc, List.append_assoc, List.append_assoc,
        ← h44, ← h40, ← h8]
      calc start ++ envelope.drop 8
        _ = magic ++ envelope.drop 4 := by rw [h4, h5]; rfl
        _ = envelope := h0.symm
    · rintro ⟨_, ⟨hmax, rfl⟩, rest, rfl⟩
      generalize htag : P.hmacSha256 _ _ = tag
      have hsize : payload.length = (ofBe32 (be32 (UInt32.ofNat payload.length))).toNat := by
        rw [ofBe32_be32, UInt32.toNat_ofNat', Nat.mod_eq_of_lt (hmax.trans_lt (by decide))]
      generalize be32 (UInt32.ofNat payload.length) = len at hsize
      rw [List.append_assoc, List.append_assoc, List.append_assoc]
      generalize he : start ++ (tag.bytes ++ (len.bytes ++ (payload ++ rest))) = envelope
      have hlen : envelope.length = 44 + payload.length + rest.length := by
        rw [← he]
        simp [start, magic, ascii]
        omega
      have h0 : envelope.drop 0 = magic ++ envelope.drop 4 := he ▸ rfl
      have h4 : envelope.drop 4 = 1 :: envelope.drop 5 := he ▸ rfl
      have h5 : envelope.drop 5 = [0, 0, 0] ++ envelope.drop 8 := he ▸ rfl
      have h8 : envelope.drop 8 = tag.bytes ++ (len.bytes ++ (payload ++ rest)) := he ▸ rfl
      have h40 := drop_add h8
      have h44 : envelope.drop 44 = (⟨payload, hsize⟩ : Block _).bytes ++ rest := drop_add h40
      refine ⟨by omega, ⟨magic, rfl⟩, ⟨by omega, h0⟩, rfl, ?_⟩
      refine ⟨1, h4, rfl, ⟨[0, 0, 0], rfl⟩, ⟨by omega, h5⟩, rfl, ?_⟩
      refine ⟨tag, ⟨by omega, h40 ▸ h8⟩, ?_⟩
      refine ⟨len, ⟨by omega, drop_add h40 ▸ h40⟩, by omega, by omega, ?_⟩
      exact ⟨⟨payload, hsize⟩, ⟨by omega, drop_add h44 ▸ h44⟩, htag, rfl⟩
  · simp only [unwrapPayload, safe_check, safe_slice, safe_index, safe_inside]
    intro hlen
    refine ⟨by omega, fun _ => ⟨by omega, fun _ _ _ => ⟨by omega, fun _ => ?_⟩⟩⟩
    exact ⟨by omega, by omega, fun _ hroom => ⟨hroom, fun _ _ _ => ⟨_, rfl⟩⟩⟩

end HpnVpn.ProviderEnvelope
