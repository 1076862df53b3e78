import HpnVpn.Types

/-! The tunnel configuration and its encoding, which fixes the optional IPv6 fields. -/
namespace HpnVpn
open Wire

def maxDnsServers : Nat := 8

structure TunnelConfig where
  clientIpv4 : Block 4
  netmaskIpv4 : Block 4
  gatewayIpv4 : Block 4
  dnsIpv4 : List (Block 4)
  clientIpv6 : Option (Block 16)
  prefixLenIpv6 : Option UInt8
  gatewayIpv6 : Option (Block 16)
  dnsIpv6 : List (Block 16)
  mtu : UInt16
deriving DecidableEq

namespace TunnelConfig

def ipv6Bytes (c : TunnelConfig) : Bytes :=
  match c.clientIpv6 with
  | some clientIpv6 =>
    1 :: (clientIpv6.bytes ++ (c.prefixLenIpv6.getD 64 ::
      ((c.gatewayIpv6.getD (Block.replicate 16 0)).bytes ++ (UInt8.ofNat c.dnsIpv6.length :: concat c.dnsIpv6))))
  | none => [0]

def toBytes (c : TunnelConfig) : Bytes :=
  c.clientIpv4.bytes ++ (c.netmaskIpv4.bytes ++ (c.gatewayIpv4.bytes ++
    (UInt8.ofNat c.dnsIpv4.length :: (concat c.dnsIpv4 ++ (c.ipv6Bytes ++ (be16 c.mtu).bytes)))))

structure Ipv6Section where
  client : Option (Block 16)
  prefixLen : Option UInt8
  gateway : Option (Block 16)
  dns : List (Block 16)

def ipv6FromBytes (available offset : Nat) (hasIpv6 : Bool) (cursor : Bytes) :
    Except ProtocolError (Ipv6Section × Bytes) :=
  if hasIpv6 then do
    let short (needed : Nat) := ProtocolError.packetTooShort needed available
    let fixedEnd := offset + 16 + 1 + 16 + 1
    ensure (fixedEnd + 2 ≤ available) (short (fixedEnd + 2))
    let (client, cursor) ← takeBlock (short (fixedEnd + 2)) 16 cursor
    let (prefixLen, cursor) ← takeByte (short (fixedEnd + 2)) cursor
    let (gateway, cursor) ← takeBlock (short (fixedEnd + 2)) 16 cursor
    let (dnsCount, cursor) ← takeByte (short (fixedEnd + 2)) cursor
    let n := dnsCount.toNat
    ensure (n ≤ maxDnsServers) (.invalidData s!"too many IPv6 DNS servers: {n} (max {maxDnsServers})")
    ensure (fixedEnd + n * 16 + 2 ≤ available) (short (fixedEnd + n * 16 + 2))
    let (dns, cursor) ← takeBlocks (short (fixedEnd + n * 16 + 2)) 16 n cursor
    return (⟨some client, some prefixLen, some gateway, dns⟩, cursor)
  else .ok (⟨none, none, none, []⟩, cursor)

def fromBytes (bytes : Bytes) : Except ProtocolError TunnelConfig := do
  let available := bytes.length
  let short (needed : Nat) := ProtocolError.packetTooShort needed available
  ensure (16 ≤ available) (short 16)
  let (clientIpv4, cursor) ← takeBlock (short 16) 4 bytes
  let (netmaskIpv4, cursor) ← takeBlock (short 16) 4 cursor
  let (gatewayIpv4, cursor) ← takeBlock (short 16) 4 cursor
  let (dnsCount, cursor) ← takeByte (short 16) cursor
  let n := dnsCount.toNat
  ensure (n ≤ maxDnsServers) (.invalidData s!"too many IPv4 DNS servers: {n} (max {maxDnsServers})")
  ensure (13 + n * 4 + 1 + 2 ≤ available) (short (13 + n * 4 + 1 + 2))
  let (dnsIpv4, cursor) ← takeBlocks (short (13 + n * 4 + 1 + 2)) 4 n cursor
  let (hasIpv6, cursor) ← takeByte (short (13 + n * 4 + 1 + 2)) cursor
  let (ipv6, cursor) ← ipv6FromBytes available (13 + n * 4 + 1) (hasIpv6 != 0) cursor
  let (mtu, _) ← takeBlock (short (available - cursor.length + 2)) 2 cursor
  return { clientIpv4, netmaskIpv4, gatewayIpv4, dnsIpv4
           clientIpv6 := ipv6.client, prefixLenIpv6 := ipv6.prefixLen
           gatewayIpv6 := ipv6.gateway, dnsIpv6 := ipv6.dns, mtu := ofBe16 mtu }

/-- The IPv6 fields that survive an encoding. -/
def ipv6Section (c : TunnelConfig) : Ipv6Section :=
  match c.clientIpv6 with
  | some client =>
    ⟨some client, some (c.prefixLenIpv6.getD 64), some (c.gatewayIpv6.getD (Block.replicate 16 0)), c.dnsIpv6⟩
  | none => ⟨none, none, none, []⟩

def normalized (c : TunnelConfig) : TunnelConfig :=
  { c with clientIpv6 := c.ipv6Section.client, prefixLenIpv6 := c.ipv6Section.prefixLen,
           gatewayIpv6 := c.ipv6Section.gateway, dnsIpv6 := c.ipv6Section.dns }

/-- At most eight DNS servers per family, the number the decoder admits. -/
structure DnsWithinLimit (c : TunnelConfig) : Prop where
  ipv4 : c.dnsIpv4.length ≤ maxDnsServers
  ipv6 : c.dnsIpv6.length ≤ maxDnsServers

@[simp] theorem normalized_toBytes (c : TunnelConfig) : c.normalized.toBytes = c.toBytes := by
  cases h : c.clientIpv6 <;> simp [toBytes, normalized, ipv6Bytes, ipv6Section, h]

variable {c : TunnelConfig}

theorem DnsWithinLimit.toBytes_length_le (h : c.DnsWithinLimit) : c.toBytes.length ≤ 210 := by
  have h4 : c.dnsIpv4.length ≤ 8 := h.ipv4
  have h6 : c.dnsIpv6.length ≤ 8 := h.ipv6
  cases hv6 : c.clientIpv6 <;> simp [toBytes, ipv6Bytes, hv6] <;> omega

theorem toNat_ofNat_of_le {n : Nat} (h : n ≤ maxDnsServers) : (UInt8.ofNat n).toNat = n := by
  have hn : n ≤ 8 := h
  rw [UInt8.toNat_ofNat']
  omega

theorem DnsWithinLimit.ipv6FromBytes_ipv6Bytes (h : c.DnsWithinLimit)
    {available offset : Nat} (rest : Bytes) (hroom : offset + c.ipv6Bytes.length + 1 ≤ available) :
    ∃ flag tail, c.ipv6Bytes ++ rest = flag :: tail ∧
      ipv6FromBytes available offset (flag != 0) tail = .ok (c.ipv6Section, rest) := by
  cases hv6 : c.clientIpv6 with
  | none => exact ⟨0, rest, by simp [ipv6Bytes, hv6], by simp [ipv6FromBytes, ipv6Section, hv6]⟩
  | some client =>
    have hn := toNat_ofNat_of_le h.ipv6
    simp only [ipv6Bytes, hv6, List.length_cons, List.length_append, Block.length_bytes, concat_length] at hroom
    refine ⟨1, _, by rw [ipv6Bytes, hv6, List.cons_append], ?_⟩
    simp only [ipv6FromBytes, ipv6Section, hv6, List.append_assoc, List.cons_append,
      takeBlock_append, takeByte_cons, ok_bind, hn]
    rw [if_pos (by decide), ensure_of (by omega), ok_bind, ensure_of h.ipv6, ok_bind,
      ensure_of (by omega), ok_bind, takeBlocks_concat, ok_bind]
    rfl

theorem toBytes_length (c : TunnelConfig) : c.toBytes.length = 13 + 4 * c.dnsIpv4.length + c.ipv6Bytes.length + 2 := by
  simp only [toBytes, List.length_append, List.length_cons, Block.length_bytes, concat_length]
  omega

theorem fromBytes_toBytes (h : c.DnsWithinLimit) : fromBytes c.toBytes = .ok c.normalized := by
  have hn := toNat_ofNat_of_le h.ipv4
  have hlen := c.toBytes_length
  have hpos : 1 ≤ c.ipv6Bytes.length := by
    unfold ipv6Bytes
    split <;> simp
  have hroom : 13 + c.dnsIpv4.length * 4 + 1 + c.ipv6Bytes.length + 1 ≤ c.toBytes.length := by omega
  obtain ⟨flag, tail, hsection, hread⟩ := h.ipv6FromBytes_ipv6Bytes (be16 c.mtu).bytes hroom
  have hbytes : c.toBytes = c.clientIpv4.bytes ++ (c.netmaskIpv4.bytes ++ (c.gatewayIpv4.bytes ++
      (UInt8.ofNat c.dnsIpv4.length :: (concat c.dnsIpv4 ++ flag :: tail)))) := by
    rw [← hsection]
    rfl
  unfold fromBytes
  generalize c.toBytes.length = available at *
  dsimp only
  rw [ensure_of (by omega), ok_bind, hbytes]
  simp only [takeBlock_append, takeByte_cons, ok_bind, hn]
  rw [ensure_of h.ipv4, ok_bind, ensure_of (by omega), ok_bind, takeBlocks_concat, ok_bind]
  simp only [takeByte_cons, ok_bind, hread, takeBlock_bytes, ofBe16_be16]
  rfl

theorem section_of_ipv6FromBytes {available offset : Nat} {hasIpv6 : Bool} {cursor rest : Bytes} {ipv6 : Ipv6Section}
    (h : ipv6FromBytes available offset hasIpv6 cursor = .ok (ipv6, rest)) :
    ipv6.dns.length ≤ maxDnsServers ∧ (ipv6 = ⟨none, none, none, []⟩ ∨
      ∃ client prefixLen gateway, ipv6 = ⟨some client, some prefixLen, some gateway, ipv6.dns⟩) := by
  unfold ipv6FromBytes at h
  split at h
  case isTrue =>
    obtain ⟨_, -, h⟩ := bind_ok_iff.mp h
    obtain ⟨_, -, h⟩ := bind_ok_iff.mp h
    obtain ⟨_, -, h⟩ := bind_ok_iff.mp h
    obtain ⟨_, -, h⟩ := bind_ok_iff.mp h
    obtain ⟨_, -, h⟩ := bind_ok_iff.mp h
    obtain ⟨_, hcount, h⟩ := bind_ok_iff.mp h
    obtain ⟨_, -, h⟩ := bind_ok_iff.mp h
    obtain ⟨_, hdns, h⟩ := bind_ok_iff.mp h
    cases h
    exact ⟨(takeBlocks_length hdns).trans_le (ensure_eq_ok.mp hcount), .inr ⟨_, _, _, rfl⟩⟩
  case isFalse =>
    cases h
    exact ⟨Nat.zero_le _, .inl rfl⟩

theorem normalized_of_fromBytes {bytes : Bytes} (h : fromBytes bytes = .ok c) :
    c.DnsWithinLimit ∧ c.normalized = c := by
  obtain ⟨_, -, h⟩ := bind_ok_iff.mp h
  obtain ⟨_, -, h⟩ := bind_ok_iff.mp h
  obtain ⟨_, -, h⟩ := bind_ok_iff.mp h
  obtain ⟨_, -, h⟩ := bind_ok_iff.mp h
  obtain ⟨_, -, h⟩ := bind_ok_iff.mp h
  obtain ⟨_, hcount, h⟩ := bind_ok_iff.mp h
  obtain ⟨_, -, h⟩ := bind_ok_iff.mp h
  obtain ⟨_, hdns, h⟩ := bind_ok_iff.mp h
  obtain ⟨_, -, h⟩ := bind_ok_iff.mp h
  obtain ⟨⟨ipv6, _⟩, hipv6, h⟩ := bind_ok_iff.mp h
  obtain ⟨_, -, h⟩ := bind_ok_iff.mp h
  obtain ⟨hlimit, hsection⟩ := section_of_ipv6FromBytes hipv6
  cases h
  refine ⟨⟨(takeBlocks_length hdns).trans_le (ensure_eq_ok.mp hcount), hlimit⟩, ?_⟩
  obtain rfl | ⟨client, prefixLen, gateway, hall⟩ := hsection
  · rfl
  · rw [hall]
    rfl

/-- A configuration comes back as it was sent just if it is within the limit and has no IPv6 fields to lose. -/
theorem fromBytes_toBytes_eq_iff : fromBytes c.toBytes = .ok c ↔ c.DnsWithinLimit ∧ c.normalized = c := by
  constructor
  · exact normalized_of_fromBytes
  · rintro ⟨hdns, hnormalized⟩
    rw [fromBytes_toBytes hdns, hnormalized]

end TunnelConfig

end HpnVpn
