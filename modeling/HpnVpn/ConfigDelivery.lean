import HpnVpn.InitAtomicity

/-! The tunnel configuration from the settings to the client.  The codec carries eight DNS servers of each kind and
IPv6 fields only beside an IPv6 address; validation checks neither. -/
namespace HpnVpn
open Wire Tables SessionManager

namespace ServerConfig
variable (T : AddrText)

def tunnelConfig (c : ServerConfig) (m : SessionManager) (tunnelIp : Block 4) (tunnelIpv6 : Option (Block 16)) :
    TunnelConfig where
  clientIpv4 := tunnelIp
  netmaskIpv4 := m.netmask
  gatewayIpv4 := m.serverIp
  dnsIpv4 := c.parseDnsServers.toOption.getD []
  clientIpv6 := tunnelIpv6
  prefixLenIpv6 := m.ipv6Prefix
  gatewayIpv6 := m.serverIpv6
  dnsIpv6 := (c.parseDnsServersV6 T).toOption.getD []
  mtu := c.mtu

/-- The managers of a server with this configuration. -/
inductive Manages (c : ServerConfig) : SessionManager → Prop
  | start {m : SessionManager} : c.sessionManager T = .ok m → Manages c m
  | create {m : SessionManager} (picker pickerV6 : Picker Nat) (session : Session) (clientAddr : SocketAddr)
      (level : SecurityLevel) (now : UInt64) : Manages c m →
      Manages c (m.createSessionDualStackWithLevel picker pickerV6 session clientAddr level now).1
  | remove {m : SessionManager} (sessionId : SessionId) : Manages c m → Manages c (m.removeSession sessionId).1
  | work {m : SessionManager} {β : Type} (sessionId : SessionId) (f : ClientSession → ClientSession × β) (absent : β) :
      Manages c m → Manages c (m.onSession sessionId f absent).1

end ServerConfig

namespace SessionManager

theorem serverIpv6_removeSession (m : SessionManager) (sessionId : SessionId) :
    (m.removeSession sessionId).1.serverIpv6 = m.serverIpv6 := by
  unfold removeSession
  split <;> rfl

theorem serverIpv6_createSession (m : SessionManager) (picker pickerV6 : Picker Nat) (session : Session)
    (clientAddr : SocketAddr) (level : SecurityLevel) (now : UInt64) :
    (m.createSessionDualStackWithLevel picker pickerV6 session clientAddr level now).1.serverIpv6 = m.serverIpv6 := by
  rw [← m.serverIpv6_removeSession session.sessionId]
  unfold createSessionDualStackWithLevel
  dsimp only
  split
  · rfl
  · split
    · rfl
    · split <;> rfl

end SessionManager

namespace ServerConfig
variable {T : AddrText} {c : ServerConfig} {m : SessionManager}

theorem sessionManager_ok (h : c.sessionManager T = .ok m) :
    c.validate T = .ok () ∧ m.ipv6Allocator.isSome = c.hasIpv6 ∧ m.serverIpv6.isSome = c.hasIpv6 := by
  obtain ⟨⟨⟩, hvalid, h⟩ := bind_ok_iff.mp h
  obtain ⟨⟨base, prefixLen⟩, -, h⟩ := bind_ok_iff.mp h
  obtain ⟨serverIp, -, h⟩ := bind_ok_iff.mp h
  refine ⟨hvalid, ?_⟩
  split at h
  case isTrue hipv6 =>
    obtain ⟨_, -, h⟩ := bind_ok_iff.mp h
    obtain ⟨⟨baseIpv6, prefixV6⟩, -, h⟩ := bind_ok_iff.mp h
    obtain ⟨_, -, h⟩ := bind_ok_iff.mp h
    obtain ⟨serverIpv6, -, h⟩ := bind_ok_iff.mp h
    cases h
    exact ⟨hipv6.symm, hipv6.symm⟩
  case isFalse hipv6 =>
    cases h
    have hfalse := Bool.eq_false_of_not_eq_true hipv6
    exact ⟨hfalse.symm, hfalse.symm⟩

theorem Manages.ipv6 (h : c.Manages T m) :
    c.validate T = .ok () ∧ m.ipv6Allocator.isSome = c.hasIpv6 ∧ m.serverIpv6.isSome = c.hasIpv6 := by
  induction h with
  | start hm => exact sessionManager_ok hm
  | create picker pickerV6 session clientAddr level now _ ih =>
    rw [isSome_eq_of_shape (shape_createSession ..),
      serverIpv6_createSession]
    exact ih
  | remove sessionId _ ih =>
    rw [isSome_eq_of_shape (shape_removeSession ..),
      serverIpv6_removeSession]
    exact ih
  | work sessionId f absent _ ih => exact ih

theorem mapM_length {α β ε : Type} {f : α → Except ε β} {xs : List α} {ys : List β} (h : xs.mapM f = .ok ys) :
    ys.length = xs.length := by
  induction xs generalizing ys with
  | nil =>
    cases h
    rfl
  | cons x xs ih =>
    rw [List.mapM_cons] at h
    obtain ⟨y, -, h⟩ := bind_ok_iff.mp h
    obtain ⟨ys', hys, h⟩ := bind_ok_iff.mp h
    cases h
    rw [List.length_cons, List.length_cons, ih hys]

theorem parseDns_of_validate (h : c.validate T = .ok ()) :
    (∃ dns, c.parseDnsServers = .ok dns) ∧ (c.hasIpv6 = true → ∃ dns, c.parseDnsServersV6 T = .ok dns) := by
  obtain ⟨⟨base, prefixLen⟩, -, h⟩ := bind_ok_iff.mp h
  obtain ⟨_, -, h⟩ := bind_ok_iff.mp h
  obtain ⟨serverIp, -, h⟩ := bind_ok_iff.mp h
  obtain ⟨_, -, h⟩ := bind_ok_iff.mp h
  obtain ⟨dns, hdns, h⟩ := bind_ok_iff.mp h
  obtain ⟨_, hipv6, -⟩ := bind_ok_iff.mp h
  refine ⟨⟨dns, hdns⟩, ?_⟩
  intro hhas
  obtain ⟨pool, hpool, hipv6⟩ := bind_ok_iff.mp hipv6
  cases pool with
  | none => exact absurd hpool (parseIpv6Pool_ne_none hhas)
  | some pool =>
    obtain ⟨_, -, hipv6⟩ := bind_ok_iff.mp hipv6
    obtain ⟨_, -, hipv6⟩ := bind_ok_iff.mp hipv6
    obtain ⟨_, -, hipv6⟩ := bind_ok_iff.mp hipv6
    obtain ⟨_, -, hipv6⟩ := bind_ok_iff.mp hipv6
    obtain ⟨dnsV6, hdnsV6, -⟩ := bind_ok_iff.mp hipv6
    exact ⟨dnsV6, hdnsV6⟩

/-- The configuration of a new session arrives as sent just if there are at most eight IPv4 DNS servers and at most
eight IPv6 ones with IPv6, none without. -/
theorem tunnelConfig_arrives_iff (hm : c.Manages T m) {picker pickerV6 : Picker Nat} {session : Session}
    {clientAddr : SocketAddr} {level : SecurityLevel} {now : UInt64} {ip : Block 4} {ipv6 : Option (Block 16)}
    (hcreate : (m.createSessionDualStackWithLevel picker pickerV6 session clientAddr level now).2 = .ok (ip, ipv6)) :
    TunnelConfig.fromBytes (c.tunnelConfig T m ip ipv6).toBytes = .ok (c.tunnelConfig T m ip ipv6) ↔
      c.dnsServers.length ≤ maxDnsServers ∧
        if c.hasIpv6 then c.dnsServersV6.length ≤ maxDnsServers
        else (c.parseDnsServersV6 T).toOption.getD [] = [] := by
  obtain ⟨hvalid, hallocator, hgateway⟩ := hm.ipv6
  obtain ⟨⟨dns, hdns⟩, hdnsV6⟩ := parseDns_of_validate hvalid
  have hassigned : ipv6.isSome = c.hasIpv6 := (isSome_of_createSession hcreate).trans hallocator
  have hcount : (c.tunnelConfig T m ip ipv6).dnsIpv4.length = c.dnsServers.length := by
    show (c.parseDnsServers.toOption.getD []).length = _
    rw [hdns]
    exact mapM_length hdns
  rw [TunnelConfig.fromBytes_toBytes_eq_iff]
  cases hhas : c.hasIpv6 with
  | true =>
    rw [hhas] at hassigned hallocator hgateway
    obtain ⟨dnsV6, hparsed⟩ := hdnsV6 hhas
    obtain ⟨client, rfl⟩ := Option.isSome_iff_exists.mp hassigned
    obtain ⟨allocator, hallocator⟩ := Option.isSome_iff_exists.mp hallocator
    obtain ⟨gateway, hgateway⟩ := Option.isSome_iff_exists.mp hgateway
    have hcountV6 : (c.tunnelConfig T m ip (some client)).dnsIpv6.length = c.dnsServersV6.length := by
      show ((c.parseDnsServersV6 T).toOption.getD []).length = _
      rw [hparsed]
      exact mapM_length hparsed
    have hnormalized : (c.tunnelConfig T m ip (some client)).normalized = c.tunnelConfig T m ip (some client) := by
      simp [TunnelConfig.normalized, TunnelConfig.ipv6Section, tunnelConfig, SessionManager.ipv6Prefix, hallocator,
        hgateway]
    rw [if_pos rfl, ← hcount, ← hcountV6]
    exact ⟨fun h => ⟨h.1.ipv4, h.1.ipv6⟩, fun h => ⟨⟨h.1, h.2⟩, hnormalized⟩⟩
  | false =>
    rw [hhas] at hassigned hallocator hgateway
    rw [Option.isSome_eq_false_iff, Option.isNone_iff_eq_none] at hassigned hallocator hgateway
    have hnormalized : (c.tunnelConfig T m ip ipv6).normalized = c.tunnelConfig T m ip ipv6 ↔
        (c.tunnelConfig T m ip ipv6).dnsIpv6 = [] := by
      rw [hassigned]
      constructor
      · exact fun h => (congrArg TunnelConfig.dnsIpv6 h).symm
      · intro h
        simp [TunnelConfig.normalized, TunnelConfig.ipv6Section, tunnelConfig, SessionManager.ipv6Prefix, hallocator,
          hgateway] at h ⊢
        exact h
    rw [if_neg Bool.false_ne_true, hnormalized, ← hcount]
    constructor
    · exact fun h => ⟨h.1.ipv4, h.2⟩
    · rintro ⟨hfour, hnone⟩
      refine ⟨⟨hfour, ?_⟩, hnone⟩
      show ((c.parseDnsServersV6 T).toOption.getD []).length ≤ _
      rw [hnone]
      exact Nat.zero_le _

namespace DeliverySample
open AtomicitySample InitSample

def first : Block 4 := ⟨[10, 99, 0, 2], rfl⟩

theorem two_dns_servers_arrive :
    TunnelConfig.fromBytes ((config 2).tunnelConfig text manager first none).toBytes =
      .ok ((config 2).tunnelConfig text manager first none) := by
  have hcreate : (manager.createSessionDualStackWithLevel .least .least (.new 42 LifecycleSample.keys 0)
      LifecycleSample.addr .level3 0).2 = .ok (first, none) := by decide +kernel
  exact (tunnelConfig_arrives_iff (.start (sessionManager_config 2)) hcreate).mpr ⟨by decide, rfl⟩

theorem nine_dns_servers_rejected :
    (config 9).validate text = .ok () ∧
      TunnelConfig.fromBytes ((config 9).tunnelConfig text manager first none).toBytes =
        .error (.invalidData "too many IPv4 DNS servers: 9 (max 8)") := by
  refine ⟨(sessionManager_ok (sessionManager_config 9)).1, ?_⟩
  decide +kernel

end DeliverySample

end ServerConfig

end HpnVpn
