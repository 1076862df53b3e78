import HpnVpn.SessionLifecycle
import HpnVpn.Text

/-! The server's configuration, its checks at startup and the session manager built from it.  The number of DNS
servers is not checked, nor is the base of the IPv4 pool masked. -/
namespace HpnVpn
open Wire

/-- How the standard library reads and prints addresses. -/
structure AddrText where
  parseIpv6 : String → Option (Block 16)
  display : SocketAddr → String

def parseOctets (invalid invalidOctet : String) (text : List Char) : Except ServerError (Block 4) :=
  match text.splitOn '.' with
  | [a, b, c, d] => do
    let octet (part : List Char) := okOr (parseU8 part) (ServerError.config (invalidOctet ++ String.ofList part))
    let a ← octet a
    let b ← octet b
    let c ← octet c
    let d ← octet d
    return ipv4 a b c d
  | _ => .error (.config (invalid ++ String.ofList text))

def IpAddr.isLoopback : IpAddr → Bool
  | .v4 octets => octets.bytes.head? = some 127
  | .v6 octets => octets.bytes = List.replicate 15 0 ++ [1]

structure ServerConfig where
  ipv4Pool : String
  serverTunnelIp : String
  dnsServers : List String
  ipv6Pool : Option String
  serverTunnelIpv6 : Option String
  dnsServersV6 : List String
  mtu : UInt16
  sessionTimeoutSecs : UInt64
  keepaliveIntervalSecs : UInt64
  logFile : Option String
  logMaxSizeMb : UInt64
  logMaxFiles : UInt32
  maxSessions : Option Nat
  enableMetrics : Bool
  metricsAddr : SocketAddr
  enableAdminApi : Bool
  adminApiToken : Option String
  minSecurityLevel : String
  sessionRateLimitPps : UInt32
  sessionRateLimitBps : UInt64

namespace ServerConfig

def parseIpv4Pool (c : ServerConfig) : Except ServerError (Block 4 × UInt8) :=
  match c.ipv4Pool.toList.splitOn '/' with
  | [address, length] => do
    let base ← parseOctets "invalid IPv4 address: " "invalid IPv4 octet: " address
    let prefixLen ← okOr (parseU8 length) (.config s!"invalid prefix length: {String.ofList length}")
    ensure (prefixLen ≠ 0 ∧ prefixLen ≤ 32) (.config s!"IPv4 prefix length must be in 1..=32, got {prefixLen}")
    return (base, prefixLen)
  | _ => .error (.config s!"invalid IPv4 pool format: {c.ipv4Pool}")

def parseServerTunnelIp (c : ServerConfig) : Except ServerError (Block 4) :=
  parseOctets "invalid server tunnel IP: " "invalid IP octet: " c.serverTunnelIp.toList

def parseDnsServers (c : ServerConfig) : Except ServerError (List (Block 4)) :=
  c.dnsServers.mapM fun s => parseOctets "invalid DNS server: " "invalid DNS octet: " s.toList

variable (T : AddrText)

def parseIpv6Pool (c : ServerConfig) : Except ServerError (Option (Block 16 × UInt8)) :=
  match c.ipv6Pool with
  | none => .ok none
  | some pool =>
    match pool.toList.splitOn '/' with
    | [address, length] => do
      let address := String.ofList address
      let addr ← okOr (T.parseIpv6 address) (.config s!"invalid IPv6 address: {address}")
      let prefixLen ← okOr (parseU8 length) (.config s!"invalid IPv6 prefix: {String.ofList length}")
      return some (addr, prefixLen)
    | _ => .error (.config s!"invalid IPv6 pool format: {pool}")

def parseServerTunnelIpv6 (c : ServerConfig) : Except ServerError (Option (Block 16)) :=
  match c.serverTunnelIpv6 with
  | none => .ok none
  | some text => (okOr (T.parseIpv6 text) (.config s!"invalid IPv6 address: {text}")).map some

def parseDnsServersV6 (c : ServerConfig) : Except ServerError (List (Block 16)) :=
  c.dnsServersV6.mapM fun s => okOr (T.parseIpv6 s) (.config s!"invalid IPv6 DNS server: {s}")

def hasIpv6 (c : ServerConfig) : Bool := c.ipv6Pool.isSome && c.serverTunnelIpv6.isSome

/-- A pool that is set is read as one or not at all. -/
theorem parseIpv6Pool_ne_none {T : AddrText} {c : ServerConfig} (h : c.hasIpv6 = true) : c.parseIpv6Pool T ≠ .ok none := by
  obtain ⟨hpool, -⟩ := Bool.and_eq_true_iff.mp h
  obtain ⟨pool, hpool⟩ := Option.isSome_iff_exists.mp hpool
  intro hnone
  rw [parseIpv6Pool, hpool] at hnone
  dsimp only at hnone
  split at hnone
  case h_1 =>
    obtain ⟨_, -, hnone⟩ := bind_ok_iff.mp hnone
    obtain ⟨_, -, hnone⟩ := bind_ok_iff.mp hnone
    cases hnone
  case h_2 => cases hnone

/-- As many sessions as the pool has addresses, if no number is set. -/
def getMaxSessions (c : ServerConfig) : Nat :=
  match c.maxSessions, c.parseIpv4Pool with
  | some max, _ => max
  | none, .ok (_, prefixLen) =>
    if 1 ≤ prefixLen ∧ prefixLen ≤ 30 then min (((1 : UInt32) <<< (32 - prefixLen.toUInt32)).toNat - 2) 100000
    else 1000
  | none, .error _ => 1000

def validateIpv6 (c : ServerConfig) : Except ServerError Unit := do
  match ← c.parseIpv6Pool T with
  | none => return
  | some (base, prefixLen) =>
    ensure (48 ≤ prefixLen ∧ prefixLen ≤ 128) (.config s!"IPv6 prefix must be between 48 and 128, got {prefixLen}")
    let pool := c.ipv6Pool.getD ""
    let server := c.serverTunnelIpv6.getD "<not set>"
    let serverIpv6 ← okOr (← c.parseServerTunnelIpv6 T)
      (.config "ipv6_pool configured but server_tunnel_ipv6 is missing")
    let prefixBytes := min (prefixLen / 8).toNat 16
    ensure (base.bytes.take prefixBytes = serverIpv6.bytes.take prefixBytes)
      (.config s!"server tunnel IPv6 {server} is not in pool Some(\"{pool}\")")
    let _ ← c.parseDnsServersV6 T

def minAdminTokenLen : Nat := 24

def validateAdminToken (c : ServerConfig) : Except ServerError Unit :=
  match c.enableAdminApi, c.adminApiToken with
  | true, some token => do
    let text := trimmed token
    let length := (String.ofList text).utf8ByteSize
    ensure (minAdminTokenLen ≤ length)
      (.config (s!"admin_api_token is too short ({length} chars); must be at least {minAdminTokenLen} chars. " ++
        "Use \x60openssl rand -base64 32\x60 to generate a strong token."))
    ensure (text.any (text.head? ≠ some ·) = true)
      (.config "admin_api_token is a single repeated character; generate a real random token")
  | _, _ => .ok ()

/-- Metrics are served without authentication only on a loopback address. -/
def validateMetrics (c : ServerConfig) : Except ServerError Unit :=
  ensure (c.enableMetrics = false ∨ c.metricsAddr.ip.isLoopback = true ∨
      c.enableAdminApi = true ∧ ∃ token ∈ c.adminApiToken,
        minAdminTokenLen ≤ (String.ofList (trimmed token)).utf8ByteSize)
    (.config (s!"enable_metrics is true and metrics_addr ({T.display c.metricsAddr}) is not a loopback address, " ++
      "but no authenticated path is configured. Either bind metrics_addr to 127.0.0.1 (and front it with an " ++
      "authenticated reverse proxy if remote scraping is required), or set enable_admin_api = true with a " ++
      "strong admin_api_token (>=24 chars) so /metrics is served through the authenticated admin endpoint."))

def validate (c : ServerConfig) : Except ServerError Unit := do
  let (base, prefixLen) ← c.parseIpv4Pool
  ensure (16 ≤ prefixLen ∧ prefixLen ≤ 30) (.config s!"prefix must be between 16 and 30, got {prefixLen}")
  let serverIp ← c.parseServerTunnelIp
  let mask : UInt32 := ~~~((1 <<< (32 - prefixLen.toUInt32)) - 1)
  ensure (ofBe32 serverIp &&& mask = ofBe32 base &&& mask)
    (.config s!"server tunnel IP {c.serverTunnelIp} is not in pool {c.ipv4Pool}")
  let _ ← c.parseDnsServers
  c.validateIpv6 T
  ensure (576 ≤ c.mtu) (.config s!"MTU must be at least 576, got {c.mtu}")
  ensure (c.mtu ≤ 9000) (.config s!"MTU must be at most 9000, got {c.mtu}")
  ensure (c.sessionTimeoutSecs ≠ 0) (.config "session_timeout_secs must be > 0")
  ensure (c.keepaliveIntervalSecs ≠ 0) (.config "keepalive_interval_secs must be > 0")
  ensure (c.logFile.isSome → c.logMaxSizeMb ≠ 0) (.config "log_max_size_mb must be >= 1 when log_file is set")
  ensure (c.logFile.isSome → c.logMaxFiles ≠ 0) (.config "log_max_files must be >= 1 when log_file is set")
  let level := String.ofList (c.minSecurityLevel.toList.map Char.toLower)
  ensure (level ∈ ["level3", "level5", "3", "5"])
    (.config s!"min_security_level must be 'level3' or 'level5', got '{level}'")
  let maxUsableIps := ((1 : UInt32) <<< (32 - prefixLen.toUInt32)).toNat - 2
  ensure (c.getMaxSessions ≤ maxUsableIps)
    (.config s!"max_sessions ({c.getMaxSessions}) exceeds available IPs in pool ({maxUsableIps})")
  c.validateAdminToken
  c.validateMetrics T

def sessionManager (c : ServerConfig) : Except ServerError SessionManager := do
  c.validate T
  let (base, prefixLen) ← c.parseIpv4Pool
  let serverIp ← c.parseServerTunnelIp
  let sessionTimeout := 1000 * c.sessionTimeoutSecs.toNat
  if c.hasIpv6 then
    let (baseIpv6, prefixV6) ← okOr (← c.parseIpv6Pool T) (.config "IPv6 pool must be set when has_ipv6 is true")
    let serverIpv6 ← okOr (← c.parseServerTunnelIpv6 T) (.config "Server IPv6 must be set when has_ipv6 is true")
    return (SessionManager.newDualStack base prefixLen serverIp (.fit 8 baseIpv6.bytes)
      (.fit 8 (baseIpv6.bytes.drop 8)) prefixV6 serverIpv6 sessionTimeout c.getMaxSessions).withRateLimits
        c.sessionRateLimitPps c.sessionRateLimitBps
  else
    return (SessionManager.new base prefixLen serverIp sessionTimeout c.getMaxSessions).withRateLimits
      c.sessionRateLimitPps c.sessionRateLimitBps

protected def default : ServerConfig where
  ipv4Pool := "10.99.0.0/24"
  serverTunnelIp := "10.99.0.1"
  dnsServers := ["1.1.1.1", "8.8.8.8"]
  ipv6Pool := none
  serverTunnelIpv6 := none
  dnsServersV6 := []
  mtu := 1420
  sessionTimeoutSecs := 180
  keepaliveIntervalSecs := 25
  logFile := none
  logMaxSizeMb := 100
  logMaxFiles := 5
  maxSessions := none
  enableMetrics := false
  metricsAddr := .v4 ⟨[127, 0, 0, 1], rfl⟩ 9100
  enableAdminApi := false
  adminApiToken := none
  minSecurityLevel := "level3"
  sessionRateLimitPps := 100000
  sessionRateLimitBps := 125000000

/-- The default configuration is accepted with any DNS servers that can be parsed, however many. -/
theorem sessionManager_default {dns : List String} {ips : List (Block 4)}
    (hdns : ({ ServerConfig.default with dnsServers := dns } : ServerConfig).parseDnsServers = .ok ips) :
    ({ ServerConfig.default with dnsServers := dns } : ServerConfig).sessionManager T =
      .ok ((SessionManager.new ⟨[10, 99, 0, 0], rfl⟩ 24 ⟨[10, 99, 0, 1], rfl⟩ 180000 254).withRateLimits 100000
        125000000) := by
  generalize hc : ({ ServerConfig.default with dnsServers := dns } : ServerConfig) = c at *
  have hpool : c.parseIpv4Pool = .ok (⟨[10, 99, 0, 0], rfl⟩, 24) := by
    rw [parseIpv4Pool, show c.ipv4Pool = "10.99.0.0/24" from hc ▸ rfl]
    decide +kernel
  have hserver : c.parseServerTunnelIp = .ok ⟨[10, 99, 0, 1], rfl⟩ := by
    rw [parseServerTunnelIp, show c.serverTunnelIp = "10.99.0.1" from hc ▸ rfl]
    decide +kernel
  have hmax : c.getMaxSessions = 254 := by
    rw [getMaxSessions, show c.maxSessions = none from hc ▸ rfl, hpool]
    decide
  have hlevel : String.ofList (c.minSecurityLevel.toList.map Char.toLower) ∈ ["level3", "level5", "3", "5"] := by
    rw [show c.minSecurityLevel = "level3" from hc ▸ rfl]
    decide +kernel
  have hvalid : c.validate T = .ok () := by
    rw [validate, hpool, ok_bind]
    dsimp only
    rw [ensure_of (by decide), ok_bind, hserver, ok_bind, ensure_of (by decide), ok_bind, hdns, ok_bind, hmax,
      ensure_of hlevel]
    subst hc
    rfl
  rw [sessionManager, hvalid, ok_bind, hpool, ok_bind]
  dsimp only
  rw [hserver, ok_bind, hmax]
  subst hc
  rfl

end ServerConfig

end HpnVpn
