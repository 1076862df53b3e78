import HpnVpn.CrashPoints
import HpnVpn.Text

/-! The routes of the Windows client: the table, the journal on disk, and the setups with their interleaved route
changes and journal writes, which are the atomic steps. -/
namespace HpnVpn
open Wire CrashPoints

/-! ### Routes -/

structure RouteEntry where
  destination : IpAddr
  prefixLength : UInt8
  gateway : IpAddr
  interfaceIndex : UInt32
  metric : UInt32
deriving DecidableEq

namespace RouteEntry

def newV4 (destination : Block 4) (prefixLength : UInt8) (gateway : Block 4) (interfaceIndex : UInt32) : RouteEntry :=
  ⟨.v4 destination, prefixLength, .v4 gateway, interfaceIndex, 1⟩

def newV6 (destination : Block 16) (prefixLength : UInt8) (gateway : Block 16) (interfaceIndex : UInt32) : RouteEntry :=
  ⟨.v6 destination, prefixLength, .v6 gateway, interfaceIndex, 1⟩

def isV4 (r : RouteEntry) : Bool :=
  match r.destination with
  | .v4 _ => true
  | .v6 _ => false

def isDefault (r : RouteEntry) : Bool :=
  r.prefixLength == 0 &&
    match r.destination with
    | .v4 octets => octets == .replicate 4 0
    | .v6 octets => octets == .replicate 16 0

/-- What the system takes to be the same route: the metric does not count. -/
def sameRoute (a b : RouteEntry) : Bool :=
  a.destination = b.destination ∧ a.prefixLength = b.prefixLength ∧ a.gateway = b.gateway ∧
    a.interfaceIndex = b.interfaceIndex

end RouteEntry

abbrev RoutingTable := List RouteEntry

inductive WindowsApiError
  | api (call : String)
deriving DecidableEq

/-- The system takes a route on a known interface that it does not have yet. -/
def RoutingTable.admits (table : RoutingTable) (entry : RouteEntry) : Bool :=
  entry.interfaceIndex ≠ 0 ∧ ¬table.any entry.sameRoute

namespace WindowsApi

def addRoute (table : RoutingTable) (entry : RouteEntry) : Except WindowsApiError RoutingTable :=
  if table.admits entry then .ok (entry :: table) else .error (.api "CreateIpForwardEntry2 failed")

/-- A row with neither an interface index nor a LUID is refused. -/
def deleteRoute (table : RoutingTable) (entry : RouteEntry) : Except WindowsApiError RoutingTable :=
  if entry.interfaceIndex ≠ 0 ∧ table.any entry.sameRoute then .ok (table.filter (!entry.sameRoute ·))
  else .error (.api "DeleteIpForwardEntry2 failed")

def getDefaultGateway (table : RoutingTable) : Option RouteEntry :=
  table.find? fun r => r.isV4 && r.isDefault

end WindowsApi

def RoutingTable.undo (table : RoutingTable) (entry : RouteEntry) : RoutingTable :=
  (WindowsApi.deleteRoute table entry).toOption.getD table

def RoutingTable.restore (table : RoutingTable) (entry : RouteEntry) : RoutingTable :=
  (WindowsApi.addRoute table entry).toOption.getD table

/-! ### The journal -/

structure RecoveryState where
  vpnActive : Bool
  originalGateway : Option (Block 4)
  originalInterfaceIdx : Option UInt32
  deletedRoutes : List RouteEntry
  addedRoutes : List RouteEntry
  ipv6Blocked : Bool
  llmnrDisabled : Bool
  netbiosDisabled : Bool
  nrptRuleGuid : Option String
  smartMultiHomedDisabled : Bool
deriving DecidableEq

namespace RecoveryState

def new : RecoveryState := ⟨false, none, none, [], [], false, false, false, none, false⟩

def capturePreVpnState (table : RoutingTable) : RecoveryState :=
  match WindowsApi.getDefaultGateway table with
  | some ⟨_, _, .v4 gateway, index, _⟩ =>
    { new with vpnActive := true, originalGateway := some gateway, originalInterfaceIdx := some index }
  | _ => { new with vpnActive := true }

def recordAddedRoute (state : RecoveryState) (entry : RouteEntry) : RecoveryState :=
  { state with addedRoutes := state.addedRoutes ++ [entry] }

def recordDeletedRoute (state : RecoveryState) (entry : RouteEntry) : RecoveryState :=
  { state with deletedRoutes := state.deletedRoutes ++ [entry] }

/-- The routes that recovery puts back: the deleted ones, and the default route where none was recorded. -/
def restored (state : RecoveryState) : List RouteEntry :=
  if state.deletedRoutes = [] then
    state.originalGateway.toList.map fun gateway =>
      .newV4 (.replicate 4 0) 0 gateway (state.originalInterfaceIdx.getD 0)
  else state.deletedRoutes

def performRecoveryWithState (state : RecoveryState) (table : RoutingTable) : RoutingTable :=
  state.restored.foldl RoutingTable.restore (state.addedRoutes.foldl RoutingTable.undo table)

end RecoveryState

/-! ### The route manager -/

inductive WindowsClientError
  | routing (message : String)
  | io
deriving DecidableEq

structure RouteManager where
  originalGateway : Option (Block 4)
  originalInterfaceIdx : Option UInt32
  vpnGateway : Block 4
  vpnGatewayV6 : Option (Block 16)
  serverEndpoint : Block 4
  killSwitch : Bool
  allowLan : Bool
  ipv6Enabled : Bool
  recoveryState : Option RecoveryState
  ipv6Blocked : Bool
deriving DecidableEq

structure DnsLeakProtection where
  active : Bool
  nrptRuleGuid : Option String
  smartMultiHomedWasSet : Option Bool
deriving DecidableEq

/-- What the system answers: interface indices, the routes it takes for other reasons, the metric of IPv6 routes and
whether firewall rules can be made. -/
structure WinSystem where
  interfaceIndex : Option UInt32
  adapterIndex : UInt32
  gatewayIndex : Block 4 → UInt32
  accepts : RouteEntry → Bool
  ipv6Metric : UInt32
  firewallRule : Bool

/-- The process with the table and the journal; no code reads `installed` and `defaultsDeleted`. -/
structure WinMachine where
  manager : RouteManager
  dns : DnsLeakProtection
  table : RoutingTable
  journal : Option RecoveryState
  installed : List RouteEntry
  defaultsDeleted : Bool
deriving DecidableEq

namespace WinMachine

def start (manager : RouteManager) (table : RoutingTable) : WinMachine :=
  ⟨{ manager with recoveryState := none, ipv6Blocked := false }, ⟨false, none, none⟩, table, none, [], false⟩

def install (w : WinMachine) (entry : RouteEntry) : WinMachine :=
  { w with table := entry :: w.table, installed := w.installed ++ [entry] }

/-- `route delete 0.0.0.0 mask 0.0.0.0` takes every default route. -/
def deleteDefaultRoutes (w : WinMachine) : WinMachine :=
  { w with table := w.table.filter (fun r => !(r.isV4 && r.isDefault)), defaultsDeleted := true }

/-- The manager changes its own copy of the journal and saves that. -/
def record (w : WinMachine) (change : RecoveryState → RecoveryState) : WinMachine :=
  match w.manager.recoveryState with
  | none => w
  | some recovery =>
    { w with manager := { w.manager with recoveryState := some (change recovery) }, journal := some (change recovery) }

/-- The journal is read back from the disk, changed and saved. -/
def amendJournal (w : WinMachine) (change : RecoveryState → RecoveryState) : WinMachine :=
  { w with journal := w.journal.map change }

def checkAndPerformRecovery (w : WinMachine) : RoutingTable :=
  match w.journal with
  | none => w.table
  | some state => if state.vpnActive then state.performRecoveryWithState w.table else w.table

end WinMachine

namespace RouteManager

abbrev Action (α : Type) := Prog WinMachine WindowsClientError α

def hasIpv6 (self : RouteManager) : Bool := self.ipv6Enabled && self.vpnGatewayV6.isSome

def leadingOnes (bits : UInt32) : Nat :=
  ((List.range 32).takeWhile fun i => bits.toNat.testBit (31 - i)).length

def trailingZeros (bits : UInt32) : Nat :=
  ((List.range 32).takeWhile fun i => !bits.toNat.testBit i).length

def netmaskToPrefixLen (mask : UInt32) : Option UInt8 :=
  if mask = 0 then some 0
  else if leadingOnes mask + trailingZeros mask = 32 then some (UInt8.ofNat (leadingOnes mask)) else none

def parseCidr (cidr : List Char) : Option (Block 4 × UInt32) :=
  match cidr.splitOn '/' with
  | [destination, length] => do
    let length ← parseU8 length
    guard (length ≤ 32)
    let mask : UInt32 := if length = 0 then 0 else 0xFFFFFFFF <<< (32 - length).toUInt32
    -- the destination is read where the route is added
    let destination ← parseIpv4 destination
    return (destination, mask)
  | _ => none

variable (S : WinSystem)

def runRouteAdd (entry : RouteEntry) (failed : String) : Action Unit := do
  let table ← Prog.read WinMachine.table
  if S.accepts entry && table.admits entry then Prog.atomic (·.install entry)
  else Prog.fail (.routing failed)

def runRouteAddV4 (destination : Block 4) (mask : UInt32) (gateway : Block 4) (interfaceIndex : UInt32) : Action Unit :=
  match netmaskToPrefixLen mask with
  | none => Prog.fail (.routing "route add failed: ")
  | some prefixLen => runRouteAdd S (.newV4 destination prefixLen gateway interfaceIndex) "route add failed: "

def persistRecoveredAddedRouteV4 (destination : Block 4) (mask : UInt32) (gateway : Block 4)
    (interfaceIndex : UInt32) : Action Unit :=
  match netmaskToPrefixLen mask with
  | none => pure ()
  | some prefixLen => Prog.atomic (·.record (·.recordAddedRoute (.newV4 destination prefixLen gateway interfaceIndex)))

def persistRecoveredDeletedRouteV4 (destination : Block 4) (mask : UInt32) (gateway : Block 4)
    (interfaceIndex : UInt32) : Action Unit :=
  match netmaskToPrefixLen mask with
  | none => pure ()
  | some prefixLen =>
    Prog.atomic (·.record (·.recordDeletedRoute (.newV4 destination prefixLen gateway interfaceIndex)))

def persistRecoveredAddedRouteV6 (destination : Block 16) (prefixLen : UInt8) (gateway : Block 16) : Action Unit :=
  Prog.atomic (·.record (·.recordAddedRoute (.newV6 destination prefixLen gateway 0)))

def addRouteWithInterface (destination : Block 4) (mask : UInt32) (gateway : Block 4) (useVpnInterface : Bool) :
    Action Unit := do
  let self ← Prog.read WinMachine.manager
  let ifIndex := if useVpnInterface then S.interfaceIndex else self.originalInterfaceIdx.filter (0 < ·)
  -- without an index the system picks the interface of the gateway
  runRouteAddV4 S destination mask gateway (ifIndex.getD (S.gatewayIndex gateway))
  persistRecoveredAddedRouteV4 destination mask gateway (ifIndex.getD 0)

def addRoute (destination : Block 4) (mask : UInt32) (gateway : Block 4) : Action Unit :=
  addRouteWithInterface S destination mask gateway true

def addExclusionRoute (destination : Block 4) (mask : UInt32) (gateway : Block 4) : Action Unit :=
  addRouteWithInterface S destination mask gateway false

def addRouteV6 (destination : Block 16) (prefixLen : UInt8) (gateway : Block 16) : Action Unit := do
  runRouteAdd S { RouteEntry.newV6 destination prefixLen gateway S.adapterIndex with metric := S.ipv6Metric }
    "netsh ipv6 route add failed"
  persistRecoveredAddedRouteV6 destination prefixLen gateway

def addRouteV6Onlink (destination : Block 16) (prefixLen : UInt8) : Action Unit := do
  runRouteAdd S { RouteEntry.newV6 destination prefixLen (.replicate 16 0) S.adapterIndex with metric := S.ipv6Metric }
    "netsh ipv6 on-link route add failed (both forms)"
  persistRecoveredAddedRouteV6 destination prefixLen (.replicate 16 0)

/-- `route delete` on the default route; the gateway and its index are journalled. -/
def deleteDefaultRoute (gateway : Block 4) : Action Unit := do
  Prog.atomic WinMachine.deleteDefaultRoutes
  let self ← Prog.read WinMachine.manager
  persistRecoveredDeletedRouteV4 (.replicate 4 0) 0 gateway (self.originalInterfaceIdx.getD 0)

def enableIpv6LeakProtection : Action Unit := do
  let self ← Prog.read WinMachine.manager
  if self.ipv6Blocked then pure ()
  else if S.firewallRule then do
    Prog.modify fun w => { w with manager := { w.manager with ipv6Blocked := true } }
    Prog.atomic (·.amendJournal fun state => { state with ipv6Blocked := true })
  else Prog.fail (.routing "New-NetFirewallRule failed")

/-- The state before the tunnel is saved; the two modes differ in the interface they note. -/
def captureRecovery (noted : RouteManager → RecoveryState → Option UInt32) : Action (Block 4) := do
  let table ← Prog.read WinMachine.table
  let self ← Prog.read WinMachine.manager
  match self.originalGateway with
  | none =>
    Prog.fail (.routing ("CRITICAL: Original gateway not set. " ++
      "The default gateway MUST be captured BEFORE creating the VPN adapter. Call set_original_gateway() with the " ++
      "gateway obtained before adapter creation to prevent routing loops."))
  | some gateway => do
    let captured := RecoveryState.capturePreVpnState table
    let recovery := { captured with originalGateway := some gateway, originalInterfaceIdx := noted self captured }
    Prog.atomic fun w =>
      { w with manager := { w.manager with recoveryState := some recovery }, journal := some recovery }
    pure gateway

def lanSubnets : List (Block 4 × UInt32) :=
  [(ipv4 10 0 0 0, 0xFF000000), (ipv4 172 16 0 0, 0xFFF00000), (ipv4 192 168 0 0, 0xFFFF0000),
    (ipv4 169 254 0 0, 0xFFFF0000)]

def lanSubnetsV6 : List (Block 16 × UInt8) := [(ipv6 0xfe 0x80, 10), (ipv6 0xfc 0x00, 7), (ipv6 0xfd 0x00, 8)]

def discoverySubnets : List (Block 4 × UInt32) := [(ipv4 224 0 0 0, 0xF0000000)]

/-- The LAN routes; the network of the VPN gateway is left to the tunnel. -/
def addLanRoutes (self : RouteManager) (gateway : Block 4) : Action Unit :=
  Prog.forEach lanSubnets fun (destination, mask) =>
    Prog.when (!(destination = ipv4 10 0 0 0 && self.vpnGateway.bytes.head? = some 10))
      (Prog.ignore (addExclusionRoute S destination mask gateway))

def setupFullTunnelV6 (self : RouteManager) : Action Unit :=
  match self.vpnGatewayV6 with
  | none => pure ()
  | some gateway => do
    let low ← Prog.attempt (addRouteV6 S (.replicate 16 0) 1 gateway)
    let high ← Prog.attempt (addRouteV6 S (ipv6 0x80 0x00) 1 gateway)
    if low.toBool && high.toBool then
      Prog.when (self.killSwitch && self.allowLan)
        (Prog.forEach lanSubnetsV6 fun (destination, prefixLen) =>
          Prog.ignore (addRouteV6Onlink S destination prefixLen))
    else Prog.ignore (enableIpv6LeakProtection S)

/-- The two halves of the IPv4 address space through the tunnel. -/
def addVpnRoutes (self : RouteManager) : Action Unit := do
  addRoute S (.replicate 4 0) 0x80000000 self.vpnGateway
  addRoute S (ipv4 128 0 0 0) 0x80000000 self.vpnGateway

def setupFullTunnel : Action Unit := do
  let self ← Prog.read WinMachine.manager
  let gateway ← captureRecovery fun self captured => self.originalInterfaceIdx.or captured.originalInterfaceIdx
  addExclusionRoute S self.serverEndpoint 0xFFFFFFFF gateway
  Prog.when self.killSwitch do
    deleteDefaultRoute gateway
    Prog.when self.allowLan (addLanRoutes S self gateway)
  Prog.when (!self.hasIpv6) (Prog.ignore (enableIpv6LeakProtection S))
  addVpnRoutes S self
  Prog.when self.hasIpv6 (setupFullTunnelV6 S self)

/-- A bypass route as the setup takes it; a text whose length reads `0` is refused. -/
def bypassTarget (route : String) : Option (Block 4 × UInt32) :=
  let route := trimmed route
  match (route.splitOn '/')[1]? with
  | some length => if trimmed (String.ofList length) = ['0'] then none else parseCidr route
  | none => parseCidr route

def setupBypassTunnel (bypassRoutes : List String) (bypassLocal bypassDiscovery : Bool) : Action Unit := do
  let self ← Prog.read WinMachine.manager
  let gateway ← captureRecovery fun self _ => self.originalInterfaceIdx
  addExclusionRoute S self.serverEndpoint 0xFFFFFFFF gateway
  Prog.when self.killSwitch (deleteDefaultRoute gateway)
  Prog.when (!self.hasIpv6) (Prog.ignore (enableIpv6LeakProtection S))
  addVpnRoutes S self
  Prog.when self.hasIpv6 (setupFullTunnelV6 S self)
  Prog.forEach (bypassRoutes.filterMap bypassTarget) fun (destination, mask) =>
    Prog.ignore (addExclusionRoute S destination mask gateway)
  Prog.when bypassLocal (addLanRoutes S self gateway)
  Prog.when bypassDiscovery
    (Prog.forEach discoverySubnets fun (destination, mask) =>
      Prog.ignore (addExclusionRoute S destination mask gateway))

end RouteManager

/-- Whether the adapter's servers can be set, the rule that was made and whether the policy could be written. -/
structure DnsAnswers where
  setInterfaceDns : Bool
  installNrptRule : Option String
  disableSmartMultiHomed : Option Bool
deriving DecidableEq

def DnsLeakProtection.enable (A : DnsAnswers) : RouteManager.Action Unit := do
  let self ← Prog.read WinMachine.dns
  if self.active then pure ()
  else if A.setInterfaceDns then do
    Prog.atomic (·.amendJournal fun state =>
      { state with
        llmnrDisabled := true
        netbiosDisabled := true
        nrptRuleGuid := A.installNrptRule
        smartMultiHomedDisabled := A.disableSmartMultiHomed.isSome })
    Prog.modify fun w => { w with dns := ⟨true, A.installNrptRule, A.disableSmartMultiHomed⟩ }
  else Prog.fail .io

namespace RouteManager
variable (S : WinSystem)

inductive TunnelMode
  | full
  | bypass (routes : List String) (bypassLocal bypassDiscovery : Bool)
deriving DecidableEq

def setup : TunnelMode → Action Unit
  | .full => setupFullTunnel S
  | .bypass routes bypassLocal bypassDiscovery => setupBypassTunnel S routes bypassLocal bypassDiscovery

end RouteManager

end HpnVpn
