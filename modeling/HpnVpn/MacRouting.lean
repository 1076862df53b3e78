import HpnVpn.Text

/-! The routes of the macOS client.  The table maps destinations to next hops; a route that exists is not replaced,
and what was there before is not noted. -/
namespace HpnVpn
open Wire

abbrev MacDestination := IpAddr × UInt8

/-- The gateway of a route, absent for a route on a link, and its interface. -/
structure NextHop where
  gateway : Option IpAddr
  interface : String
deriving DecidableEq

abbrev MacTable := MacDestination → Option NextHop

namespace MacTable

variable (t : MacTable)

/-- `route add`; an error that the route is in the table is ignored. -/
def add (d : MacDestination) (hop : NextHop) : MacTable :=
  Function.update t d ((t d).or (some hop))

/-- `route delete`; an error that the route is not in the table is ignored. -/
def delete (d : MacDestination) : MacTable := Function.update t d none

def addAll (ds : List MacDestination) (hop : NextHop) : MacTable :=
  ds.foldl (fun t d => t.add d hop) t

def deleteAll (ds : List MacDestination) : MacTable := ds.foldl delete t

end MacTable

inductive MacosClientError
  | routing (message : String)
deriving DecidableEq

structure RoutingConfig where
  interface : String
  gateway : Block 4
  serverEndpoint : Block 4
  originalGateway : Option (Block 4)
  originalInterface : Option String
  killSwitch : Bool
  allowLan : Bool
  gatewayV6 : Option (Block 16)
  ipv6Enabled : Bool
  originalGatewayV6 : Option (Block 16)
  originalInterfaceV6 : Option String
deriving DecidableEq

namespace MacRouting

def netV4 (a b c d len : UInt8) : MacDestination := (.v4 (ipv4 a b c d), len)

def defaultV4 : MacDestination := netV4 0 0 0 0 0

def defaultV6 : MacDestination := (.v6 (ipv6 0 0), 0)

def halvesV4 : List MacDestination := [netV4 0 0 0 0 1, netV4 128 0 0 0 1]

def halvesV6 : List MacDestination := [(.v6 (ipv6 0 0), 1), (.v6 (ipv6 0x80 0), 1)]

def lanSubnets : List MacDestination :=
  [netV4 10 0 0 0 8, netV4 172 16 0 0 12, netV4 192 168 0 0 16, netV4 169 254 0 0 16]

def lanSubnetsV6 : List MacDestination := [(.v6 (ipv6 0xfe 0x80), 10), (.v6 (ipv6 0xfc 0), 7)]

def discoveryRoutes : List MacDestination := [netV4 224 0 0 0 4]

def serverRoute (config : RoutingConfig) : MacDestination := (.v4 config.serverEndpoint, 32)

def getDefaultGateway (t : MacTable) : Except MacosClientError (Block 4 × String) :=
  match t defaultV4 with
  | none => .error (.routing "failed to get default route")
  | some ⟨some (.v4 gateway), interface⟩ => .ok (gateway, interface)
  | some _ => .error (.routing "could not parse default gateway")

def getDefaultGatewayV6 (t : MacTable) : Option (Block 16 × String) :=
  match t defaultV6 with
  | some ⟨some (.v6 gateway), interface⟩ => some (gateway, interface)
  | _ => none

end MacRouting

namespace RoutingConfig
open MacRouting

variable (config : RoutingConfig)

def original : Option (Block 4 × String) :=
  match config.originalGateway, config.originalInterface with
  | some gateway, some interface => some (gateway, interface)
  | _, _ => none

def originalV6 : Option (Block 16 × String) :=
  match config.originalGatewayV6, config.originalInterfaceV6 with
  | some gateway, some interface => some (gateway, interface)
  | _, _ => none

/-- The original gateway is taken from the configuration, or detected and noted there. -/
def capture (t : MacTable) : Except MacosClientError (RoutingConfig × Block 4 × String) :=
  match config.original with
  | some original => .ok (config, original)
  | none => do
    let (gateway, interface) ← getDefaultGateway t
    return ({ config with originalGateway := some gateway, originalInterface := some interface }, gateway, interface)

def captureV6 (t : MacTable) : RoutingConfig × Option (Block 16 × String) :=
  match config.originalV6 with
  | some original => (config, some original)
  | none =>
    match getDefaultGatewayV6 t with
    | some (gateway, interface) =>
      ({ config with originalGatewayV6 := some gateway, originalInterfaceV6 := some interface },
        some (gateway, interface))
    | none => (config, none)

end RoutingConfig

namespace MacRouting

/-- How the route command reads the text of a network. -/
structure RouteText where
  destination : String → Option (Block 4 × UInt8)

def fullTunnelV4 (config : RoutingConfig) (original : NextHop) (t : MacTable) : MacTable :=
  let t := t.add (serverRoute config) original
  let t := t.delete defaultV4
  let t := if config.killSwitch && config.allowLan then t.addAll lanSubnets original else t
  t.addAll halvesV4 ⟨some (.v4 config.gateway), config.interface⟩

def fullTunnelV6 (config : RoutingConfig) (t : MacTable) : RoutingConfig × MacTable :=
  match config.ipv6Enabled, config.gatewayV6 with
  | true, some gatewayV6 =>
    let (config, originalV6) := config.captureV6 t
    let t := t.addAll halvesV6 ⟨some (.v6 gatewayV6), config.interface⟩
    match originalV6 with
    | some (gatewayV6, interfaceV6) =>
      (config, if config.killSwitch && config.allowLan
        then t.addAll lanSubnetsV6 ⟨some (.v6 gatewayV6), interfaceV6⟩ else t)
    | none => (config, t)
  | _, _ => (config, t)

def setupFullTunnel (config : RoutingConfig) (t : MacTable) : Except MacosClientError (RoutingConfig × MacTable) := do
  let (config, gateway, interface) ← config.capture t
  return fullTunnelV6 config (fullTunnelV4 config ⟨some (.v4 gateway), interface⟩ t)

variable (R : RouteText)

/-- The networks that a bypass setup excludes from the tunnel: the user's, those of the LAN and of discovery. -/
def bypassed (config : RoutingConfig) (bypassRoutes : List String) (bypassLocal bypassDiscovery : Bool) :
    List MacDestination :=
  let user := bypassRoutes.filterMap fun route =>
    if trimmed route = [] then none
    else (R.destination (String.ofList (trimmed route))).map fun (net, len) => (IpAddr.v4 net, len)
  let lan := lanSubnets.filter fun d => !(d = netV4 10 0 0 0 8 && config.gateway.bytes.head? = some 10)
  user ++ (if bypassLocal then lan else []) ++ if bypassDiscovery then discoveryRoutes else []

def setupBypassTunnel (config : RoutingConfig) (bypassRoutes : List String)
    (bypassLocal bypassDiscovery : Bool) (t : MacTable) : Except MacosClientError (RoutingConfig × MacTable) := do
  let (config, gateway, interface) ← config.capture t
  let original : NextHop := ⟨some (.v4 gateway), interface⟩
  let t := t.add (serverRoute config) original
  let t := t.delete defaultV4
  let t := t.addAll halvesV4 ⟨some (.v4 config.gateway), config.interface⟩
  return (config, t.addAll (bypassed R config bypassRoutes bypassLocal bypassDiscovery) original)

def restoreDefaults (config : RoutingConfig) (t : MacTable) : MacTable :=
  let t := match config.original with
    | some (gateway, interface) => (t.delete defaultV4).add defaultV4 ⟨some (.v4 gateway), interface⟩
    | none => t
  match config.ipv6Enabled, config.originalV6 with
  | true, some (gateway, interface) => (t.delete defaultV6).add defaultV6 ⟨some (.v6 gateway), interface⟩
  | _, _ => t

/-- What the two teardowns share: they differ in when LAN routes are removed and the default routes are put back. -/
def teardown (lan restore : Bool) (config : RoutingConfig) (t : MacTable) : MacTable :=
  let t := t.deleteAll (halvesV4 ++ [serverRoute config])
  let t := if lan then t.deleteAll lanSubnets else t
  let t := if config.ipv6Enabled then
      let t := t.deleteAll halvesV6
      if lan then t.deleteAll lanSubnetsV6 else t
    else t
  if restore then restoreDefaults config t else t

/-- With the kill switch on, the default route stays away. -/
def teardownRouting (config : RoutingConfig) (t : MacTable) : MacTable :=
  teardown (config.killSwitch && config.allowLan) (!config.killSwitch) config t

def teardownRoutingForceRestore (config : RoutingConfig) (t : MacTable) : MacTable :=
  teardown config.allowLan true config t

inductive MacTunnelMode
  | full
  | bypass (routes : List String) (bypassLocal bypassDiscovery : Bool)
deriving DecidableEq

def setup : MacTunnelMode → RoutingConfig → MacTable → Except MacosClientError (RoutingConfig × MacTable)
  | .full, config, t => setupFullTunnel config t
  | .bypass routes bypassLocal bypassDiscovery, config, t =>
    setupBypassTunnel R config routes bypassLocal bypassDiscovery t

def teardownBy (force : Bool) (config : RoutingConfig) (t : MacTable) : MacTable :=
  if force then teardownRoutingForceRestore config t else teardownRouting config t

end MacRouting

namespace MacTable

variable (t : MacTable) (ds : List MacDestination) (d x : MacDestination)

theorem add_apply (hop : NextHop) :
    t.add d hop x = (t x).or (if x = d then some hop else none) := by
  unfold add
  by_cases h : x = d
  · rw [h, Function.update_self, if_pos rfl]
  · rw [Function.update_of_ne h, if_neg h, Option.or_none]

theorem delete_apply : t.delete d x = if x = d then none else t x := by
  unfold delete
  rw [Function.update_apply]

theorem delete_add_apply (hop : NextHop) :
    (t.delete d).add d hop x = if x = d then some hop else t x := by
  rw [add_apply, delete_apply]
  by_cases h : x = d
  all_goals simp [h]

theorem addAll_apply (hop : NextHop) (x : MacDestination) :
    t.addAll ds hop x = (t x).or (if x ∈ ds then some hop else none) := by
  induction ds generalizing t with
  | nil => simp [addAll]
  | cons d ds ih =>
    have hcons : t.addAll (d :: ds) hop = (t.add d hop).addAll ds hop := rfl
    rw [hcons, ih, add_apply]
    by_cases h : x = d
    all_goals simp [h]

theorem deleteAll_apply :
    t.deleteAll ds x = if x ∈ ds then none else t x := by
  induction ds generalizing t with
  | nil => simp [deleteAll]
  | cons d ds ih =>
    have hcons : t.deleteAll (d :: ds) = (t.delete d).deleteAll ds := rfl
    rw [hcons, ih, delete_apply]
    by_cases h : x = d
    all_goals simp [h]

end MacTable

namespace MacRouting
open MacTable

def removed (lan : Bool) (config : RoutingConfig) : List MacDestination :=
  halvesV4 ++ [serverRoute config] ++ (if lan then lanSubnets else []) ++
    if config.ipv6Enabled then halvesV6 ++ (if lan then lanSubnetsV6 else []) else []

section
variable (lan restore : Bool) (config : RoutingConfig) (t : MacTable)

theorem defaultV4_notMem_removed : defaultV4 ∉ removed lan config := by
  have hserver : defaultV4 ≠ serverRoute config := by
    intro h
    have hlen : (0 : UInt8) = 32 := congrArg Prod.snd h
    exact absurd hlen (by decide)
  cases lan <;> cases h : config.ipv6Enabled <;> simp [removed, h, hserver] <;> decide

theorem defaultV6_notMem_removed : defaultV6 ∉ removed lan config := by
  have hserver : defaultV6 ≠ serverRoute config := fun h => nomatch congrArg Prod.fst h
  cases lan <;> cases h : config.ipv6Enabled <;> simp [removed, h, hserver] <;> decide

theorem teardown_eq :
    teardown lan restore config t =
      if restore then restoreDefaults config (t.deleteAll (removed lan config))
      else t.deleteAll (removed lan config) := by
  have hdelete : ∀ (t : MacTable) (a b : List MacDestination), t.deleteAll (a ++ b) = (t.deleteAll a).deleteAll b :=
    fun t a b => List.foldl_append
  have hnil : ∀ t : MacTable, t.deleteAll [] = t := fun _ => rfl
  unfold teardown removed
  cases lan <;> cases config.ipv6Enabled <;> simp only [hdelete, hnil, if_true, if_false, Bool.false_eq_true]

def hopV4 (original : Block 4 × String) : NextHop := ⟨some (.v4 original.1), original.2⟩

def hopV6 (original : Block 16 × String) : NextHop := ⟨some (.v6 original.1), original.2⟩

theorem teardown_apply (x : MacDestination) :
    teardown lan restore config t x =
      if x = defaultV4 ∧ restore = true ∧ config.original.isSome then
        config.original.map hopV4
      else if x = defaultV6 ∧ restore = true ∧ config.ipv6Enabled = true ∧ config.originalV6.isSome then
        config.originalV6.map hopV6
      else if x ∈ removed lan config then none else t x := by
  rw [teardown_eq, ← deleteAll_apply]
  cases restore with
  | false => simp
  | true =>
    unfold restoreDefaults
    have hne : defaultV6 ≠ defaultV4 := by decide
    by_cases h4 : x = defaultV4
    · cases config.original <;> cases config.ipv6Enabled <;> cases config.originalV6 <;>
        simp [delete_add_apply, hopV4, h4, hne.symm]
    · by_cases h6 : x = defaultV6
      · cases config.original <;> cases config.ipv6Enabled <;> cases config.originalV6 <;>
          simp [delete_add_apply, hopV6, h6, hne]
      · cases config.original <;> cases config.ipv6Enabled <;> cases config.originalV6 <;>
          simp [delete_add_apply, h4, h6]

/-! ### What a setup leaves -/

/-- Away from the default route, the second table has the routes of the first and others for the networks `ds` only. -/
def Extends (t t' : MacTable) (ds : List MacDestination) : Prop :=
  ∀ x, x ≠ defaultV4 → t' x = t x ∨ t x = none ∧ x ∈ ds

namespace Extends
variable {t t' t'' : MacTable} {ds es : List MacDestination}

theorem refl (t : MacTable) : Extends t t [] := fun _ _ => .inl rfl

theorem trans (h : Extends t t' ds) (h' : Extends t' t'' es) : Extends t t'' (ds ++ es) := by
  intro x hx
  obtain heq' | ⟨hnone', hmem'⟩ := h' x hx
  · rw [heq']
    exact (h x hx).imp_right (And.imp_right (List.mem_append_left es))
  · obtain heq | ⟨hnone, hmem⟩ := h x hx
    · exact .inr ⟨heq ▸ hnone', List.mem_append_right ds hmem'⟩
    · exact .inr ⟨hnone, List.mem_append_left es hmem⟩

theorem mono (h : Extends t t' ds) (hsub : ds ⊆ es) : Extends t t' es :=
  fun x hx => (h x hx).imp_right (And.imp_right fun hmem => hsub hmem)

theorem addAll (t : MacTable) (ds : List MacDestination) (hop : NextHop) : Extends t (t.addAll ds hop) ds := by
  intro x _
  rw [addAll_apply]
  cases h : t x with
  | some _ => exact .inl rfl
  | none =>
    by_cases hmem : x ∈ ds
    · exact .inr ⟨rfl, hmem⟩
    · exact .inl (if_neg hmem)

theorem add (t : MacTable) (d : MacDestination) (hop : NextHop) : Extends t (t.add d hop) [d] :=
  addAll t [d] hop

theorem delete (t : MacTable) : Extends t (t.delete defaultV4) [] := by
  intro x hx
  rw [delete_apply, if_neg hx]
  exact .inl rfl

theorem ite (t : MacTable) (c : Bool) (ds : List MacDestination) (hop : NextHop) :
    Extends t (if c then t.addAll ds hop else t) (if c then ds else []) := by
  cases c with
  | false => exact refl t
  | true => exact addAll t ds hop

end Extends

variable {config' : RoutingConfig} {T : MacTable} {R : RouteText} {mode : MacTunnelMode}

theorem capture_ok {config : RoutingConfig} {t : MacTable} {original : Block 4 × String}
    (h : config.capture t = .ok (config', original)) :
    config' = { config with originalGateway := some original.1, originalInterface := some original.2 } ∧
      (config.original = some original ∨ config.original = none ∧ t defaultV4 = some (hopV4 original)) := by
  unfold RoutingConfig.capture at h
  split at h
  case h_1 noted hnoted =>
    cases h
    refine ⟨?_, .inl hnoted⟩
    unfold RoutingConfig.original at hnoted
    split at hnoted
    case h_1 gateway interface hgateway hinterface =>
      cases hnoted
      rw [← hgateway, ← hinterface]
    case h_2 => cases hnoted
  case h_2 hnone =>
    unfold getDefaultGateway at h
    split at h
    case h_1 => cases h
    case h_2 gateway interface hdefault =>
      cases h
      exact ⟨rfl, .inr ⟨hnone, hdefault⟩⟩
    case h_3 => cases h

theorem captureV6_cases :
    (∃ original, config.captureV6 t =
        ({ config with originalGatewayV6 := some original.1, originalInterfaceV6 := some original.2 }, some original) ∧
      (config.originalV6 = some original ∨ config.originalV6 = none ∧ t defaultV6 = some (hopV6 original))) ∨
      config.captureV6 t = (config, none) ∧ config.originalV6 = none := by
  unfold RoutingConfig.captureV6
  split
  case h_1 noted hnoted =>
    refine .inl ⟨noted, ?_, .inl hnoted⟩
    unfold RoutingConfig.originalV6 at hnoted
    split at hnoted
    case h_1 gateway interface hgateway hinterface =>
      cases hnoted
      rw [← hgateway, ← hinterface]
    case h_2 => cases hnoted
  case h_2 hnone =>
    unfold getDefaultGatewayV6
    split
    case h_1 gateway interface hsome =>
      split at hsome
      case h_1 gateway' interface' hdefault =>
        cases hsome
        exact .inl ⟨(gateway, interface), rfl, .inr ⟨hnone, hdefault⟩⟩
      case h_2 => cases hsome
    case h_2 => exact .inr ⟨rfl, hnone⟩

/-- What a setup leaves in the table and in its configuration, where it excludes the networks `bypassed`. -/
structure SetUp (config : RoutingConfig) (T : MacTable) (bypassed : List MacDestination) (config' : RoutingConfig)
    (t : MacTable) (original : Block 4 × String) : Prop where
  settings : config'.killSwitch = config.killSwitch ∧ config'.allowLan = config.allowLan ∧
    config'.ipv6Enabled = config.ipv6Enabled ∧ config'.serverEndpoint = config.serverEndpoint
  noted : config'.original = some original
  captured : config.original = some original ∨ config.original = none ∧ T defaultV4 = some (hopV4 original)
  notedV6 : config'.originalV6 = config.originalV6 ∨
    config.originalV6 = none ∧ ∃ originalV6, config'.originalV6 = some originalV6 ∧ T defaultV6 = some (hopV6 originalV6)
  extended : Extends T t (removed (config.killSwitch && config.allowLan) config ++ bypassed)
  added : ∀ d ∈ bypassed, t d ≠ none
  default : t defaultV4 = if defaultV4 ∈ bypassed then some (hopV4 original) else none

theorem addAll_default {t : MacTable} {ds : List MacDestination} (ht : t defaultV4 = none) (hds : defaultV4 ∉ ds)
    (hop : NextHop) : t.addAll ds hop defaultV4 = none := by
  rw [addAll_apply, ht, if_neg hds]
  rfl

theorem fullTunnelV4_extends (original : NextHop) (t : MacTable) :
    Extends t (fullTunnelV4 config original t)
      ([serverRoute config] ++ (if config.killSwitch && config.allowLan then lanSubnets else []) ++ halvesV4) := by
  have hserver : Extends t ((t.add (serverRoute config) original).delete defaultV4) [serverRoute config] :=
    (Extends.add t (serverRoute config) original).trans (.delete _)
  exact (hserver.trans (.ite _ _ _ _)).trans (.addAll _ _ _)

theorem fullTunnelV4_default (original : NextHop) (t : MacTable) :
    fullTunnelV4 config original t defaultV4 = none := by
  have hdeleted : ((t.add (serverRoute config) original).delete defaultV4) defaultV4 = none := by
    rw [delete_apply, if_pos rfl]
  refine addAll_default ?_ (by decide) _
  split
  · exact addAll_default hdeleted (by decide) _
  · exact hdeleted

theorem fullTunnelV6_spec :
    ∃ gateway interface,
      (fullTunnelV6 config t).1 = { config with originalGatewayV6 := gateway, originalInterfaceV6 := interface } ∧
      ((fullTunnelV6 config t).1.originalV6 = config.originalV6 ∨
        config.originalV6 = none ∧ ∃ originalV6, (fullTunnelV6 config t).1.originalV6 = some originalV6 ∧
          t defaultV6 = some (hopV6 originalV6)) ∧
      Extends t (fullTunnelV6 config t).2 (if config.ipv6Enabled then
        halvesV6 ++ (if config.killSwitch && config.allowLan then lanSubnetsV6 else []) else []) ∧
      (fullTunnelV6 config t).2 defaultV4 = t defaultV4 := by
  unfold fullTunnelV6
  split
  case h_1 gatewayV6 hipv6 hgateway =>
    rw [if_pos hipv6]
    have hkeep : ∀ {t : MacTable} {ds : List MacDestination} {hop : NextHop}, defaultV4 ∉ ds →
        t.addAll ds hop defaultV4 = t defaultV4 := by
      intro t ds hop hds
      rw [addAll_apply, if_neg hds, Option.or_none]
    obtain ⟨original, hcapture, hnoted⟩ | ⟨hcapture, hnone⟩ := captureV6_cases config t
    · rw [hcapture]
      refine ⟨some original.1, some original.2, rfl, ?_, (Extends.addAll _ _ _).trans (.ite _ _ _ _), ?_⟩
      · obtain hnoted | ⟨hnone, hdefault⟩ := hnoted
        · exact .inl hnoted.symm
        · exact .inr ⟨hnone, original, rfl, hdefault⟩
      · dsimp only
        split
        · rw [hkeep (by decide), hkeep (by decide)]
        · exact hkeep (by decide)
    · rw [hcapture]
      refine ⟨config.originalGatewayV6, config.originalInterfaceV6, rfl, .inl rfl, ?_, hkeep (by decide)⟩
      exact (Extends.addAll _ _ _).mono (List.subset_append_left _ _)
  case h_2 =>
    exact ⟨config.originalGatewayV6, config.originalInterfaceV6, rfl, .inl rfl,
      (Extends.refl t).mono (List.nil_subset _), rfl⟩

theorem setUp_of_setupFullTunnel {config : RoutingConfig} {t : MacTable}
    (h : setupFullTunnel config T = .ok (config', t)) : ∃ original, SetUp config T [] config' t original := by
  unfold setupFullTunnel at h
  cases hcapture : config.capture T with
  | error e =>
    rw [hcapture] at h
    cases h
  | ok captured =>
    obtain ⟨config₁, original⟩ := captured
    rw [hcapture] at h
    obtain ⟨rfl, hcaptured⟩ := capture_ok hcapture
    have hv4 := fullTunnelV4_extends config (hopV4 original) T
    obtain ⟨gateway, interface, hconfig, hnotedV6, hv6, hdefault⟩ := fullTunnelV6_spec
      { config with originalGateway := some original.1, originalInterface := some original.2 }
      (fullTunnelV4 config (hopV4 original) T)
    have hout : fullTunnelV6
        { config with originalGateway := some original.1, originalInterface := some original.2 }
        (fullTunnelV4 config (hopV4 original) T) = (config', t) := Except.ok.inj h
    rw [hout] at hconfig hnotedV6 hv6 hdefault
    have hsame : fullTunnelV4 config (hopV4 original) T defaultV6 = T defaultV6 := by
      refine (hv4 defaultV6 (by decide)).resolve_right fun hnew => ?_
      refine defaultV6_notMem_removed (config.killSwitch && config.allowLan) config ?_
      have hmem := hnew.2
      simp only [removed, List.append_assoc, List.mem_append] at hmem ⊢
      tauto
    subst hconfig
    refine ⟨original, ⟨rfl, rfl, rfl, rfl⟩, rfl, hcaptured, ?_, ?_, fun d hd => absurd hd List.not_mem_nil, ?_⟩
    · rw [hsame] at hnotedV6
      exact hnotedV6
    · refine (hv4.trans hv6).mono ?_
      intro d hd
      simp only [removed, List.append_assoc, List.mem_append, List.append_nil] at hd ⊢
      tauto
    · exact hdefault.trans (fullTunnelV4_default config (hopV4 original) T)

theorem setUp_of_setupBypassTunnel {config : RoutingConfig} {routes : List String}
    {bypassLocal bypassDiscovery : Bool} {t : MacTable}
    (h : setupBypassTunnel R config routes bypassLocal bypassDiscovery T = .ok (config', t)) :
    ∃ original, SetUp config T (bypassed R config routes bypassLocal bypassDiscovery) config' t original := by
  unfold setupBypassTunnel at h
  cases hcapture : config.capture T with
  | error e =>
    rw [hcapture] at h
    cases h
  | ok captured =>
    obtain ⟨config₁, original⟩ := captured
    rw [hcapture] at h
    obtain ⟨rfl, hcaptured⟩ := capture_ok hcapture
    cases h
    refine ⟨original, ⟨rfl, rfl, rfl, rfl⟩, rfl, hcaptured, .inl rfl, ?_, ?_, ?_⟩
    · refine ((((Extends.add _ _ _).trans (.delete _)).trans (.addAll _ _ _)).trans (.addAll _ _ _)).mono ?_
      intro d hd
      simp only [removed, List.append_assoc, List.mem_append] at hd ⊢
      tauto
    · intro d hd
      have hadd := addAll_apply (((T.add (serverRoute config) (hopV4 original)).delete defaultV4).addAll halvesV4
        ⟨some (.v4 config.gateway), config.interface⟩) (bypassed R config routes bypassLocal bypassDiscovery)
        (hopV4 original) d
      rw [if_pos hd] at hadd
      exact ne_of_eq_of_ne hadd (by simp)
    · rw [addAll_apply, addAll_default ?_ (by decide)]
      · rfl
      · rw [delete_apply, if_pos rfl]

/-! ### Teardown after setup -/

def MacTunnelMode.bypassed (R : RouteText) (config : RoutingConfig) : MacTunnelMode → List MacDestination
  | .full => []
  | .bypass routes bypassLocal bypassDiscovery => MacRouting.bypassed R config routes bypassLocal bypassDiscovery

theorem setUp_of_setup {config : RoutingConfig} {t : MacTable} (h : setup R mode config T = .ok (config', t)) :
    ∃ original, SetUp config T (mode.bypassed R config) config' t original := by
  cases mode with
  | full => exact setUp_of_setupFullTunnel h
  | bypass routes bypassLocal bypassDiscovery => exact setUp_of_setupBypassTunnel h

theorem ne_defaultV6_of_mem_bypassed {config : RoutingConfig} {d : MacDestination} (hd : d ∈ mode.bypassed R config) :
    d ≠ defaultV6 := by
  have hlists : defaultV6 ∉ lanSubnets ∧ defaultV6 ∉ discoveryRoutes := by decide
  rintro rfl
  cases mode with
  | full => cases hd
  | bypass routes bypassLocal bypassDiscovery =>
    simp only [MacTunnelMode.bypassed, bypassed, List.mem_append] at hd
    obtain (huser | hlan) | hdiscovery := hd
    · obtain ⟨route, -, hroute⟩ := List.mem_filterMap.mp huser
      split at hroute
      · cases hroute
      · obtain ⟨net, -, hnet⟩ := Option.map_eq_some_iff.mp hroute
        exact nomatch congrArg Prod.fst hnet
    · split at hlan
      · exact hlists.1 (List.mem_of_mem_filter hlan)
      · cases hlan
    · split at hdiscovery
      · exact hlists.2 hdiscovery
      · cases hdiscovery

def removesLan (force : Bool) (config : RoutingConfig) : Bool := (force || config.killSwitch) && config.allowLan

def restores (force : Bool) (config : RoutingConfig) : Bool := force || !config.killSwitch

theorem teardownBy_eq (force : Bool) (config : RoutingConfig) (t : MacTable) :
    teardownBy force config t = teardown (removesLan force config) (restores force config) config t := by
  cases force with
  | false => rfl
  | true =>
    unfold removesLan restores
    rfl

/-- What an initial table must be for a teardown to give it back. -/
structure Restorable (R : RouteText) (mode : MacTunnelMode) (config : RoutingConfig) (force : Bool) (T : MacTable) :
    Prop where
  original : ∀ original, config.original = some original → T defaultV4 = some (hopV4 original)
  default : restores force config = true ∨ defaultV4 ∈ mode.bypassed R config
  removed : ∀ d ∈ removed (removesLan force config) config, T d = none
  bypassed : ∀ d ∈ mode.bypassed R config,
    d = defaultV4 ∨ d ∈ MacRouting.removed (removesLan force config) config ∨ T d ≠ none
  originalV6 : restores force config = true → config.ipv6Enabled = true →
    ∀ original, config.originalV6 = some original → T defaultV6 = some (hopV6 original)

namespace SetUp
variable {config config' : RoutingConfig} {T t : MacTable} {bypassed : List MacDestination} {original : Block 4 × String}

theorem teardownBy_apply (h : SetUp config T bypassed config' t original) (force : Bool) (x : MacDestination) :
    teardownBy force config' t x =
      if x = defaultV4 ∧ restores force config = true then some (hopV4 original)
      else if x = defaultV6 ∧ restores force config = true ∧ config.ipv6Enabled = true ∧ config'.originalV6.isSome then
        config'.originalV6.map hopV6
      else if x ∈ removed (removesLan force config) config then none else t x := by
  obtain ⟨hkill, hlan, hipv6, hserver⟩ := h.settings
  have hremoves : removesLan force config' = removesLan force config := by
    unfold removesLan
    rw [hkill, hlan]
  have hrestores : restores force config' = restores force config := by
    unfold restores
    rw [hkill]
  have hremoved : ∀ lan, removed lan config' = removed lan config := by
    intro lan
    unfold removed serverRoute
    rw [hipv6, hserver]
  rw [teardownBy_eq, teardown_apply, h.noted, hremoves, hrestores, hremoved, hipv6]
  simp

theorem removed_subset (config : RoutingConfig) (force : Bool) :
    removed (config.killSwitch && config.allowLan) config ⊆ removed (removesLan force config) config := by
  cases hlan : config.killSwitch && config.allowLan with
  | true =>
    obtain ⟨hkill, hallow⟩ := Bool.and_eq_true_iff.mp hlan
    rw [removesLan, hkill, hallow, Bool.or_true]
    exact List.Subset.refl _
  | false =>
    intro d hd
    cases h : config.ipv6Enabled <;> simp [removed, h] at hd ⊢ <;> tauto

end SetUp

section
variable {R : RouteText} {mode : MacTunnelMode} {config config' : RoutingConfig} {T t : MacTable}
  {original : Block 4 × String}

variable {force : Bool}

theorem SetUp.restorable (h : SetUp config T (mode.bypassed R config) config' t original) (hdefault : T defaultV4 ≠ none)
    (hback : teardownBy force config' t = T) : Restorable R mode config force T := by
  have happly := fun x => (congrFun hback x).symm.trans (h.teardownBy_apply force x)
  have hrestored : T defaultV4 = some (hopV4 original) ∧
      (restores force config = true ∨ defaultV4 ∈ mode.bypassed R config) := by
    have hF := happly defaultV4
    by_cases hrestores : restores force config = true
    · rw [if_pos ⟨rfl, hrestores⟩] at hF
      exact ⟨hF, .inl hrestores⟩
    · rw [if_neg (fun hc => hrestores hc.2), if_neg (fun hc => hrestores hc.2.1),
        if_neg (defaultV4_notMem_removed _ _), h.default] at hF
      by_cases hmem : defaultV4 ∈ mode.bypassed R config
      · rw [if_pos hmem] at hF
        exact ⟨hF, .inr hmem⟩
      · rw [if_neg hmem] at hF
        exact absurd hF hdefault
  constructor
  · intro noted hnoted
    obtain hcaptured | ⟨hnone, -⟩ := h.captured
    · rw [Option.some.inj (hnoted.symm.trans hcaptured)]
      exact hrestored.1
    · rw [hnone] at hnoted
      cases hnoted
  · exact hrestored.2
  · intro d hd
    have h4 : d ≠ defaultV4 := fun heq => defaultV4_notMem_removed _ _ (heq ▸ hd)
    have h6 : d ≠ defaultV6 := fun heq => defaultV6_notMem_removed _ _ (heq ▸ hd)
    rw [happly d, if_neg (fun hc => h4 hc.1), if_neg (fun hc => h6 hc.1), if_pos hd]
  · intro d hd
    by_contra hnot
    rw [not_or, not_or, not_not] at hnot
    obtain ⟨h4, hremoved, hnone⟩ := hnot
    have h6 := ne_defaultV6_of_mem_bypassed hd
    have hF := happly d
    rw [if_neg (fun hc => h4 hc.1), if_neg (fun hc => h6 hc.1), if_neg hremoved, hnone] at hF
    exact h.added d hd hF.symm
  · intro hrestores hipv6 noted hnoted
    have hkeep : config'.originalV6 = some noted := by
      obtain heq | ⟨hnone, -⟩ := h.notedV6
      · rw [heq, hnoted]
      · rw [hnone] at hnoted
        cases hnoted
    rw [happly defaultV6, if_neg (fun hc => absurd hc.1 (by decide)), hkeep, if_pos ⟨rfl, hrestores, hipv6, rfl⟩]
    rfl

theorem SetUp.restored (h : SetUp config T (mode.bypassed R config) config' t original)
    (hT : Restorable R mode config force T) : teardownBy force config' t = T := by
  have horiginal : T defaultV4 = some (hopV4 original) := by
    obtain hnoted | ⟨-, hdetected⟩ := h.captured
    · exact hT.original original hnoted
    · exact hdetected
  funext x
  rw [h.teardownBy_apply force x]
  split
  case isTrue hx => rw [hx.1, horiginal]
  case isFalse hx =>
    split
    case isTrue hx6 =>
      obtain ⟨rfl, hrestores, hipv6, hsome⟩ := hx6
      obtain heq | ⟨-, originalV6, hkeep, hdetected⟩ := h.notedV6
      · obtain ⟨originalV6, hnoted⟩ := Option.isSome_iff_exists.mp hsome
        rw [hnoted, hT.originalV6 hrestores hipv6 originalV6 (heq ▸ hnoted)]
        rfl
      · rw [hkeep, hdetected]
        rfl
    case isFalse =>
      split
      case isTrue hremoved => exact (hT.removed x hremoved).symm
      case isFalse hremoved =>
        by_cases h4 : x = defaultV4
        · have hmem := hT.default.resolve_left fun hrestores => hx ⟨h4, hrestores⟩
          rw [h4, h.default, if_pos hmem, horiginal]
        · obtain heq | ⟨hnone, hmem⟩ := h.extended x h4
          · exact heq
          · obtain hown | hbypassed := List.mem_append.mp hmem
            · exact absurd (removed_subset config force hown) hremoved
            · obtain heq | hin | hsome := hT.bypassed x hbypassed
              · exact absurd heq h4
              · exact absurd hin hremoved
              · exact absurd hnone hsome

end

/-- A teardown gives back the initial table just if the noted default gateways are the table's and are put back, and
no route of its own is among those deleted; excluded networks are, or had a route before. -/
theorem teardown_undoes_setup_iff {R : RouteText} {mode : MacTunnelMode} {config config' : RoutingConfig}
    {T t : MacTable} (hdefault : T defaultV4 ≠ none) (hsetup : setup R mode config T = .ok (config', t)) (force : Bool) :
    teardownBy force config' t = T ↔ Restorable R mode config force T := by
  obtain ⟨original, h⟩ := setUp_of_setup hsetup
  exact ⟨h.restorable hdefault, h.restored⟩

end

namespace Sample

def config : RoutingConfig :=
  ⟨"utun4", ipv4 10 99 0 1, ipv4 203 0 113 5, none, none, false, true, none, false, none, none⟩

def table : MacTable := fun d => if d = defaultV4 then some ⟨some (.v4 (ipv4 192 168 1 1)), "en0"⟩ else none

def text : RouteText := ⟨fun route => if route = "192.0.2.0/24" then some (ipv4 192 0 2 0, 24) else none⟩

theorem teardown_undoes_full_setup :
    ∃ config' t, setup text .full config table = .ok (config', t) ∧ teardownBy false config' t = table := by
  have hsetup : ∃ out, setup text .full config table = .ok out := ⟨_, rfl⟩
  obtain ⟨⟨config', t⟩, hsetup⟩ := hsetup
  refine ⟨config', t, hsetup, (teardown_undoes_setup_iff (by decide) hsetup false).mpr ?_⟩
  exact ⟨fun _ h => (nomatch h), .inl rfl, by decide, fun _ h => (nomatch h), fun _ h => (nomatch h)⟩

theorem bypass_route_left_behind :
    ∃ config' t, setup text (.bypass ["192.0.2.0/24"] false false) config table = .ok (config', t) ∧
      table (netV4 192 0 2 0 24) = none ∧ teardownBy true config' t (netV4 192 0 2 0 24) ≠ none := by
  exact ⟨_, _, rfl, by decide, by decide⟩

end Sample

end MacRouting

end HpnVpn
