import HpnVpn.MacRouting

/-! The full-tunnel setup of the macOS client when route commands fail: some failures are ignored, the first other one
ends the setup, which undoes nothing. -/
namespace HpnVpn.MacRouting
open Wire

/-- A `route add` with the next hop, or a `route delete`. -/
structure RouteCommand where
  destination : MacDestination
  hop : Option NextHop
  required : Bool

/-- Whether the lookups of the default gateways fail, and the errors of the commands that do. -/
structure RouteFaults where
  get : Option MacosClientError
  getV6 : Bool
  command : MacDestination → Option MacosClientError

def RouteCommand.run (F : RouteFaults) (t : MacTable) (c : RouteCommand) : MacTable :=
  match F.command c.destination, c.hop with
  | some _, _ => t
  | none, some hop => t.add c.destination hop
  | none, none => t.delete c.destination

def runCommands (F : RouteFaults) : List RouteCommand → MacTable → Except MacosClientError Unit × MacTable
  | [], t => (.ok (), t)
  | c :: commands, t =>
    match F.command c.destination, c.required with
    | some e, true => (.error e, t)
    | _, _ => runCommands F commands (c.run F t)

def commandsV4 (config : RoutingConfig) (original : NextHop) : List RouteCommand :=
  ⟨serverRoute config, some original, true⟩ :: ⟨defaultV4, none, false⟩ ::
    ((if config.killSwitch && config.allowLan then lanSubnets.map (⟨·, some original, false⟩) else []) ++
      halvesV4.map (⟨·, some ⟨some (.v4 config.gateway), config.interface⟩, true⟩))

def commandsV6 (config : RoutingConfig) (originalV6 : Option (Block 16 × String)) : List RouteCommand :=
  match config.ipv6Enabled, config.gatewayV6 with
  | true, some gatewayV6 =>
    halvesV6.map (⟨·, some ⟨some (.v6 gatewayV6), config.interface⟩, true⟩) ++
      match originalV6, config.killSwitch && config.allowLan with
      | some original, true => lanSubnetsV6.map (⟨·, some (hopV6 original), false⟩)
      | _, _ => []
  | _, _ => []

def captureUnder (F : RouteFaults) (config : RoutingConfig) (t : MacTable) :
    Except MacosClientError (RoutingConfig × Block 4 × String) :=
  match config.original, F.get with
  | none, some e => .error e
  | _, _ => config.capture t

/-- The commands of a setup.  The IPv6 gateway is looked up after the IPv4 commands, which do not concern it. -/
def fullTunnelCommands (F : RouteFaults) (config : RoutingConfig) (t : MacTable) :
    Except MacosClientError (RoutingConfig × List RouteCommand) := do
  let (config, gateway, interface) ← captureUnder F config t
  let (config', originalV6) :=
    if config.ipv6Enabled && config.gatewayV6.isSome && !(config.originalV6.isNone && F.getV6) then config.captureV6 t
    else (config, config.originalV6)
  return (config', commandsV4 config ⟨some (.v4 gateway), interface⟩ ++ commandsV6 config originalV6)

def setupFullTunnelUnder (F : RouteFaults) (config : RoutingConfig) (t : MacTable) :
    Except MacosClientError RoutingConfig × MacTable :=
  match fullTunnelCommands F config t with
  | .error e => (.error e, t)
  | .ok (config, commands) => (runCommands F commands t).map (·.map fun _ => config) id

/-- The commands ahead of the first whose failure ends the setup. -/
def carriedOut (F : RouteFaults) (commands : List RouteCommand) : List RouteCommand :=
  commands.takeWhile fun c => !(c.required && (F.command c.destination).isSome)

/-- The command fails, or its route to add is there already, or its route to delete is not. -/
def RouteCommand.Idle (F : RouteFaults) (t : MacTable) (c : RouteCommand) : Prop :=
  F.command c.destination = none → (t c.destination).isSome = c.hop.isSome

variable {F : RouteFaults} {t : MacTable} {c : RouteCommand} {commands : List RouteCommand}

theorem RouteCommand.run_eq_self : c.run F t = t ↔ c.Idle F t := by
  unfold run Idle
  cases F.command c.destination with
  | some e => exact iff_of_true rfl nofun
  | none =>
    cases c.hop with
    | some hop =>
      refine Function.update_eq_self_iff.trans ?_
      cases t c.destination with
      | none => simp
      | some old => simp
    | none =>
      refine Function.update_eq_self_iff.trans ?_
      cases t c.destination with
      | none => simp
      | some old => simp

theorem RouteCommand.run_of_ne {x : MacDestination} (hx : x ≠ c.destination) : c.run F t x = t x := by
  unfold run
  cases F.command c.destination with
  | some e => rfl
  | none => cases c.hop <;> exact Function.update_of_ne hx ..

theorem runCommands_spec (F : RouteFaults) (commands : List RouteCommand) (t : MacTable) :
    (runCommands F commands t).2 = (carriedOut F commands).foldl (RouteCommand.run F) t ∧
      ((runCommands F commands t).1.isOk = false ↔ carriedOut F commands ≠ commands) := by
  induction commands generalizing t with
  | nil => exact ⟨rfl, iff_of_false nofun (not_not_intro rfl)⟩
  | cons c commands ih =>
    rw [runCommands, carriedOut, List.takeWhile_cons]
    split
    · next e hfault hrequired => simp [hfault, hrequired, Except.isOk, Except.toBool]
    · next hgoes =>
      have hstays : (!(c.required && (F.command c.destination).isSome)) = true := by
        cases hfault : F.command c.destination with
        | none => simp
        | some e => simpa using fun hrequired => hgoes e hfault hrequired
      rw [if_pos hstays, ne_eq, List.cons.injEq, and_iff_right rfl]
      exact ih _

theorem foldl_run_of_notMem {x : MacDestination} (hx : x ∉ commands.map RouteCommand.destination) :
    commands.foldl (RouteCommand.run F) t x = t x := by
  induction commands generalizing t with
  | nil => rfl
  | cons c commands ih =>
    rw [List.map_cons, List.mem_cons, not_or] at hx
    exact (ih hx.2).trans (RouteCommand.run_of_ne hx.1)

theorem foldl_run_eq_iff (h : (commands.map RouteCommand.destination).Nodup) :
    commands.foldl (RouteCommand.run F) t = t ↔ ∀ c ∈ commands, c.Idle F t := by
  induction commands with
  | nil => exact iff_of_true rfl nofun
  | cons c commands ih =>
    obtain ⟨hc, h⟩ := List.nodup_cons.mp h
    rw [List.foldl_cons, List.forall_mem_cons, ← ih h, ← RouteCommand.run_eq_self]
    constructor
    · intro hall
      have hidle : c.run F t = t := by
        funext x
        by_cases hx : x = c.destination
        · rw [← foldl_run_of_notMem (F := F) (t := c.run F t) (hx ▸ hc), hall]
        · exact RouteCommand.run_of_ne hx
      exact ⟨hidle, by rwa [hidle] at hall⟩
    · rintro ⟨hidle, hall⟩
      rw [hidle, hall]

theorem nodup_commands (config : RoutingConfig) (original : NextHop) (originalV6 : Option (Block 16 × String)) :
    ((commandsV4 config original ++ commandsV6 config originalV6).map RouteCommand.destination).Nodup := by
  have hserver : ∀ ds : List MacDestination, (∀ d ∈ ds, d.2 ≠ 32) → ds.Nodup → (serverRoute config :: ds).Nodup :=
    fun ds h hds => List.nodup_cons.mpr ⟨fun hmem => h _ hmem rfl, hds⟩
  have hadds : ∀ ds hop required, (List.map (RouteCommand.mk · hop required) ds).map RouteCommand.destination = ds := by
    simp [Function.comp_def]
  unfold commandsV4 commandsV6
  cases config.killSwitch && config.allowLan <;> cases config.ipv6Enabled <;> cases config.gatewayV6 <;>
    cases originalV6 <;> simp only [List.map_append, List.map_cons, hadds, if_true, if_false, Bool.false_eq_true] <;>
    exact hserver _ (by decide) (by decide)

/-! ### Without faults -/

def RouteFaults.none : RouteFaults := ⟨.none, false, fun _ => .none⟩

theorem runCommands_none (commands : List RouteCommand) (t : MacTable) :
    runCommands .none commands t = (.ok (), commands.foldl (RouteCommand.run .none) t) := by
  induction commands generalizing t with
  | nil => rfl
  | cons c commands ih => exact ih (c.run .none t)

theorem foldl_adds (ds : List MacDestination) (hop : NextHop) (required : Bool) (t : MacTable) :
    (ds.map (⟨·, some hop, required⟩)).foldl (RouteCommand.run .none) t = t.addAll ds hop :=
  List.foldl_map

theorem foldl_commandsV4 (config : RoutingConfig) (original : NextHop) (t : MacTable) :
    (commandsV4 config original).foldl (RouteCommand.run .none) t = fullTunnelV4 config original t := by
  rw [commandsV4, List.foldl_cons, List.foldl_cons, List.foldl_append, foldl_adds, fullTunnelV4]
  cases config.killSwitch && config.allowLan with
  | false => rfl
  | true => exact congrArg (MacTable.addAll · halvesV4 _) (foldl_adds ..)

theorem fullTunnelV4_defaultV6 (config : RoutingConfig) (original : NextHop) (t : MacTable) :
    fullTunnelV4 config original t defaultV6 = t defaultV6 := by
  rw [← foldl_commandsV4]
  apply foldl_run_of_notMem
  unfold commandsV4
  cases config.killSwitch && config.allowLan <;> simp [serverRoute, defaultV6, defaultV4, halvesV4, lanSubnets, netV4]

theorem foldl_commandsV6 (config : RoutingConfig) (t₀ t : MacTable) (ht : t defaultV6 = t₀ defaultV6) :
    let captured := if config.ipv6Enabled && config.gatewayV6.isSome && !(config.originalV6.isNone && false)
      then config.captureV6 t₀ else (config, config.originalV6)
    (captured.1, (commandsV6 config captured.2).foldl (RouteCommand.run .none) t) = fullTunnelV6 config t := by
  have hcapture : config.captureV6 t = config.captureV6 t₀ := by
    rw [RoutingConfig.captureV6, RoutingConfig.captureV6, getDefaultGatewayV6, getDefaultGatewayV6, ht]
  have hkeeps : (config.captureV6 t₀).1.interface = config.interface ∧
      (config.captureV6 t₀).1.killSwitch = config.killSwitch ∧ (config.captureV6 t₀).1.allowLan = config.allowLan := by
    unfold RoutingConfig.captureV6
    split
    · exact ⟨rfl, rfl, rfl⟩
    · split <;> exact ⟨rfl, rfl, rfl⟩
  unfold fullTunnelV6 commandsV6
  cases config.ipv6Enabled with
  | false => rfl
  | true =>
    cases config.gatewayV6 with
    | none => rfl
    | some gatewayV6 =>
      simp only [Option.isSome_some, Bool.and_false, Bool.not_false, Bool.and_self, if_true, hcapture]
      generalize config.captureV6 t₀ = captured at hkeeps ⊢
      obtain ⟨config', originalV6⟩ := captured
      obtain ⟨hinterface, hkill, hlan⟩ := hkeeps
      dsimp only at hinterface hkill hlan ⊢
      rw [List.foldl_append, foldl_adds, hinterface, hkill, hlan]
      cases originalV6 with
      | none => rfl
      | some original =>
        cases config.killSwitch && config.allowLan with
        | false => rfl
        | true => exact congrArg (Prod.mk config') (foldl_adds ..)

/-- Without faults this is the setup that the other results are about. -/
theorem setupFullTunnelUnder_none (config : RoutingConfig) (t : MacTable) :
    setupFullTunnelUnder .none config t =
      match setupFullTunnel config t with
      | .error e => (.error e, t)
      | .ok (config, t') => (.ok config, t') := by
  have hcapture : captureUnder .none config t = config.capture t := by
    unfold captureUnder
    cases config.original <;> rfl
  unfold setupFullTunnelUnder fullTunnelCommands setupFullTunnel
  rw [hcapture]
  cases config.capture t with
  | error e => rfl
  | ok captured =>
    obtain ⟨config, gateway, interface⟩ := captured
    have hv6 := foldl_commandsV6 config t _ (fullTunnelV4_defaultV6 config ⟨some (.v4 gateway), interface⟩ t)
    show Prod.map _ id (runCommands .none _ t) = (Except.ok (fullTunnelV6 config _).1, (fullTunnelV6 config _).2)
    rw [runCommands_none, List.foldl_append, foldl_commandsV4, ← hv6]
    rfl

/-- A failed setup leaves the table just if no command ahead of the one that failed had an effect. -/
theorem failed_setup_changes_nothing_iff (F : RouteFaults) (config : RoutingConfig) (t : MacTable) :
    ((setupFullTunnelUnder F config t).1.isOk = false → (setupFullTunnelUnder F config t).2 = t) ↔
      ∀ config' commands, fullTunnelCommands F config t = .ok (config', commands) →
        carriedOut F commands ≠ commands → ∀ c ∈ carriedOut F commands, c.Idle F t := by
  unfold setupFullTunnelUnder
  cases hcommands : fullTunnelCommands F config t with
  | error e => exact iff_of_true (fun _ => rfl) nofun
  | ok planned =>
    obtain ⟨config', commands⟩ := planned
    have hnodup : ((carriedOut F commands).map RouteCommand.destination).Nodup := by
      unfold fullTunnelCommands at hcommands
      obtain ⟨_, -, hplanned⟩ := bind_ok_iff.mp hcommands
      cases hplanned
      exact (nodup_commands ..).sublist ((List.takeWhile_sublist _).map _)
    obtain ⟨htable, herror⟩ := runCommands_spec F commands t
    have hmap : ((runCommands F commands t).1.map fun _ => config').isOk = (runCommands F commands t).1.isOk := by
      cases (runCommands F commands t).1 <;> rfl
    change (((runCommands F commands t).1.map fun _ => config').isOk = false → (runCommands F commands t).2 = t) ↔ _
    rw [hmap, herror, htable, foldl_run_eq_iff hnodup]
    constructor
    · rintro h _ _ ⟨⟩ hcut
      exact h hcut
    · exact fun h hcut => h _ _ rfl hcut

namespace Sample

def faults : RouteFaults :=
  ⟨none, false, fun d => if d = netV4 0 0 0 0 1 then some (.routing "route add failed: ") else none⟩

theorem failed_setup_loses_default_route :
    (setupFullTunnelUnder faults config table).1 = .error (.routing "route add failed: ") ∧
      table defaultV4 ≠ none ∧ (setupFullTunnelUnder faults config table).2 defaultV4 = none := by
  decide

end Sample

end HpnVpn.MacRouting
