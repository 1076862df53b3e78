import HpnVpn.CrashRecovery
import HpnVpn.Runs

/-! The recovery journal over runs.  The route manager saves its copy in memory, the leak protections change the copy
on disk, so a later route overwrites what they noted. -/
namespace HpnVpn
open Wire CrashPoints Runs RouteManager

inductive NetworkCall
  | addRoute (destination : Block 4) (mask : UInt32) (gateway : Block 4) (useVpnInterface : Bool)
  | addRouteV6 (destination : Block 16) (prefixLen : UInt8) (gateway : Block 16)
  | addRouteV6Onlink (destination : Block 16) (prefixLen : UInt8)
  | enableIpv6LeakProtection
  | enableDnsLeakProtection (answers : DnsAnswers)
deriving DecidableEq

namespace NetworkCall

variable (S : WinSystem)

def action : NetworkCall → Action Unit
  | .addRoute destination mask gateway useVpnInterface =>
    RouteManager.addRouteWithInterface S destination mask gateway useVpnInterface
  | .addRouteV6 destination prefixLen gateway => RouteManager.addRouteV6 S destination prefixLen gateway
  | .addRouteV6Onlink destination prefixLen => RouteManager.addRouteV6Onlink S destination prefixLen
  | .enableIpv6LeakProtection => RouteManager.enableIpv6LeakProtection S
  | .enableDnsLeakProtection answers => DnsLeakProtection.enable answers

def route (self : RouteManager) : NetworkCall → Option RouteEntry
  | .addRoute destination mask gateway useVpnInterface =>
    let ifIndex := if useVpnInterface then S.interfaceIndex else self.originalInterfaceIdx.filter (0 < ·)
    (netmaskToPrefixLen mask).map fun len =>
      .newV4 destination len gateway (ifIndex.getD (S.gatewayIndex gateway))
  | .addRouteV6 destination prefixLen gateway =>
    some { RouteEntry.newV6 destination prefixLen gateway S.adapterIndex with metric := S.ipv6Metric }
  | .addRouteV6Onlink destination prefixLen =>
    some { RouteEntry.newV6 destination prefixLen (.replicate 16 0) S.adapterIndex with metric := S.ipv6Metric }
  | .enableIpv6LeakProtection | .enableDnsLeakProtection _ => none

def Adds (w : WinMachine) (call : NetworkCall) : Prop :=
  ∃ entry ∈ call.route S w.manager, S.accepts entry = true ∧ w.table.admits entry = true

end NetworkCall

/-- A journal entry for a route; the interface it names may be unknown. -/
def RouteEntry.Records (e i : RouteEntry) : Prop :=
  e.destination = i.destination ∧ e.prefixLength = i.prefixLength ∧ e.gateway = i.gateway

namespace WinMachine

def step (w : WinMachine) (call : WinSystem × NetworkCall) : WinMachine := ((call.2.action call.1).run w).state

def captured (m : RouteManager) (gateway : Block 4) (noted : RouteManager → RecoveryState → Option UInt32)
    (T : RoutingTable) : WinMachine :=
  ((captureRecovery noted).run (.start { m with originalGateway := some gateway } T)).state

end WinMachine

/-- The journal has every change the client has made. -/
structure RecoveryState.Complete (w : WinMachine) (state : RecoveryState) : Prop where
  routes : ∀ i ∈ w.installed, ∃ e ∈ state.addedRoutes, e.Records i
  ipv6 : w.manager.ipv6Blocked = true → state.ipv6Blocked = true
  dns : w.dns.active = true → state.llmnrDisabled = true ∧ state.netbiosDisabled = true ∧
    state.nrptRuleGuid = w.dns.nrptRuleGuid ∧ state.smartMultiHomedDisabled = w.dns.smartMultiHomedWasSet.isSome

/-- The journal on disk names everything that is to be undone. -/
def WinMachine.JournalComplete (w : WinMachine) : Prop := ∃ state, w.journal = some state ∧ state.Complete w

/-- No route is added once a protection is enabled. -/
def WinMachine.RoutesFirst (w : WinMachine) (call : WinSystem × NetworkCall) : Prop :=
  call.2.Adds call.1 w → w.manager.ipv6Blocked = false ∧ w.dns.active = false

/-- The manager's copy of the journal has the routes of the copy on disk and none of its flags. -/
def WinMachine.Mirrored (w : WinMachine) : Prop :=
  ∃ state, w.journal = some state ∧ w.manager.recoveryState = some state.routePart

namespace WinMachine

theorem captured_mirrored (m : RouteManager) (gateway : Block 4)
    (noted : RouteManager → RecoveryState → Option UInt32) (T : RoutingTable) :
    (captured m gateway noted T).Mirrored ∧ (captured m gateway noted T).JournalComplete := by
  have hnone : ∀ i, i ∉ (captured m gateway noted T).installed := fun i hi => List.not_mem_nil hi
  have hflags : (RecoveryState.capturePreVpnState T).routePart = .capturePreVpnState T := by
    unfold RecoveryState.capturePreVpnState
    split <;> rfl
  let adopted (c : RecoveryState) : RecoveryState :=
    { c with
      originalGateway := some gateway
      originalInterfaceIdx := noted { m with originalGateway := some gateway, recoveryState := none, ipv6Blocked := false }
        (.capturePreVpnState T) }
  constructor
  · exact ⟨adopted (.capturePreVpnState T), rfl, congrArg (fun c => some (adopted c)) hflags.symm⟩
  · exact ⟨_, rfl, fun i hi => (hnone i hi).elim, fun h => (nomatch h), fun h => (nomatch h)⟩

theorem install_record_eq {w : WinMachine} {memory : RecoveryState} (hmemory : w.manager.recoveryState = some memory)
    (entry e : RouteEntry) :
    (w.install entry).record (·.recordAddedRoute e) =
      { w.install entry with
        manager := { w.manager with recoveryState := some (memory.recordAddedRoute e) }
        journal := some (memory.recordAddedRoute e) } := by
  unfold record install
  rw [hmemory]

end WinMachine

namespace NetworkCall
variable (S : WinSystem) {w : WinMachine}

theorem run_runRouteAdd_record (entry e : RouteEntry) (failed : String) :
    ((runRouteAdd S entry failed >>= fun _ => Prog.atomic (·.record (·.recordAddedRoute e)) : Action Unit).run w).state =
      if S.accepts entry = true ∧ w.table.admits entry = true then (w.install entry).record (·.recordAddedRoute e)
      else w := by
  unfold runRouteAdd
  by_cases h : S.accepts entry = true ∧ w.table.admits entry = true
  · simp [bind, Prog.bind, Prog.read, Prog.atomic, h]
  · simp [bind, Prog.bind, Prog.read, Prog.fail, h]

theorem step_route_cases {call : NetworkCall} (entry e : RouteEntry)
    (hroute : call.route S w.manager = some entry) (hrecords : e.Records entry)
    (hstep : w.step (S, call) = if S.accepts entry = true ∧ w.table.admits entry = true
      then (w.install entry).record (·.recordAddedRoute e) else w) :
    call.Adds S w ∧ (∃ entry e, e.Records entry ∧ w.step (S, call) = (w.install entry).record (·.recordAddedRoute e)) ∨
      ¬call.Adds S w ∧ w.step (S, call) = w := by
  by_cases h : S.accepts entry = true ∧ w.table.admits entry = true
  · rw [if_pos h] at hstep
    exact .inl ⟨⟨entry, hroute, h⟩, entry, e, hrecords, hstep⟩
  · rw [if_neg h] at hstep
    refine .inr ⟨?_, hstep⟩
    rintro ⟨entry', hroute', h'⟩
    rw [hroute] at hroute'
    cases hroute'
    exact h h'

theorem step_addRoute_cases (destination : Block 4) (mask : UInt32) (gateway : Block 4) (useVpn : Bool) :
    let call := NetworkCall.addRoute destination mask gateway useVpn
    call.Adds S w ∧ (∃ entry e, e.Records entry ∧ w.step (S, call) = (w.install entry).record (·.recordAddedRoute e)) ∨
      ¬call.Adds S w ∧ w.step (S, call) = w := by
  intro call
  cases hmask : netmaskToPrefixLen mask with
  | none =>
    refine .inr ⟨?_, ?_⟩
    · rintro ⟨entry, hroute, -⟩
      simp [call, route, hmask] at hroute
    · show ((addRouteWithInterface S destination mask gateway useVpn).run w).state = w
      unfold addRouteWithInterface runRouteAddV4
      rw [hmask]
      rfl
  | some len =>
    let ifIndex := if useVpn then S.interfaceIndex else w.manager.originalInterfaceIdx.filter (0 < ·)
    refine step_route_cases S (.newV4 destination len gateway (ifIndex.getD (S.gatewayIndex gateway)))
      (.newV4 destination len gateway (ifIndex.getD 0)) ?_ ?_ ?_
    · simp only [call, route, hmask, Option.map_some]
      rfl
    · exact ⟨rfl, rfl, rfl⟩
    · show ((addRouteWithInterface S destination mask gateway useVpn).run w).state = _
      unfold addRouteWithInterface runRouteAddV4 persistRecoveredAddedRouteV4
      rw [hmask]
      exact run_runRouteAdd_record S _ _ _

theorem step_cases (call : NetworkCall) :
    call.Adds S w ∧ (∃ entry e, e.Records entry ∧ w.step (S, call) = (w.install entry).record (·.recordAddedRoute e)) ∨
      ¬call.Adds S w ∧ (w.step (S, call) = w ∨
        w.step (S, call) =
          { w.amendJournal (fun state => { state with ipv6Blocked := true }) with
            manager := { w.manager with ipv6Blocked := true } } ∨
        ∃ answers : DnsAnswers, w.step (S, call) =
          { w.amendJournal (fun state =>
              { state with
                llmnrDisabled := true
                netbiosDisabled := true
                nrptRuleGuid := answers.installNrptRule
                smartMultiHomedDisabled := answers.disableSmartMultiHomed.isSome }) with
            dns := ⟨true, answers.installNrptRule, answers.disableSmartMultiHomed⟩ }) := by
  cases call with
  | addRoute destination mask gateway useVpn =>
    exact (step_addRoute_cases S destination mask gateway useVpn).imp_right (And.imp_right .inl)
  | addRouteV6 destination len gateway =>
    refine (step_route_cases S { RouteEntry.newV6 destination len gateway S.adapterIndex with metric := S.ipv6Metric }
      (.newV6 destination len gateway 0) rfl ⟨rfl, rfl, rfl⟩ ?_).imp_right (And.imp_right .inl)
    exact run_runRouteAdd_record S _ _ _
  | addRouteV6Onlink destination len =>
    refine (step_route_cases S
      { RouteEntry.newV6 destination len (.replicate 16 0) S.adapterIndex with metric := S.ipv6Metric }
      (.newV6 destination len (.replicate 16 0) 0) rfl ⟨rfl, rfl, rfl⟩ ?_).imp_right (And.imp_right .inl)
    exact run_runRouteAdd_record S _ _ _
  | enableIpv6LeakProtection =>
    refine .inr ⟨fun ⟨_, h, _⟩ => (nomatch h), ?_⟩
    show ((RouteManager.enableIpv6LeakProtection S).run w).state = w ∨
      ((RouteManager.enableIpv6LeakProtection S).run w).state = _ ∨ _
    unfold RouteManager.enableIpv6LeakProtection
    rw [Prog.run_read_bind]
    split
    · exact .inl rfl
    · split
      · exact .inr (.inl rfl)
      · exact .inl rfl
  | enableDnsLeakProtection answers =>
    refine .inr ⟨fun ⟨_, h, _⟩ => (nomatch h), ?_⟩
    show ((DnsLeakProtection.enable answers).run w).state = w ∨
      _ ∨ ∃ answers', ((DnsLeakProtection.enable answers).run w).state = _
    unfold DnsLeakProtection.enable
    rw [Prog.run_read_bind]
    split
    · exact .inl rfl
    · split
      · exact .inr (.inr ⟨answers, rfl⟩)
      · exact .inl rfl

end NetworkCall

namespace WinMachine
variable {w : WinMachine}

theorem Mirrored.step (hw : w.Mirrored) (call : WinSystem × NetworkCall) : (w.step call).Mirrored := by
  obtain ⟨state, hstate, hmemory⟩ := hw
  obtain ⟨-, entry, e, -, hstep⟩ | ⟨-, hstep | hstep | ⟨answers, hstep⟩⟩ := NetworkCall.step_cases call.1 call.2
  all_goals rw [hstep]
  · rw [install_record_eq hmemory]
    exact ⟨_, rfl, rfl⟩
  · exact ⟨state, hstate, hmemory⟩
  all_goals exact ⟨_, congrArg (Option.map _) hstate, hmemory⟩

theorem journalComplete_step (hw : w.Mirrored) (hcomplete : w.JournalComplete) (call : WinSystem × NetworkCall) :
    (w.step call).JournalComplete ↔ w.RoutesFirst call := by
  obtain ⟨state, hstate, hmemory⟩ := hw
  obtain ⟨state', hstate', hroutes, hipv6, hdns⟩ := hcomplete
  obtain rfl : state = state' := Option.some.inj (hstate.symm.trans hstate')
  obtain ⟨hadds, entry, e, hrecords, hstep⟩ | ⟨hadds, hstep⟩ := NetworkCall.step_cases call.1 call.2
  · rw [RoutesFirst, imp_iff_right hadds, hstep, install_record_eq hmemory]
    constructor
    · -- the copy that was saved has no flag set
      rintro ⟨saved, hsaved, -, hipv6', hdns'⟩
      cases hsaved
      exact ⟨Bool.eq_false_of_not_eq_true fun h => (nomatch hipv6' h),
        Bool.eq_false_of_not_eq_true fun h => (nomatch (hdns' h).1)⟩
    · rintro ⟨hblocked, hactive⟩
      refine ⟨_, rfl, ?_, fun h => ?_, fun h => ?_⟩
      · intro i hi
        rcases List.mem_append.mp hi with hi | hi
        · obtain ⟨e', he', hrecords'⟩ := hroutes i hi
          exact ⟨e', List.mem_append_left _ he', hrecords'⟩
        · rw [List.mem_singleton.mp hi]
          exact ⟨e, List.mem_append_right _ (List.mem_singleton_self e), hrecords⟩
      · exact absurd (hblocked.symm.trans h) Bool.false_ne_true
      · exact absurd (hactive.symm.trans h) Bool.false_ne_true
  · refine iff_of_true ?_ fun h => (hadds h).elim
    rcases hstep with hstep | hstep | ⟨answers, hstep⟩
    all_goals rw [hstep]
    · exact ⟨state, hstate, hroutes, hipv6, hdns⟩
    · exact ⟨_, congrArg (Option.map _) hstate, hroutes, fun _ => rfl, hdns⟩
    · exact ⟨_, congrArg (Option.map _) hstate, hroutes, hipv6, fun _ => ⟨rfl, rfl, rfl, rfl⟩⟩

end WinMachine

/-- After each call of a run the journal has every change so far just if no route is added once a protection is
enabled. -/
theorem journal_complete_iff_routes_first (m : RouteManager) (gateway : Block 4)
    (noted : RouteManager → RecoveryState → Option UInt32) (T : RoutingTable) (calls : List (WinSystem × NetworkCall)) :
    (∀ n, (exec WinMachine.step (.captured m gateway noted T) (calls.take n)).JournalComplete) ↔
      Meets WinMachine.RoutesFirst WinMachine.step (.captured m gateway noted T) calls := by
  obtain ⟨hmirrored, hcomplete⟩ := WinMachine.captured_mirrored m gateway noted T
  have hallowed : Meets (fun _ _ => True) WinMachine.step (.captured m gateway noted T) calls :=
    meets_of_forall (fun _ _ _ => trivial) _
  have hinv : ∀ (w : WinMachine) (call : WinSystem × NetworkCall), w.Mirrored → (w.step call).Mirrored :=
    fun w call hw => hw.step call
  have hgood : ∀ (w : WinMachine) (call : WinSystem × NetworkCall), w.Mirrored → w.JournalComplete → True →
      ((w.step call).JournalComplete ↔ w.RoutesFirst call) :=
    fun w call hw hcomplete _ => WinMachine.journalComplete_step hw hcomplete call
  exact exec_always_iff_meets hinv hgood calls _ hallowed hmirrored hcomplete

namespace CrashSample

theorem ipv6_block_forgotten :
    let w := exec WinMachine.step
      (.captured (manager false) (ipv4 192 168 1 1) (fun self _ => self.originalInterfaceIdx) [defaultRoute])
      [(system, .enableIpv6LeakProtection), (system, .addRoute (.replicate 4 0) 0x80000000 (ipv4 10 99 0 1) true)]
    w.manager.ipv6Blocked = true ∧ w.journal.map (·.ipv6Blocked) = some false := by
  decide +kernel

end CrashSample

end HpnVpn
