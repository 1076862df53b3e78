import HpnVpn.WindowsRouting

/-! Recovery of the routing table on Windows after the process has stopped inside a tunnel setup. -/
namespace HpnVpn
open Wire CrashPoints

namespace RouteEntry

variable {a b : RouteEntry}

theorem sameRoute_iff : a.sameRoute b = true ↔
    a.destination = b.destination ∧ a.prefixLength = b.prefixLength ∧ a.gateway = b.gateway ∧
      a.interfaceIndex = b.interfaceIndex := by
  simp [sameRoute]

theorem sameRoute_self (r : RouteEntry) : r.sameRoute r = true := sameRoute_iff.mpr ⟨rfl, rfl, rfl, rfl⟩

theorem sameRoute_of_common {e : RouteEntry} (ha : e.sameRoute a) (hb : e.sameRoute b) : a.sameRoute b = true := by
  rw [sameRoute_iff] at ha hb ⊢
  obtain ⟨h1, h2, h3, h4⟩ := ha
  exact h1 ▸ h2 ▸ h3 ▸ h4 ▸ hb

def isDefaultV4 (r : RouteEntry) : Bool := r.isV4 && r.isDefault

theorem isDefaultV4_of_sameRoute (h : a.sameRoute b) : a.isDefaultV4 = b.isDefaultV4 := by
  rw [sameRoute_iff] at h
  unfold isDefaultV4 isV4 isDefault
  rw [h.1, h.2.1]

theorem isDefaultV4_newV4 (gateway : Block 4) (index : UInt32) :
    (newV4 (.replicate 4 0) 0 gateway index).isDefaultV4 = true := by
  simp [isDefaultV4, isV4, isDefault, newV4]

end RouteEntry

namespace RoutingTable
open RouteEntry

variable {table : RoutingTable}

theorem admits_iff {entry : RouteEntry} :
    table.admits entry = true ↔ entry.interfaceIndex ≠ 0 ∧ ∀ r ∈ table, ¬entry.sameRoute r := by
  simp [admits]

variable {r : RouteEntry}

theorem mem_undo {entry : RouteEntry} :
    r ∈ table.undo entry ↔ r ∈ table ∧ ¬(entry.interfaceIndex ≠ 0 ∧ entry.sameRoute r) := by
  unfold undo WindowsApi.deleteRoute
  split
  case isTrue h => simp [Except.toOption, h.1]
  case isFalse h =>
    refine ⟨?_, And.left⟩
    intro hr
    refine ⟨hr, ?_⟩
    rintro ⟨hindex, hsame⟩
    exact h ⟨hindex, List.any_eq_true.mpr ⟨r, hr, hsame⟩⟩

theorem mem_foldl_undo {entries : List RouteEntry} :
    r ∈ entries.foldl undo table ↔ r ∈ table ∧ ∀ e ∈ entries, ¬(e.interfaceIndex ≠ 0 ∧ e.sameRoute r) := by
  induction entries generalizing table with
  | nil => simp
  | cons e entries ih => rw [List.foldl_cons, ih, mem_undo, List.forall_mem_cons, and_assoc]

theorem restore_eq (table : RoutingTable) (entry : RouteEntry) :
    table.restore entry = if table.admits entry then entry :: table else table := by
  unfold restore WindowsApi.addRoute
  split <;> rfl

theorem mem_foldl_restore {g : RouteEntry} {entries : List RouteEntry} (hall : ∀ e ∈ entries, e = g) :
    r ∈ entries.foldl restore table ↔ r ∈ table ∨ entries ≠ [] ∧ table.admits g ∧ r = g := by
  induction entries generalizing table with
  | nil => simp
  | cons e entries ih =>
    rw [List.forall_mem_cons] at hall
    obtain ⟨rfl, hall⟩ := hall
    rw [List.foldl_cons, ih hall, restore_eq]
    by_cases h : table.admits e
    · have hagain : admits (e :: table) e = false := by
        simp [admits, sameRoute]
      rw [if_pos h, hagain]
      simp [h, or_comm]
    · rw [if_neg h]
      simp [h]

end RoutingTable

namespace RecoveryState

def routePart (state : RecoveryState) : RecoveryState :=
  { state with
    ipv6Blocked := false, llmnrDisabled := false, netbiosDisabled := false, nrptRuleGuid := none
    smartMultiHomedDisabled := false }

end RecoveryState

open RouteEntry RoutingTable

/-- The journal undoes no route but those that were added, and puts back only the default route the manager knows. -/
structure Undoable (m : RouteManager) (installed : List RouteEntry) (state : RecoveryState) : Prop where
  active : state.vpnActive = true
  added : ∀ e ∈ state.addedRoutes, e.interfaceIndex = 0 ∨ ∃ i ∈ installed, e.sameRoute i
  gateway : state.originalGateway = m.originalGateway
  deleted : ∀ e ∈ state.deletedRoutes, ∃ gw, m.originalGateway = some gw ∧
    e = newV4 (.replicate 4 0) 0 gw (m.originalInterfaceIdx.getD 0)

namespace Undoable
variable {m : RouteManager} {installed installed' : List RouteEntry} {state state' : RecoveryState}

theorem congr (h : Undoable m installed state) (heq : state.routePart = state'.routePart) :
    Undoable m installed state' := by
  simp only [RecoveryState.routePart, RecoveryState.mk.injEq] at heq
  obtain ⟨hactive, hgateway, -, hdeleted, hadded, -⟩ := heq
  exact ⟨hactive ▸ h.active, hadded ▸ h.added, hgateway ▸ h.gateway, hdeleted ▸ h.deleted⟩

theorem mono (h : Undoable m installed state) (hsub : installed ⊆ installed') : Undoable m installed' state :=
  { h with
    added := fun e he => (h.added e he).imp_right fun ⟨i, hi, hsame⟩ => ⟨i, hsub hi, hsame⟩ }

theorem recordAddedRoute (h : Undoable m installed state) {e : RouteEntry}
    (he : e.interfaceIndex = 0 ∨ ∃ i ∈ installed, e.sameRoute i) : Undoable m installed (state.recordAddedRoute e) :=
  { h with
    added := by
      intro e' he'
      rcases List.mem_append.mp he' with he' | he'
      · exact h.added e' he'
      · rw [List.mem_singleton.mp he']
        exact he }

theorem recordDeletedRoute (h : Undoable m installed state) {gw : Block 4} (hgw : m.originalGateway = some gw) :
    Undoable m installed (state.recordDeletedRoute (newV4 (.replicate 4 0) 0 gw (m.originalInterfaceIdx.getD 0))) :=
  { h with
    deleted := by
      intro e he
      rcases List.mem_append.mp he with he | he
      · exact h.deleted e he
      · exact ⟨gw, hgw, List.mem_singleton.mp he⟩ }

theorem restored_eq (h : Undoable m installed state) : ∃ g, g.isDefaultV4 = true ∧ ∀ e ∈ state.restored, e = g := by
  unfold RecoveryState.restored
  rw [h.gateway]
  cases hgw : m.originalGateway with
  | none =>
    refine ⟨newV4 (.replicate 4 0) 0 (.replicate 4 0) 0, isDefaultV4_newV4 _ _, ?_⟩
    split
    · simp
    · intro e he
      obtain ⟨gw, hsome, -⟩ := h.deleted e he
      rw [hgw] at hsome
      cases hsome
  | some gw =>
    split
    · refine ⟨_, isDefaultV4_newV4 gw (state.originalInterfaceIdx.getD 0), ?_⟩
      intro e he
      simpa using he
    · refine ⟨_, isDefaultV4_newV4 gw (m.originalInterfaceIdx.getD 0), ?_⟩
      intro e he
      obtain ⟨gw', hsome, rfl⟩ := h.deleted e he
      rw [hgw] at hsome
      cases hsome
      rfl

end Undoable

def WinMachine.Deleted (w : WinMachine) (r : RouteEntry) : Prop := w.defaultsDeleted = true ∧ r.isDefaultV4 = true

/-- The machine at any point of a setup that began with the table `T` and the manager `m`. -/
structure InSetup (T : RoutingTable) (m : RouteManager) (w : WinMachine) : Prop where
  gateway : w.manager.originalGateway = m.originalGateway
  index : w.manager.originalInterfaceIdx = m.originalInterfaceIdx
  kept : ∀ r ∈ T, ¬w.Deleted r → r ∈ w.table
  listed : ∀ r ∈ w.table, r ∈ T ∧ ¬w.Deleted r ∨ r ∈ w.installed
  present : ∀ i ∈ w.installed, ¬w.Deleted i → i ∈ w.table
  fresh : ∀ i ∈ w.installed, ∀ r ∈ T, i.sameRoute r → w.Deleted r
  mirrored : w.journal.map RecoveryState.routePart = w.manager.recoveryState.map RecoveryState.routePart
  undoable : ∀ state, w.journal = some state → Undoable m w.installed state

namespace InSetup
variable {T : RoutingTable} {m : RouteManager} {w : WinMachine}

theorem start (T : RoutingTable) (m : RouteManager) : InSetup T m (.start m T) where
  gateway := rfl
  index := rfl
  kept := fun _ hr _ => hr
  listed := fun _ hr => .inl ⟨hr, fun h => absurd h.1 (by simp [WinMachine.start])⟩
  present := fun i hi => absurd hi (by simp [WinMachine.start])
  fresh := fun i hi => absurd hi (by simp [WinMachine.start])
  mirrored := rfl
  undoable := fun _ h => nomatch h

theorem install (h : InSetup T m w) {entry : RouteEntry} (hadmits : w.table.admits entry) :
    InSetup T m (w.install entry) where
  gateway := h.gateway
  index := h.index
  kept := fun r hr hd => List.mem_cons_of_mem _ (h.kept r hr hd)
  listed := by
    intro r hr
    rcases List.mem_cons.mp hr with rfl | hr
    · exact .inr (List.mem_append_right _ (List.mem_singleton_self r))
    · exact (h.listed r hr).imp_right (List.mem_append_left _)
  present := by
    intro i hi hd
    rcases List.mem_append.mp hi with hi | hi
    · exact List.mem_cons_of_mem _ (h.present i hi hd)
    · rw [List.mem_singleton.mp hi]
      exact List.mem_cons_self
  fresh := by
    intro i hi r hr hsame
    rcases List.mem_append.mp hi with hi | hi
    · exact h.fresh i hi r hr hsame
    · -- the system has no such route, so the table of the start has it only as a deleted one
      rw [List.mem_singleton.mp hi] at hsame
      by_contra hd
      exact (admits_iff.mp hadmits).2 r (h.kept r hr hd) hsame
  mirrored := h.mirrored
  undoable := fun state hstate => (h.undoable state hstate).mono (List.subset_append_left _ _)

theorem mem_deleteDefaultRoutes {r : RouteEntry} :
    r ∈ w.deleteDefaultRoutes.table ↔ r ∈ w.table ∧ ¬w.deleteDefaultRoutes.Deleted r := by
  unfold WinMachine.Deleted
  simp [WinMachine.deleteDefaultRoutes, isDefaultV4, imp_iff_not_or]

theorem deleteDefaultRoutes (h : InSetup T m w) : InSetup T m w.deleteDefaultRoutes where
  gateway := h.gateway
  index := h.index
  kept := fun r hr hd => mem_deleteDefaultRoutes.mpr ⟨h.kept r hr fun hold => hd ⟨rfl, hold.2⟩, hd⟩
  listed := by
    intro r hr
    obtain ⟨hr, hd⟩ := mem_deleteDefaultRoutes.mp hr
    exact (h.listed r hr).imp_left fun hT => ⟨hT.1, hd⟩
  present := fun i hi hd => mem_deleteDefaultRoutes.mpr ⟨h.present i hi fun hold => hd ⟨rfl, hold.2⟩, hd⟩
  fresh := fun i hi r hr hsame => ⟨rfl, (h.fresh i hi r hr hsame).2⟩
  mirrored := h.mirrored
  undoable := h.undoable

theorem capture (h : InSetup T m w) {recovery : RecoveryState} (hundo : Undoable m w.installed recovery) :
    InSetup T m
      { w with manager := { w.manager with recoveryState := some recovery }, journal := some recovery } where
  gateway := h.gateway
  index := h.index
  kept := h.kept
  listed := h.listed
  present := h.present
  fresh := h.fresh
  mirrored := rfl
  undoable := fun _ hstate => Option.some.inj hstate ▸ hundo

theorem record (h : InSetup T m w) {change : RecoveryState → RecoveryState}
    (hchange : ∀ state, Undoable m w.installed state → Undoable m w.installed (change state)) :
    InSetup T m (w.record change) := by
  unfold WinMachine.record
  split
  case h_1 => exact h
  case h_2 recovery hrecovery =>
    have hundo : Undoable m w.installed recovery := by
      have hmirrored := h.mirrored
      rw [hrecovery] at hmirrored
      obtain ⟨state, hstate, hpart⟩ := Option.map_eq_some_iff.mp hmirrored
      exact (h.undoable state hstate).congr hpart
    exact h.capture (hchange recovery hundo)

theorem amendJournal (h : InSetup T m w) {change : RecoveryState → RecoveryState}
    (hchange : ∀ state, (change state).routePart = state.routePart) : InSetup T m (w.amendJournal change) where
  gateway := h.gateway
  index := h.index
  kept := h.kept
  listed := h.listed
  present := h.present
  fresh := h.fresh
  mirrored := by
    show (w.journal.map change).map RecoveryState.routePart = _
    rw [Option.map_map, show RecoveryState.routePart ∘ change = RecoveryState.routePart from funext hchange]
    exact h.mirrored
  undoable := by
    intro state hstate
    obtain ⟨before, hbefore, rfl⟩ := Option.map_eq_some_iff.mp hstate
    exact (h.undoable before hbefore).congr (hchange before).symm

end InSetup

namespace RouteManager

variable {T : RoutingTable} {m : RouteManager} (S : WinSystem)

theorem runRouteAdd_cases (entry : RouteEntry) (failed : String) (w : WinMachine) :
    (w.table.admits entry ∧
        (runRouteAdd S entry failed).run w = (Prog.atomic (·.install entry)).run w) ∨
      (runRouteAdd S entry failed).run w = ⟨.error (.routing failed), w, []⟩ := by
  unfold runRouteAdd
  rw [Prog.run_read_bind]
  cases h : S.accepts entry && w.table.admits entry with
  | false => exact .inr rfl
  | true => exact .inl ⟨(Bool.and_eq_true_iff.mp h).2, rfl⟩

theorem keeps_runRouteAdd_record {entry e : RouteEntry} (failed : String)
    (he : e.interfaceIndex = 0 ∨ e.sameRoute entry) :
    Keeps (InSetup T m) (do
      runRouteAdd S entry failed
      Prog.atomic (·.record (·.recordAddedRoute e))) := by
  intro w hw
  obtain ⟨hadmits, hrun⟩ | hrun := runRouteAdd_cases S entry failed w
  · refine KeepsFrom.bind ?_ ?_
    · rw [KeepsFrom, hrun]
      exact keepsFrom_atomic (hw.install hadmits)
    · intro _ _
      rw [hrun]
      refine keepsFrom_atomic ((hw.install hadmits).record ?_)
      intro state hstate
      refine hstate.recordAddedRoute (he.imp_right fun hsame => ⟨entry, ?_, hsame⟩)
      exact List.mem_append_right _ (List.mem_singleton_self entry)
  · rw [KeepsFrom, Prog.run_bind_error (congrArg Outcome.result hrun), hrun]
    exact ⟨fun _ ht => (List.not_mem_nil ht).elim, hw⟩

theorem keeps_addRouteWithInterface (destination : Block 4) (mask : UInt32) (gateway : Block 4) (useVpn : Bool) :
    Keeps (InSetup T m) (addRouteWithInterface S destination mask gateway useVpn) := by
  refine (keeps_read _).bind ?_
  intro self
  unfold runRouteAddV4 persistRecoveredAddedRouteV4
  cases netmaskToPrefixLen mask with
  | none => exact (keeps_fail _).bind fun _ => keeps_pure ()
  | some len =>
    refine keeps_runRouteAdd_record S _ ?_
    cases (if useVpn = true then S.interfaceIndex else self.originalInterfaceIdx.filter (0 < ·)) with
    | none => exact .inl rfl
    | some index => exact .inr (sameRoute_iff.mpr ⟨rfl, rfl, rfl, rfl⟩)

variable (destination : Block 16) (len : UInt8) (self : RouteManager)

theorem keeps_addRouteV6 (gateway : Block 16) :
    Keeps (InSetup T m) (addRouteV6 S destination len gateway) :=
  keeps_runRouteAdd_record S _ (.inl rfl)

theorem keeps_addRouteV6Onlink :
    Keeps (InSetup T m) (addRouteV6Onlink S destination len) :=
  keeps_runRouteAdd_record S _ (.inl rfl)

theorem keeps_enableIpv6LeakProtection : Keeps (InSetup T m) (enableIpv6LeakProtection S) := by
  refine (keeps_read _).bind ?_
  intro self
  split
  · exact keeps_pure ()
  · split
    · refine (keeps_modify ?_).bind fun _ => keeps_atomic fun w hw => hw.amendJournal fun _ => rfl
      exact fun w hw => { hw with }
    · exact keeps_fail _

theorem keeps_addLanRoutes (gateway : Block 4) :
    Keeps (InSetup T m) (addLanRoutes S self gateway) :=
  keeps_forEach (fun _ => (keeps_addRouteWithInterface S _ _ _ _).ignore.when _) _

theorem keeps_setupFullTunnelV6 : Keeps (InSetup T m) (setupFullTunnelV6 S self) := by
  unfold setupFullTunnelV6
  split
  · exact keeps_pure ()
  · refine (keeps_addRouteV6 S _ _ _).attempt.bind fun low => (keeps_addRouteV6 S _ _ _).attempt.bind fun high => ?_
    split
    · exact (keeps_forEach (fun _ => (keeps_addRouteV6Onlink S _ _).ignore) _).when _
    · exact (keeps_enableIpv6LeakProtection S).ignore

theorem keeps_addVpnRoutes : Keeps (InSetup T m) (addVpnRoutes S self) :=
  (keeps_addRouteWithInterface S _ _ _ _).bind fun _ => keeps_addRouteWithInterface S _ _ _ _

theorem keeps_deleteDefaultRoute {gateway : Block 4} (hgw : m.originalGateway = some gateway) :
    Keeps (InSetup T m) (deleteDefaultRoute gateway) := by
  intro w hw
  refine (keepsFrom_atomic hw.deleteDefaultRoutes).bind fun _ _ => ?_
  have hdeleted := hw.deleteDefaultRoutes
  show KeepsFrom (InSetup T m) _ w.deleteDefaultRoutes
  rw [KeepsFrom, Prog.run_read_bind]
  refine keepsFrom_atomic (hdeleted.record ?_)
  intro state hstate
  have hindex : w.deleteDefaultRoutes.manager.originalInterfaceIdx = m.originalInterfaceIdx := hdeleted.index
  rw [hindex]
  exact hstate.recordDeletedRoute hgw

theorem keeps_captureRecovery_bind (noted : RouteManager → RecoveryState → Option UInt32) {next : Block 4 → Action Unit}
    (hnext : ∀ gateway, m.originalGateway = some gateway → Keeps (InSetup T m) (next gateway)) :
    Keeps (InSetup T m) (captureRecovery noted >>= next) := by
  intro w hw
  have hcapture : KeepsFrom (InSetup T m) (captureRecovery noted) w := by
    unfold captureRecovery
    rw [KeepsFrom, Prog.run_read_bind, Prog.run_read_bind]
    cases hgw : w.manager.originalGateway with
    | none => exact keeps_fail _ w hw
    | some gateway =>
      refine (keepsFrom_atomic (hw.capture ?_)).bind fun _ _ => keeps_pure gateway _ (hw.capture ?_)
      all_goals
        exact
          { active := by unfold RecoveryState.capturePreVpnState; split <;> rfl
            added := by unfold RecoveryState.capturePreVpnState; split <;> simp [RecoveryState.new]
            gateway := hw.gateway ▸ hgw.symm
            deleted := by unfold RecoveryState.capturePreVpnState; split <;> simp [RecoveryState.new] }
  refine hcapture.bind fun gateway hresult => hnext gateway ?_ _ hcapture.2
  rw [← hw.gateway]
  unfold captureRecovery at hresult
  rw [Prog.run_read_bind, Prog.run_read_bind] at hresult
  cases hgw : w.manager.originalGateway with
  | none =>
    rw [hgw] at hresult
    cases hresult
  | some gw =>
    rw [hgw] at hresult
    cases hresult
    rfl

theorem keeps_setupFullTunnel : Keeps (InSetup T m) (setupFullTunnel S) := by
  refine (keeps_read _).bind fun self => keeps_captureRecovery_bind _ fun gateway hgw => ?_
  refine (keeps_addRouteWithInterface S _ _ _ _).bind fun _ => ?_
  have hlan := (keeps_addLanRoutes (T := T) (m := m) S self gateway).when self.allowLan
  refine (((keeps_deleteDefaultRoute hgw).bind fun _ => hlan).when _).bind fun _ => ?_
  refine ((keeps_enableIpv6LeakProtection S).ignore.when _).bind fun _ => ?_
  exact (keeps_addVpnRoutes S self).bind fun _ => (keeps_setupFullTunnelV6 S self).when _

theorem keeps_setupBypassTunnel (routes : List String) (bypassLocal bypassDiscovery : Bool) :
    Keeps (InSetup T m) (setupBypassTunnel S routes bypassLocal bypassDiscovery) := by
  refine (keeps_read _).bind fun self => keeps_captureRecovery_bind _ fun gateway hgw => ?_
  have hexclude : ∀ subnets : List (Block 4 × UInt32), Keeps (InSetup T m)
      (Prog.forEach subnets fun x => Prog.ignore (addExclusionRoute S x.1 x.2 gateway)) :=
    fun subnets => keeps_forEach (fun _ => (keeps_addRouteWithInterface S _ _ _ _).ignore) subnets
  refine (keeps_addRouteWithInterface S _ _ _ _).bind fun _ => ?_
  refine ((keeps_deleteDefaultRoute hgw).when _).bind fun _ => ?_
  refine ((keeps_enableIpv6LeakProtection S).ignore.when _).bind fun _ => ?_
  refine (keeps_addVpnRoutes S self).bind fun _ => ?_
  refine ((keeps_setupFullTunnelV6 S self).when _).bind fun _ => ?_
  refine (hexclude _).bind fun _ => ?_
  exact ((keeps_addLanRoutes S self gateway).when _).bind fun _ => (hexclude _).when _

theorem keeps_setup (mode : TunnelMode) : Keeps (InSetup T m) (setup S mode) := by
  cases mode with
  | full => exact keeps_setupFullTunnel S
  | bypass routes bypassLocal bypassDiscovery => exact keeps_setupBypassTunnel S routes bypassLocal bypassDiscovery

end RouteManager

/-! ### Recovery -/

namespace WinMachine

def added (w : WinMachine) : List RouteEntry := (w.journal.map RecoveryState.addedRoutes).getD []

def restored (w : WinMachine) : List RouteEntry := (w.journal.map RecoveryState.restored).getD []

/-- Every route added so far is in the journal, with the index of its interface. -/
def RoutesJournalled (w : WinMachine) : Prop :=
  ∀ i ∈ w.installed, ∃ e ∈ w.added, e.interfaceIndex ≠ 0 ∧ e.sameRoute i

/-- After the default routes were deleted the journal puts back exactly those of the start; before, none that was not
there. -/
def DefaultsJournalled (T : RoutingTable) (w : WinMachine) : Prop :=
  if w.defaultsDeleted then
    (∀ r ∈ T, r.isDefaultV4 → r ∈ w.restored ∧ r.interfaceIndex ≠ 0) ∧ ∀ e ∈ w.restored, e.interfaceIndex ≠ 0 → e ∈ T
  else ∀ e ∈ w.restored, e.interfaceIndex ≠ 0 → ∃ r ∈ T, e.sameRoute r

instance (w : WinMachine) : Decidable w.RoutesJournalled :=
  inferInstanceAs (Decidable (∀ i ∈ w.installed, ∃ e ∈ w.added, e.interfaceIndex ≠ 0 ∧ e.sameRoute i))

instance (T : RoutingTable) (w : WinMachine) : Decidable (w.DefaultsJournalled T) := by
  unfold DefaultsJournalled
  infer_instance

end WinMachine

namespace InSetup
variable {T : RoutingTable} {m : RouteManager} {w : WinMachine}

theorem added_installed (h : InSetup T m w) {e : RouteEntry} (he : e ∈ w.added) :
    e.interfaceIndex = 0 ∨ ∃ i ∈ w.installed, e.sameRoute i := by
  unfold WinMachine.added at he
  cases hjournal : w.journal with
  | none => simp [hjournal] at he
  | some state =>
    rw [hjournal] at he
    exact (h.undoable state hjournal).added e he

theorem exists_restored (h : InSetup T m w) : ∃ g, g.isDefaultV4 = true ∧ ∀ e ∈ w.restored, e = g := by
  unfold WinMachine.restored
  cases hjournal : w.journal with
  | none => exact ⟨_, isDefaultV4_newV4 (.replicate 4 0) 0, by simp⟩
  | some state => exact (h.undoable state hjournal).restored_eq

theorem checkAndPerformRecovery_eq (h : InSetup T m w) :
    w.checkAndPerformRecovery = w.restored.foldl restore (w.added.foldl undo w.table) := by
  unfold WinMachine.checkAndPerformRecovery WinMachine.restored WinMachine.added
  cases hjournal : w.journal with
  | none => rfl
  | some state => simp [(h.undoable state hjournal).active, RecoveryState.performRecoveryWithState]

theorem mem_undone_iff (h : InSetup T m w) (hroutes : w.RoutesJournalled) {r : RouteEntry} :
    r ∈ w.added.foldl undo w.table ↔ r ∈ T ∧ ¬w.Deleted r := by
  rw [mem_foldl_undo]
  constructor
  · rintro ⟨hr, hundone⟩
    refine (h.listed r hr).resolve_right ?_
    intro hinstalled
    obtain ⟨e, he, hmatch⟩ := hroutes r hinstalled
    exact hundone e he hmatch
  · rintro ⟨hr, hd⟩
    refine ⟨h.kept r hr hd, ?_⟩
    rintro e he ⟨hindex, hsame⟩
    obtain ⟨i, hi, hei⟩ := (h.added_installed he).resolve_left hindex
    exact hd (h.fresh i hi r hr (sameRoute_of_common hei hsame))

theorem recovered_of_journalled (h : InSetup T m w) (hroutes : w.RoutesJournalled) (hdefaults : w.DefaultsJournalled T)
    (r : RouteEntry) : r ∈ w.checkAndPerformRecovery ↔ r ∈ T := by
  obtain ⟨g, hg, hall⟩ := h.exists_restored
  rw [h.checkAndPerformRecovery_eq, mem_foldl_restore hall, h.mem_undone_iff hroutes, admits_iff]
  have hself : ∀ {e}, e ∈ w.restored → g ∈ w.restored := fun he => hall _ he ▸ he
  unfold WinMachine.DefaultsJournalled at hdefaults
  split at hdefaults
  case isTrue hdeleted =>
    constructor
    · rintro (⟨hr, -⟩ | ⟨hne, ⟨hindex, -⟩, rfl⟩)
      · exact hr
      · obtain ⟨e, he⟩ := List.exists_mem_of_ne_nil _ hne
        exact hdefaults.2 r (hself he) hindex
    · intro hr
      by_cases hdefault : r.isDefaultV4
      · -- the deleted default route comes back: no route like it is left
        obtain ⟨hmem, hindex⟩ := hdefaults.1 r hr hdefault
        obtain rfl := hall r hmem
        refine .inr ⟨List.ne_nil_of_mem hmem, ⟨hindex, ?_⟩, rfl⟩
        intro r' hr' hsame
        refine ((h.mem_undone_iff hroutes).mp hr').2 ⟨hdeleted, ?_⟩
        rw [← isDefaultV4_of_sameRoute hsame]
        exact hdefault
      · exact .inl ⟨hr, fun hd => hdefault hd.2⟩
  case isFalse hdeleted =>
    have hkept : ∀ r, ¬w.Deleted r := fun r hd => hdeleted hd.1
    constructor
    · rintro (⟨hr, -⟩ | ⟨hne, ⟨hindex, hfree⟩, rfl⟩)
      · exact hr
      · -- a default route like it is still there, so it is not put back
        obtain ⟨e, he⟩ := List.exists_mem_of_ne_nil _ hne
        obtain ⟨r', hr', hsame⟩ := hdefaults r (hself he) hindex
        exact (hfree r' ((h.mem_undone_iff hroutes).mpr ⟨hr', hkept r'⟩) hsame).elim
    · exact fun hr => .inl ⟨hr, hkept r⟩

theorem journalled_of_recovered (h : InSetup T m w) (hadded : ∀ i ∈ w.installed, i.isDefaultV4 = false)
    (hrecovered : ∀ r, r ∈ w.checkAndPerformRecovery ↔ r ∈ T) : w.RoutesJournalled ∧ w.DefaultsJournalled T := by
  obtain ⟨g, hg, hall⟩ := h.exists_restored
  have hmem : ∀ r, r ∈ T ↔ r ∈ w.added.foldl undo w.table ∨
      w.restored ≠ [] ∧ (w.added.foldl undo w.table).admits g ∧ r = g := by
    intro r
    rw [← hrecovered, h.checkAndPerformRecovery_eq, mem_foldl_restore hall]
  have hroutes : w.RoutesJournalled := by
    intro i hi
    by_contra hnot
    have hd : ¬w.Deleted i := by
      intro hd
      have := hadded i hi
      rw [hd.2] at this
      cases this
    have hundone : i ∈ w.added.foldl undo w.table :=
      mem_foldl_undo.mpr ⟨h.present i hi hd, fun e he hmatch => hnot ⟨e, he, hmatch⟩⟩
    have hT : i ∈ T := (hmem i).mpr (.inl hundone)
    exact hd (h.fresh i hi i hT (sameRoute_self i))
  refine ⟨hroutes, ?_⟩
  unfold WinMachine.DefaultsJournalled
  split
  case isTrue hdeleted =>
    constructor
    · intro r hr hdefault
      have hgone : r ∉ w.added.foldl undo w.table :=
        fun hin => ((h.mem_undone_iff hroutes).mp hin).2 ⟨hdeleted, hdefault⟩
      obtain ⟨hne, hadmits, rfl⟩ := ((hmem r).mp hr).resolve_left hgone
      obtain ⟨e, he⟩ := List.exists_mem_of_ne_nil _ hne
      exact ⟨hall e he ▸ he, (admits_iff.mp hadmits).1⟩
    · intro e he hindex
      obtain rfl := hall e he
      refine (hmem e).mpr (.inr ⟨List.ne_nil_of_mem he, admits_iff.mpr ⟨hindex, ?_⟩, rfl⟩)
      intro r hr hsame
      refine ((h.mem_undone_iff hroutes).mp hr).2 ⟨hdeleted, ?_⟩
      rw [← isDefaultV4_of_sameRoute hsame]
      exact hg
  case isFalse hdeleted =>
    intro e he hindex
    obtain rfl := hall e he
    by_contra hnone
    have hadmits : (w.added.foldl undo w.table).admits e := by
      refine admits_iff.mpr ⟨hindex, ?_⟩
      intro r hr hsame
      exact hnone ⟨r, ((h.mem_undone_iff hroutes).mp hr).1, hsame⟩
    exact hnone ⟨e, (hmem e).mpr (.inr ⟨List.ne_nil_of_mem he, hadmits, rfl⟩), sameRoute_self e⟩

end InSetup

/-- Wherever a setup stops, recovery restores the table if every route added is in the journal with its interface and
the journal has the default routes; unless the setup added a default route itself, in no other case. -/
theorem recovery_restores_iff_journalled (S : WinSystem) (mode : RouteManager.TunnelMode) (m : RouteManager)
    (T : RoutingTable) {w : WinMachine} (hw : w ∈ (RouteManager.setup S mode).stops (.start m T)) :
    (w.RoutesJournalled ∧ w.DefaultsJournalled T → ∀ r, r ∈ w.checkAndPerformRecovery ↔ r ∈ T) ∧
      ((∀ i ∈ w.installed, i.isDefaultV4 = false) → (∀ r, r ∈ w.checkAndPerformRecovery ↔ r ∈ T) →
        w.RoutesJournalled ∧ w.DefaultsJournalled T) := by
  have h : InSetup T m w := (RouteManager.keeps_setup S mode).stops (.start T m) hw
  exact ⟨fun hj => h.recovered_of_journalled hj.1 hj.2, h.journalled_of_recovered⟩

namespace CrashSample
open RouteManager

def system : WinSystem := ⟨some 20, 20, fun _ => 12, fun _ => true, 256, true⟩

def manager (killSwitch : Bool) : RouteManager :=
  ⟨some (ipv4 192 168 1 1), some 12, ipv4 10 99 0 1, none, ipv4 203 0 113 5, killSwitch, false, false, none, false⟩

def defaultRoute : RouteEntry := .newV4 (.replicate 4 0) 0 (ipv4 192 168 1 1) 12

def serverRoute : RouteEntry := .newV4 (ipv4 203 0 113 5) 32 (ipv4 192 168 1 1) 12

/-- The process stops between adding the server's route and writing it to the journal. -/
def cut : WinMachine :=
  { (WinMachine.start (manager false) [defaultRoute]) with
    manager := { manager false with
      recoveryState := some { RecoveryState.new with
        vpnActive := true, originalGateway := some (ipv4 192 168 1 1), originalInterfaceIdx := some 12 } }
    journal := some { RecoveryState.new with
      vpnActive := true, originalGateway := some (ipv4 192 168 1 1), originalInterfaceIdx := some 12 }
    table := [serverRoute, defaultRoute]
    installed := [serverRoute] }

def finished : WinMachine := ((setup system .full).run (.start (manager true) [defaultRoute])).state

theorem recovery_restores_finished :
    finished ∈ (setup system .full).stops (.start (manager true) [defaultRoute]) ∧
      defaultRoute ∉ finished.table ∧ defaultRoute ∈ finished.checkAndPerformRecovery := by
  have hstop : finished ∈ (setup system .full).stops (.start (manager true) [defaultRoute]) := by decide +kernel
  have hj : finished.RoutesJournalled ∧ finished.DefaultsJournalled [defaultRoute] := by decide +kernel
  have hrecovered := (recovery_restores_iff_journalled system .full (manager true) [defaultRoute] hstop).1 hj
  exact ⟨hstop, by decide +kernel, (hrecovered defaultRoute).mpr List.mem_cons_self⟩

theorem server_route_left_behind :
    cut ∈ (setup system .full).stops (.start (manager false) [defaultRoute]) ∧
      serverRoute ∉ [defaultRoute] ∧ serverRoute ∈ cut.checkAndPerformRecovery := by
  decide +kernel

end CrashSample

end HpnVpn
