import HpnVpn.SessionLifecycle

/-! The session manager step by step: a call is a task whose steps are single operations, and tasks interleave.  Run
alone, a task does what the manager's function does. -/
namespace HpnVpn
open Wire Tables Leases Runs Function IpAllocator

structure NewSession where
  session : Session
  clientAddr : SocketAddr
  securityLevel : SecurityLevel
  now : UInt64
deriving DecidableEq

def NewSession.sessionId (n : NewSession) : SessionId := n.session.sessionId

/-- The next step of a call, with the variables still needed. -/
inductive Task
  | create (n : NewSession)
  | remove (sessionId : SessionId)
  | uncount (sessionId : SessionId) (old : ClientSession)
  | unmap (sessionId : SessionId) (old : ClientSession) (next : Option NewSession)
  | release (sessionId : SessionId) (old : ClientSession) (next : Option NewSession)
  | unmapV6 (sessionId : SessionId) (ip : Block 16) (next : Option NewSession)
  | releaseV6 (sessionId : SessionId) (ip : Block 16) (next : Option NewSession)
  | emitRemoved (sessionId : SessionId) (next : Option NewSession)
  | uncountReplaced (n : NewSession)
  | reserve (n : NewSession)
  | unreserve
  | allocate (n : NewSession)
  | allocateV6 (n : NewSession) (ip : Block 4)
  | giveBack (sessionId : SessionId) (ip : Block 4)
  | insert (n : NewSession) (ip : Block 4) (ipv6 : Option (Block 16))
  | map (sessionId : SessionId) (ip : Block 4) (ipv6 : Option (Block 16))
  | mapV6 (sessionId : SessionId) (ip : Block 16)
  | emitCreated (sessionId : SessionId)
  | done
deriving DecidableEq

namespace Task

/-- One atomic step; a hash set picks with `picker`. -/
def step (picker : Picker Nat) (r : LifecycleRun) : Task → LifecycleRun × Task
  | create n =>
    match r.manager.sessions.lookup n.sessionId with
    | some old =>
      ({ r with manager := { r.manager with sessions := r.manager.sessions.erase n.sessionId } },
        unmap n.sessionId old (some n))
    | none => (r, reserve n)
  | remove sessionId =>
    match r.manager.sessions.lookup sessionId with
    | some old =>
      ({ r with manager := { r.manager with sessions := r.manager.sessions.erase sessionId } }, uncount sessionId old)
    | none => (r, done)
  | uncount sessionId old =>
    ({ r with manager := { r.manager with sessionCount := r.manager.sessionCount - 1 } }, unmap sessionId old none)
  | unmap sessionId old next =>
    ({ r with manager := { r.manager with ipToSession := r.manager.ipToSession.erase old.tunnelIp } },
      release sessionId old next)
  | release sessionId old next =>
    ({ r with manager := { r.manager with ipAllocator := r.manager.ipAllocator.release old.tunnelIp } },
      match old.tunnelIpv6 with
      | some ip => unmapV6 sessionId ip next
      | none => emitRemoved sessionId next)
  | unmapV6 sessionId ip next =>
    ({ r with manager := { r.manager with ipv6ToSession := r.manager.ipv6ToSession.erase ip } },
      releaseV6 sessionId ip next)
  | releaseV6 sessionId ip next =>
    ({ r with manager := { r.manager with ipv6Allocator := r.manager.ipv6Allocator.map (·.release ip) } },
      emitRemoved sessionId next)
  | emitRemoved sessionId next =>
    ({ r with events := r.events ++ [.removed sessionId] },
      match next with
      | some n => uncountReplaced n
      | none => done)
  | uncountReplaced n =>
    ({ r with manager := { r.manager with sessionCount := r.manager.sessionCount - 1 } }, reserve n)
  | reserve n =>
    ({ r with manager := { r.manager with sessionCount := r.manager.sessionCount + 1 } },
      if r.manager.maxSessions ≤ r.manager.sessionCount then unreserve else allocate n)
  | unreserve => ({ r with manager := { r.manager with sessionCount := r.manager.sessionCount - 1 } }, done)
  | allocate n =>
    match r.manager.ipAllocator.allocate picker with
    | (ipAllocator, some ip) => ({ r with manager := { r.manager with ipAllocator } }, allocateV6 n ip)
    | (ipAllocator, none) => ({ r with manager := { r.manager with ipAllocator } }, unreserve)
  | allocateV6 n ip =>
    match r.manager.ipv6Allocator.map (·.allocate picker) with
    | some (a, some ip6) =>
      ({ r with manager := { r.manager with ipv6Allocator := some a } }, insert n ip (some ip6))
    | some (a, none) =>
      ({ r with manager := { r.manager with ipv6Allocator := some a } }, giveBack n.sessionId ip)
    | none => (r, insert n ip none)
  | giveBack _ ip =>
    ({ r with manager := { r.manager with ipAllocator := r.manager.ipAllocator.release ip } }, unreserve)
  | insert n ip ipv6 =>
    ({ r with manager := { r.manager with
        sessions := r.manager.sessions.insert n.sessionId (.withRateLimit n.session n.clientAddr ip ipv6
          n.securityLevel r.manager.sessionRateLimitPps r.manager.sessionRateLimitBps n.now) } },
      map n.sessionId ip ipv6)
  | map sessionId ip ipv6 =>
    ({ r with manager := { r.manager with ipToSession := r.manager.ipToSession.insert ip sessionId } },
      match ipv6 with
      | some ip6 => mapV6 sessionId ip6
      | none => emitCreated sessionId)
  | mapV6 sessionId ip =>
    ({ r with manager := { r.manager with ipv6ToSession := r.manager.ipv6ToSession.insert ip sessionId } },
      emitCreated sessionId)
  | emitCreated sessionId => ({ r with events := r.events ++ [.created sessionId] }, done)
  | done => (r, done)

end Task

/-! ### A call that runs alone -/

namespace Task

def pickerFor (picker pickerV6 : Picker Nat) : Task → Picker Nat
  | allocateV6 .. => pickerV6
  | _ => picker

def alone (picker pickerV6 : Picker Nat) : Nat → LifecycleRun → Task → LifecycleRun × Task
  | 0, r, t => (r, t)
  | k + 1, r, t =>
    alone picker pickerV6 k (t.step (pickerFor picker pickerV6 t) r).1 (t.step (pickerFor picker pickerV6 t) r).2

variable {picker pickerV6 : Picker Nat}

/-- The steps of a removal do what `remove_session` does. -/
theorem alone_remove (r : LifecycleRun) (sessionId : SessionId) :
    alone picker pickerV6 7 r (remove sessionId) = (r.remove sessionId, done) := by
  rw [LifecycleRun.remove, SessionManager.removeSession, SessionManager.removeEvents]
  cases hold : r.manager.sessions.lookup sessionId with
  | none => simp [alone, step, hold]
  | some old =>
    cases hv6 : old.tunnelIpv6 with
    | none => simp [alone, step, hold, hv6]
    | some ip => simp [alone, step, hold, hv6]

/-- From its slot on, a creation does what `create_session` does once the id is free. -/
theorem alone_reserve (r : LifecycleRun) (n : NewSession) :
    alone picker pickerV6 7 (r.remove n.session.sessionId) (reserve n) =
      (r.step (.create picker pickerV6 n.session n.clientAddr n.securityLevel n.now), done) := by
  rw [LifecycleRun.step, LifecycleRun.remove, SessionManager.createEvents,
    SessionManager.createSessionDualStackWithLevel]
  generalize (r.manager.removeSession n.session.sessionId).1 = m
  by_cases hfull : m.maxSessions ≤ m.sessionCount
  · simp [hfull, alone, step]
  rcases hip : m.ipAllocator.allocate picker with ⟨a, _ | ip⟩
  · simp [hfull, alone, step, hip, pickerFor]
  cases hv6 : m.ipv6Allocator with
  | none => simp [hfull, alone, step, hip, hv6, pickerFor, SessionManager.insertSession, NewSession.sessionId]
  | some b =>
    rcases hip6 : b.allocate pickerV6 with ⟨b', _ | ip6⟩
    · simp [hfull, alone, step, hip, hv6, hip6, pickerFor]
    · simp [hfull, alone, step, hip, hv6, hip6, pickerFor, SessionManager.insertSession, NewSession.sessionId]

/-- Run alone, the steps of a creation or a removal do what the manager's function does. -/
theorem alone_refines (picker pickerV6 : Picker Nat) (r : LifecycleRun) (n : NewSession) (sessionId : SessionId) :
    (∃ k, alone picker pickerV6 k r (create n) =
        (r.step (.create picker pickerV6 n.session n.clientAddr n.securityLevel n.now), done)) ∧
      ∃ k, alone picker pickerV6 k r (remove sessionId) = (r.step (.remove sessionId), done) := by
  -- the steps up to the slot: none, or a removal with one address or two
  have hslot : ∃ j, ∀ k, alone picker pickerV6 (k + j) r (create n) =
      alone picker pickerV6 k (r.remove n.session.sessionId) (reserve n) := by
    simp only [LifecycleRun.remove, SessionManager.removeSession, SessionManager.removeEvents]
    cases hold : r.manager.sessions.lookup n.session.sessionId with
    | none => exact ⟨1, fun k => by simp [alone, step, NewSession.sessionId, hold]⟩
    | some old =>
      cases hv6 : old.tunnelIpv6 with
      | none => exact ⟨5, fun k => by simp [alone, step, NewSession.sessionId, hold, hv6]⟩
      | some ip => exact ⟨7, fun k => by simp [alone, step, NewSession.sessionId, hold, hv6]⟩
  obtain ⟨j, hj⟩ := hslot
  exact ⟨⟨7 + j, (hj 7).trans (alone_reserve r n)⟩, 7, alone_remove r sessionId⟩

end Task

/-- The manager and the calls under way. -/
structure SessionWorld where
  run : LifecycleRun
  tasks : List Task

/-- A call begins, or one under way makes a step. -/
inductive SessionEvent
  | create (n : NewSession)
  | remove (sessionId : SessionId)
  | advance (i : Nat) (picker : Picker Nat)

namespace SessionWorld

def step (w : SessionWorld) : SessionEvent → SessionWorld
  | .create n => { w with tasks := w.tasks ++ [.create n] }
  | .remove sessionId => { w with tasks := w.tasks ++ [.remove sessionId] }
  | .advance i picker =>
    match w.tasks[i]? with
    | some t => ⟨(t.step picker w.run).1, w.tasks.set i (t.step picker w.run).2⟩
    | none => w

/-- Every call is over. -/
def Idle (w : SessionWorld) : Prop := ∀ t ∈ w.tasks, t = .done

instance (w : SessionWorld) : Decidable w.Idle := inferInstanceAs (Decidable (∀ t ∈ w.tasks, t = .done))

end SessionWorld

/-! ### Who holds which address

An address is held by a session of the table or by a task. -/

/-- One family: the address of a session, what a task holds, and the session it is about to enter in the reverse map.
-/
structure Family (α : Type) where
  addr : ClientSession → Option α
  own : Task → Option (Lease α SessionId)
  pending : Task → Option SessionId

def ipFamily : Family (Block 4) where
  addr c := some c.tunnelIp
  own
    | .uncount sessionId old => some ⟨old.tunnelIp, sessionId, true⟩
    | .unmap sessionId old _ => some ⟨old.tunnelIp, sessionId, true⟩
    | .release sessionId old _ => some ⟨old.tunnelIp, sessionId, false⟩
    | .allocateV6 n ip => some ⟨ip, n.sessionId, false⟩
    | .giveBack sessionId ip => some ⟨ip, sessionId, false⟩
    | .insert n ip _ => some ⟨ip, n.sessionId, false⟩
    | _ => none
  pending
    | .map sessionId _ _ => some sessionId
    | _ => none

def ipv6Family : Family (Block 16) where
  addr c := c.tunnelIpv6
  own
    | .uncount sessionId old => old.tunnelIpv6.map fun ip => ⟨ip, sessionId, true⟩
    | .unmap sessionId old _ => old.tunnelIpv6.map fun ip => ⟨ip, sessionId, true⟩
    | .release sessionId old _ => old.tunnelIpv6.map fun ip => ⟨ip, sessionId, true⟩
    | .unmapV6 sessionId ip _ => some ⟨ip, sessionId, true⟩
    | .releaseV6 sessionId ip _ => some ⟨ip, sessionId, false⟩
    | .insert n _ ipv6 => ipv6.map fun ip => ⟨ip, n.sessionId, false⟩
    | _ => none
  pending
    | .map sessionId _ _ => some sessionId
    | .mapV6 sessionId _ => some sessionId
    | _ => none

theorem pending_of_ipFamily {t : Task} {k : SessionId} (h : ipFamily.pending t = some k) :
    ipv6Family.pending t = some k := by
  cases t <;> first | exact h | cases h

namespace Family

variable {α : Type} (F : Family α)

def leaseOf (pending : List (Option SessionId)) (sessionId : SessionId) (o : Option ClientSession) :
    Option (Lease α SessionId) :=
  (o.bind F.addr).map fun a => ⟨a, sessionId, decide (some sessionId ∉ pending)⟩

def stored (sessions : SessionId → Option ClientSession) (tasks : List Task) (sessionId : SessionId) :
    Option (Lease α SessionId) :=
  F.leaseOf (tasks.map F.pending) sessionId (sessions sessionId)

def held (tasks : List Task) (i : Nat) : Option (Lease α SessionId) := tasks[i]?.bind F.own

def lease (sessions : SessionId → Option ClientSession) (tasks : List Task) :
    SessionId ⊕ Nat → Option (Lease α SessionId) :=
  Sum.elim (F.stored sessions tasks) (F.held tasks)

variable {F} {sessions : SessionId → Option ClientSession} {tasks : List Task} {i : Nat} {t t' : Task}

theorem held_of (ht : tasks[i]? = some t) : F.held tasks i = F.own t := by
  rw [held, ht, Option.bind_some]

theorem held_set (ht : tasks[i]? = some t) (t' : Task) :
    F.held (tasks.set i t') = update (F.held tasks) i (F.own t') := by
  funext j
  by_cases hj : j = i
  · subst hj
    rw [update_self, held, List.getElem?_set_self (getElem?_eq_some_iff.mp ht).1, Option.bind_some]
  · rw [update_of_ne hj, held, List.getElem?_set_ne (symm hj), held]

theorem pending_set (ht : tasks[i]? = some t) (h : F.pending t' = F.pending t) :
    (tasks.set i t').map F.pending = tasks.map F.pending := by
  apply List.ext_getElem?
  intro j
  rw [List.map_set]
  by_cases hj : j = i
  · subst hj
    have hlt : j < (tasks.map F.pending).length := by
      rw [List.length_map]
      exact (getElem?_eq_some_iff.mp ht).1
    rw [List.getElem?_set_self hlt, List.getElem?_map, ht, h]
    rfl
  · rw [List.getElem?_set_ne (symm hj)]

theorem lease_stay (ht : tasks[i]? = some t) (h : F.pending t' = F.pending t) :
    F.lease sessions (tasks.set i t') = update (F.lease sessions tasks) (.inr i) (F.own t') := by
  have hstored : F.stored sessions (tasks.set i t') = F.stored sessions tasks := by
    funext k
    rw [stored, stored, pending_set ht h]
  rw [lease, hstored, held_set ht, lease, Sum.update_elim_inr]

theorem lease_task (sessions : SessionId → Option ClientSession) (ht : tasks[i]? = some t) :
    F.lease sessions tasks (.inr i) = F.own t := held_of ht

theorem lease_same (ht : tasks[i]? = some t) (h : F.pending t' = F.pending t) (hown : F.own t' = F.own t) :
    F.lease sessions (tasks.set i t') = F.lease sessions tasks := by
  rw [lease_stay ht h, hown, ← lease_task sessions ht, update_eq_self]

theorem lease_erase (ht : tasks[i]? = some t) (h : F.pending t' = F.pending t) (sessionId : SessionId) :
    F.lease (update sessions sessionId none) (tasks.set i t') =
      update (update (F.lease sessions tasks) (.inl sessionId) none) (.inr i) (F.own t') := by
  have hstored : F.stored (update sessions sessionId none) (tasks.set i t') =
      update (F.stored sessions tasks) sessionId none := by
    funext k
    rw [stored, pending_set ht h]
    exact apply_update (F.leaseOf (tasks.map F.pending)) sessions sessionId none k
  rw [lease, hstored, held_set ht, lease, Sum.update_elim_inl, Sum.update_elim_inr]

theorem lease_append (hown : F.own t = none) (hpending : F.pending t = none) :
    F.lease sessions (tasks ++ [t]) = F.lease sessions tasks := by
  have hstored : F.stored sessions (tasks ++ [t]) = F.stored sessions tasks := by
    funext k
    have hmem : some k ∈ (tasks ++ [t]).map F.pending ↔ some k ∈ tasks.map F.pending := by
      simp [hpending]
    rw [stored, stored, leaseOf, leaseOf]
    simp only [hmem]
  have hheld : F.held (tasks ++ [t]) = F.held tasks := by
    funext j
    rw [held, held]
    rcases lt_trichotomy j tasks.length with hlt | rfl | hgt
    · rw [List.getElem?_append_left hlt]
    · rw [List.getElem?_concat_length, List.getElem?_eq_none (le_refl _), Option.bind_some, hown]
      rfl
    · rw [List.getElem?_eq_none (by simp; omega), List.getElem?_eq_none (by omega)]
  rw [lease, hstored, hheld, lease]

variable {k : SessionId}

theorem index_iff_of_idle {pool free : Set α} {index : α → Option SessionId}
    (h : Consistent pool free (F.lease sessions tasks) index)
    (hidle : ∀ u ∈ tasks, F.own u = none ∧ F.pending u = none) {a : α} :
    index a = some k ↔ ∃ c, sessions k = some c ∧ F.addr c = some a := by
  have hstored : ∀ k', F.lease sessions tasks (.inl k') = ((sessions k').bind F.addr).map fun a => ⟨a, k', true⟩ := by
    intro k'
    have hmem : some k' ∉ tasks.map F.pending := by
      intro hmem
      obtain ⟨u, hu, hk⟩ := List.mem_map.mp hmem
      cases (hidle u hu).2.symm.trans hk
    show F.leaseOf _ k' (sessions k') = _
    rw [leaseOf, decide_eq_true hmem]
  have hheld : ∀ j, F.lease sessions tasks (.inr j) = none := by
    intro j
    show tasks[j]?.bind F.own = none
    cases hu : tasks[j]? with
    | none => rfl
    | some u => exact (hidle u (List.mem_of_getElem? hu)).1
  rw [h.index_iff]
  constructor
  · rintro ⟨x | j, l, hl, ha, hk, -⟩
    · rw [hstored] at hl
      obtain ⟨b, hb, rfl⟩ := Option.map_eq_some_iff.mp hl
      obtain ⟨c, hc, hcb⟩ := Option.bind_eq_some_iff.mp hb
      obtain rfl : x = k := hk
      exact ⟨c, hc, hcb.trans (congrArg some ha)⟩
    · rw [hheld] at hl
      cases hl
  · rintro ⟨c, hc, hca⟩
    refine ⟨.inl k, ⟨a, k, true⟩, ?_, rfl, rfl, rfl⟩
    rw [hstored, hc, Option.bind_some, hca]
    rfl

def PendingElsewhere (F : Family α) (tasks : List Task) (i : Nat) (k : SessionId) : Prop :=
  ∃ j u, j ≠ i ∧ tasks[j]? = some u ∧ F.pending u = some k

theorem mem_pending (ht : tasks[i]? = some t) :
    some k ∈ tasks.map F.pending ↔ F.pending t = some k ∨ F.PendingElsewhere tasks i k := by
  rw [List.mem_map]
  constructor
  · rintro ⟨u, hu, hk⟩
    obtain ⟨j, hj⟩ := List.mem_iff_getElem?.mp hu
    by_cases hji : j = i
    · subst hji
      cases ht.symm.trans hj
      exact .inl hk
    · exact .inr ⟨j, u, hji, hj, hk⟩
  · rintro (hk | ⟨j, u, -, hj, hk⟩)
    · exact ⟨t, List.mem_of_getElem? ht, hk⟩
    · exact ⟨u, List.mem_of_getElem? hj, hk⟩

theorem mem_pending_set (ht : tasks[i]? = some t) :
    some k ∈ (tasks.set i t').map F.pending ↔ F.pending t' = some k ∨ F.PendingElsewhere tasks i k := by
  have hself : (tasks.set i t')[i]? = some t' := List.getElem?_set_self (getElem?_eq_some_iff.mp ht).1
  rw [mem_pending hself]
  have hsame : F.PendingElsewhere (tasks.set i t') i k ↔ F.PendingElsewhere tasks i k := by
    constructor
    · rintro ⟨j, u, hne, hj, hk⟩
      rw [List.getElem?_set_ne hne.symm] at hj
      exact ⟨j, u, hne, hj, hk⟩
    · rintro ⟨j, u, hne, hj, hk⟩
      refine ⟨j, u, hne, ?_, hk⟩
      rw [List.getElem?_set_ne hne.symm, hj]
  rw [hsame]

theorem lease_change {sessions' : SessionId → Option ClientSession} (ht : tasks[i]? = some t) {sessionId : SessionId}
    (hsessions : ∀ k, k ≠ sessionId → sessions' k = sessions k)
    (hpending : ∀ k, k ≠ sessionId → (F.pending t' = some k ↔ F.pending t = some k)) :
    F.lease sessions' (tasks.set i t') = update (update (F.lease sessions tasks) (.inr i) (F.own t')) (.inl sessionId)
      (F.leaseOf ((tasks.set i t').map F.pending) sessionId (sessions' sessionId)) := by
  have hstored : F.stored sessions' (tasks.set i t') = update (F.stored sessions tasks) sessionId
      (F.leaseOf ((tasks.set i t').map F.pending) sessionId (sessions' sessionId)) := by
    funext k
    by_cases hk : k = sessionId
    · rw [hk, update_self, stored]
    · have hmem : some k ∈ (tasks.set i t').map F.pending ↔ some k ∈ tasks.map F.pending := by
        rw [mem_pending_set ht, mem_pending ht, hpending k hk]
      rw [update_of_ne hk, stored, stored, leaseOf, leaseOf, hsessions k hk]
      simp only [hmem]
  rw [lease, hstored, held_set ht, lease, Sum.update_elim_inr, Sum.update_elim_inl]

theorem lease_listed (ht : tasks[i]? = some t) {sessionId : SessionId} (hpending : F.pending t = some sessionId)
    (h : F.pending t' = none) (honce : ¬F.PendingElsewhere tasks i sessionId) :
    F.lease sessions (tasks.set i t') =
      update (update (F.lease sessions tasks) (.inr i) (F.own t')) (.inl sessionId)
        (((sessions sessionId).bind F.addr).map fun a => ⟨a, sessionId, true⟩) := by
  have hmem : some sessionId ∉ (tasks.set i t').map F.pending := by
    rw [mem_pending_set ht, h]
    rintro (hnone | helse)
    · cases hnone
    · exact honce helse
  have hother : ∀ k, k ≠ sessionId → (F.pending t' = some k ↔ F.pending t = some k) := by
    intro k hk
    simp [h, hpending, symm hk]
  rw [lease_change ht (fun _ _ => rfl) hother, leaseOf, decide_eq_true hmem]

section
variable {pool free : Set α} {index : α → Option SessionId} {sessionId : SessionId}

theorem moveOut (h : Consistent pool free (F.lease sessions tasks) index) (ht : tasks[i]? = some t)
    (hpending : F.pending t' = F.pending t) (hown : F.own t = none) {old : ClientSession}
    (hold : sessions sessionId = some old) (hlisted : some sessionId ∉ tasks.map F.pending)
    (hown' : F.own t' = (F.addr old).map fun a => ⟨a, sessionId, true⟩) :
    Consistent pool free (F.lease (update sessions sessionId none) (tasks.set i t')) index := by
  have hstored : F.lease sessions tasks (.inl sessionId) = (F.addr old).map fun a => ⟨a, sessionId, true⟩ := by
    show F.leaseOf _ sessionId (sessions sessionId) = _
    rw [hold, leaseOf, decide_eq_true hlisted]
    rfl
  rw [lease_erase ht hpending, hown']
  cases haddr : F.addr old with
  | none =>
    rw [haddr] at hstored
    rw [Option.map_none, update_none hstored, update_none ((lease_task sessions ht).trans hown)]
    exact h
  | some a =>
    rw [haddr] at hstored
    exact h.move hstored ((lease_task sessions ht).trans hown)

variable {c : ClientSession}

theorem moveIn (h : Consistent pool free (F.lease sessions tasks) index) (ht : tasks[i]? = some t)
    (hpending : F.pending t = none) (hpending' : F.pending t' = some sessionId)
    (hown : F.own t = (F.addr c).map fun a => ⟨a, sessionId, false⟩) (hown' : F.own t' = none)
    (hnone : sessions sessionId = none) :
    Consistent pool free (F.lease (update sessions sessionId (some c)) (tasks.set i t')) index := by
  have hstored : F.lease sessions tasks (.inl sessionId) = none := by
    show F.leaseOf _ sessionId (sessions sessionId) = _
    rw [hnone]
    rfl
  have hmem : some sessionId ∈ (tasks.set i t').map F.pending := (mem_pending_set ht).mpr (.inl hpending')
  have hother : ∀ k, k ≠ sessionId → (F.pending t' = some k ↔ F.pending t = some k) := by
    intro k hk
    simp [hpending, hpending', symm hk]
  rw [lease_change ht (fun _ hk => update_of_ne hk _ _) hother, update_self, hown', leaseOf, Option.bind_some,
    decide_eq_false (not_not.mpr hmem)]
  have htask := lease_task (F := F) sessions ht
  cases haddr : F.addr c with
  | none =>
    rw [hown, haddr] at htask
    rw [Option.map_none, update_none htask, update_none hstored]
    exact h
  | some a =>
    rw [hown, haddr] at htask
    exact h.move htask hstored

theorem enter [DecidableEq α] (h : Consistent pool free (F.lease sessions tasks) index)
    (ht : tasks[i]? = some t) (hpending : F.pending t = some sessionId) (hpending' : F.pending t' = none)
    (hown : F.own t = none) (hown' : F.own t' = none) (honce : ¬F.PendingElsewhere tasks i sessionId)
    (hc : sessions sessionId = some c) {addr : Option α} (ha : F.addr c = addr) :
    Consistent pool free (F.lease sessions (tasks.set i t'))
      (addr.elim index fun a => update index a (some sessionId)) := by
  have hmem : some sessionId ∈ tasks.map F.pending := (mem_pending ht).mpr (.inl hpending)
  have hstored : F.lease sessions tasks (.inl sessionId) = addr.map fun a => ⟨a, sessionId, false⟩ := by
    show F.leaseOf _ sessionId (sessions sessionId) = _
    rw [hc, leaseOf, Option.bind_some, ha, decide_eq_false (not_not.mpr hmem)]
  rw [lease_listed ht hpending hpending' honce, hc, Option.bind_some, ha, hown',
    update_none ((lease_task sessions ht).trans hown)]
  cases addr with
  | none =>
    rw [Option.map_none, update_none hstored]
    exact h
  | some a => exact h.list hstored

end

end Family

namespace SessionWorld
open Family

/-- A task takes out no session that another is still entering in the reverse maps, and puts one in only where there
is none. -/
def Allows (w : SessionWorld) : Task → Prop
  | .create n => some n.sessionId ∉ w.tasks.map ipv6Family.pending
  | .remove sessionId => some sessionId ∉ w.tasks.map ipv6Family.pending
  | .insert n _ _ => w.run.manager.sessions.lookup n.sessionId = none
  | _ => True

/-- A task goes on only where the others allow it. -/
def Undisturbed (w : SessionWorld) : SessionEvent → Prop
  | .advance i _ => ∀ t ∈ w.tasks[i]?, w.Allows t
  | _ => True

instance (w : SessionWorld) : (t : Task) → Decidable (w.Allows t)
  | .create n => inferInstanceAs (Decidable (some n.sessionId ∉ w.tasks.map ipv6Family.pending))
  | .remove sessionId => inferInstanceAs (Decidable (some sessionId ∉ w.tasks.map ipv6Family.pending))
  | .insert n _ _ => inferInstanceAs (Decidable (w.run.manager.sessions.lookup n.sessionId = none))
  | .uncount .. | .unmap .. | .release .. | .unmapV6 .. | .releaseV6 .. | .emitRemoved .. | .uncountReplaced _
  | .reserve _ | .unreserve | .allocate _ | .allocateV6 .. | .giveBack .. | .map .. | .mapV6 .. | .emitCreated _
  | .done => isTrue trivial

instance (w : SessionWorld) : (e : SessionEvent) → Decidable (w.Undisturbed e)
  | .advance i _ => inferInstanceAs (Decidable (∀ t ∈ w.tasks[i]?, w.Allows t))
  | .create _ | .remove _ => isTrue trivial

def Stored (sessions : SessionId → Option ClientSession) : Task → Prop
  | .map sessionId ip ipv6 => ∃ c, sessions sessionId = some c ∧ c.tunnelIp = ip ∧ c.tunnelIpv6 = ipv6
  | .mapV6 sessionId ip => ∃ c, sessions sessionId = some c ∧ c.tunnelIpv6 = some ip
  | _ => True

structure Sound (w : SessionWorld) : Prop where
  ipSound : w.run.manager.ipAllocator.Sound
  ip : Consistent w.run.manager.ipAllocator.addresses w.run.manager.ipAllocator.available
    (ipFamily.lease (fun k => w.run.manager.sessions.lookup k) w.tasks)
    fun ip => w.run.manager.ipToSession.lookup ip
  ipv6Sound : ∀ {a}, w.run.manager.ipv6Allocator = some a → a.Sound
  ipv6 : Consistent w.run.manager.ipv6Addresses w.run.manager.ipv6Available
    (ipv6Family.lease (fun k => w.run.manager.sessions.lookup k) w.tasks)
    fun ip => w.run.manager.ipv6ToSession.lookup ip
  stored : ∀ t ∈ w.tasks, Stored (fun k => w.run.manager.sessions.lookup k) t
  once : ∀ {i j : Nat} {t u : Task} {k : SessionId}, w.tasks[i]? = some t → w.tasks[j]? = some u →
    ipv6Family.pending t = some k → ipv6Family.pending u = some k → i = j

section
variable {w : SessionWorld} {i : Nat} {t t' : Task}

theorem stored_set {sessions : SessionId → Option ClientSession} {tasks : List Task}
    (h : ∀ u ∈ tasks, Stored sessions u) (hnew : Stored sessions t') :
    ∀ u ∈ tasks.set i t', Stored sessions u := by
  intro u hu
  rcases List.mem_or_eq_of_mem_set hu with hold | rfl
  · exact h u hold
  · exact hnew

variable {sessionId : SessionId}

theorem stored_update {sessions : SessionId → Option ClientSession}
    {o : Option ClientSession} (h : Stored sessions t)
    (hne : ∀ k, ipv6Family.pending t = some k → k ≠ sessionId) :
    Stored (update sessions sessionId o) t := by
  cases t with
  | map k ip ipv6 =>
    obtain ⟨c, hc, hrest⟩ := h
    exact ⟨c, (update_of_ne (hne k rfl) _ _).trans hc, hrest⟩
  | mapV6 k ip =>
    obtain ⟨c, hc, hrest⟩ := h
    exact ⟨c, (update_of_ne (hne k rfl) _ _).trans hc, hrest⟩
  | _ => trivial

variable {k : SessionId}

theorem Sound.once_set (h : w.Sound) (ht : w.tasks[i]? = some t)
    (hnew : ∀ k, ipv6Family.pending t' = some k → ¬ipv6Family.PendingElsewhere w.tasks i k)
    {a b : Nat} {u v : Task} (hu : (w.tasks.set i t')[a]? = some u)
    (hv : (w.tasks.set i t')[b]? = some v) (hku : ipv6Family.pending u = some k)
    (hkv : ipv6Family.pending v = some k) : a = b := by
  have hself : (w.tasks.set i t')[i]? = some t' := List.getElem?_set_self (getElem?_eq_some_iff.mp ht).1
  by_cases ha : a = i
  · subst ha
    cases hself.symm.trans hu
    by_contra hb
    rw [List.getElem?_set_ne hb] at hv
    exact hnew k hku ⟨b, v, symm hb, hv, hkv⟩
  · rw [List.getElem?_set_ne (symm ha)] at hu
    by_cases hb : b = i
    · subst hb
      cases hself.symm.trans hv
      exact absurd ⟨a, u, ha, hu, hku⟩ (hnew k hkv)
    · rw [List.getElem?_set_ne (symm hb)] at hv
      exact h.once hu hv hku hkv

theorem Sound.not_pendingElsewhere (h : w.Sound) (ht : w.tasks[i]? = some t)
    (hk : ipv6Family.pending t = some k) : ¬ipv6Family.PendingElsewhere w.tasks i k := by
  rintro ⟨j, u, hne, hj, hu⟩
  exact hne (h.once hj ht hu hk)

structure GoesOn (w : SessionWorld) (i : Nat) (t t' : Task) : Prop where
  at_index : w.tasks[i]? = some t
  pending : ipFamily.pending t' = ipFamily.pending t
  pending6 : ipv6Family.pending t' = ipv6Family.pending t
  stored : Stored (fun k => w.run.manager.sessions.lookup k) t'

theorem Sound.once_goesOn (h : w.Sound) (hgo : GoesOn w i t t') {a b : Nat} {u v : Task}
    (hu : (w.tasks.set i t')[a]? = some u) (hv : (w.tasks.set i t')[b]? = some v)
    (hku : ipv6Family.pending u = some k) (hkv : ipv6Family.pending v = some k) : a = b := by
  refine h.once_set hgo.at_index (fun k' hk' => ?_) hu hv hku hkv
  exact h.not_pendingElsewhere hgo.at_index (hgo.pending6 ▸ hk')

theorem Sound.quiet (h : w.Sound) {t : Task} (t' : Task) (hgo : GoesOn w i t t') (hip : ipFamily.own t' = ipFamily.own t)
    (hipv6 : ipv6Family.own t' = ipv6Family.own t) (n : Nat) (events : List SessionLifecycleEvent) :
    Sound ⟨⟨{ w.run.manager with sessionCount := n }, events⟩, w.tasks.set i t'⟩ where
  ipSound := h.ipSound
  ip := by
    rw [lease_same hgo.at_index hgo.pending hip]
    exact h.ip
  ipv6Sound := h.ipv6Sound
  ipv6 := by
    rw [lease_same hgo.at_index hgo.pending6 hipv6]
    exact h.ipv6
  stored := stored_set h.stored hgo.stored
  once := h.once_goesOn hgo

structure Fresh (t : Task) : Prop where
  own : ipFamily.own t = none
  own6 : ipv6Family.own t = none
  pending : ipFamily.pending t = none
  pending6 : ipv6Family.pending t = none

variable {old : ClientSession}

theorem Sound.takeOut (h : w.Sound) (ht : w.tasks[i]? = some t) (hfresh : Fresh t)
    (hold : w.run.manager.sessions.lookup sessionId = some old)
    (hquiet : some sessionId ∉ w.tasks.map ipv6Family.pending)
    (hnext : t' = .uncount sessionId old ∨ ∃ next, t' = .unmap sessionId old next) :
    Sound ⟨{ w.run with manager := { w.run.manager with sessions := w.run.manager.sessions.erase sessionId } },
      w.tasks.set i t'⟩ := by
  have hown' : ipFamily.own t' = some ⟨old.tunnelIp, sessionId, true⟩ ∧
      ipv6Family.own t' = old.tunnelIpv6.map (fun ip => ⟨ip, sessionId, true⟩) ∧
      ipFamily.pending t' = none ∧ ipv6Family.pending t' = none ∧
      Stored (update (fun k => w.run.manager.sessions.lookup k) sessionId none) t' := by
    rcases hnext with rfl | ⟨next, rfl⟩
    all_goals exact ⟨rfl, rfl, rfl, rfl, trivial⟩
  obtain ⟨hown, hown6, hpending, hpending6, hstored⟩ := hown'
  have hquiet4 : some sessionId ∉ w.tasks.map ipFamily.pending := by
    intro hmem
    obtain ⟨u, hu, hk⟩ := List.mem_map.mp hmem
    exact hquiet (List.mem_map.mpr ⟨u, hu, pending_of_ipFamily hk⟩)
  exact
    { ipSound := h.ipSound
      ip := by
        rw [lookup_erase_eq_update]
        exact moveOut h.ip ht (hpending.trans hfresh.pending.symm) hfresh.own hold hquiet4 hown
      ipv6Sound := h.ipv6Sound
      ipv6 := by
        rw [lookup_erase_eq_update]
        exact moveOut h.ipv6 ht (hpending6.trans hfresh.pending6.symm) hfresh.own6 hold hquiet hown6
      stored := by
        rw [lookup_erase_eq_update]
        refine stored_set (fun u hu => ?_) hstored
        refine stored_update (h.stored u hu) fun k hk => ?_
        rintro rfl
        exact hquiet (List.mem_map.mpr ⟨u, hu, hk⟩)
      once := by
        intro a b u v k hu hv hku hkv
        refine h.once_set ht ?_ hu hv hku hkv
        intro k' hk'
        cases hpending6.symm.trans hk' }

variable {n : NewSession} {ip : Block 4}

theorem Sound.putIn (h : w.Sound) {ipv6 : Option (Block 16)}
    (ht : w.tasks[i]? = some (.insert n ip ipv6))
    (hnone : w.run.manager.sessions.lookup n.sessionId = none) {c : ClientSession} (hip : c.tunnelIp = ip)
    (hipv6 : c.tunnelIpv6 = ipv6) :
    Sound ⟨{ w.run with manager := { w.run.manager with
      sessions := w.run.manager.sessions.insert n.sessionId c } }, w.tasks.set i (.map n.sessionId ip ipv6)⟩ := by
  have hquiet : ∀ u ∈ w.tasks, ∀ k, ipv6Family.pending u = some k → k ≠ n.sessionId := by
    rintro u hu k hk rfl
    have hstored := h.stored u hu
    cases u with
    | map _ _ _ =>
      cases hk
      obtain ⟨c', hc', -⟩ := hstored
      cases hnone.symm.trans hc'
    | mapV6 _ _ =>
      cases hk
      obtain ⟨c', hc', -⟩ := hstored
      cases hnone.symm.trans hc'
    | _ => cases hk
  exact
    { ipSound := h.ipSound
      ip := by
        rw [lookup_insert_eq_update]
        refine moveIn h.ip ht rfl rfl ?_ rfl hnone
        show some _ = (some c.tunnelIp).map _
        rw [hip]
        rfl
      ipv6Sound := h.ipv6Sound
      ipv6 := by
        rw [lookup_insert_eq_update]
        refine moveIn h.ipv6 ht rfl rfl ?_ rfl hnone
        show ipv6.map _ = c.tunnelIpv6.map _
        rw [hipv6]
      stored := by
        rw [lookup_insert_eq_update]
        refine stored_set (fun u hu => stored_update (h.stored u hu) (hquiet u hu)) ?_
        exact ⟨c, update_self .., hip, hipv6⟩
      once := by
        intro a b u v k hu hv hku hkv
        refine h.once_set ht ?_ hu hv hku hkv
        rintro k' hk' ⟨j, u', -, hj, hk⟩
        obtain rfl := Option.some.inj hk'
        exact hquiet u' (List.mem_of_getElem? hj) _ hk rfl }

theorem Sound.onIp (h : w.Sound) {t : Task} (t' : Task) (hgo : GoesOn w i t t')
    (hown6 : ipv6Family.own t' = ipv6Family.own t)
    {a : IpAllocator} (ha : a.Sound)
    {index : Table (Block 4) SessionId}
    (hbooks : Consistent a.addresses a.available
      (update (ipFamily.lease (fun k => w.run.manager.sessions.lookup k) w.tasks) (.inr i) (ipFamily.own t'))
      fun ip => index.lookup ip) :
    Sound ⟨{ w.run with manager := { w.run.manager with ipAllocator := a, ipToSession := index } },
      w.tasks.set i t'⟩ where
  ipSound := ha
  ip := by
    rw [lease_stay hgo.at_index hgo.pending]
    exact hbooks
  ipv6Sound := h.ipv6Sound
  ipv6 := by
    rw [lease_same hgo.at_index hgo.pending6 hown6]
    exact h.ipv6
  stored := stored_set h.stored hgo.stored
  once := h.once_goesOn hgo

theorem Sound.onIpv6 (h : w.Sound) {t : Task} (t' : Task) (hgo : GoesOn w i t t') (hown : ipFamily.own t' = ipFamily.own t)
    {o : Option Ipv6Allocator} (ho : ∀ {a}, o = some a → a.Sound) {index : Table (Block 16) SessionId}
    (hbooks : Consistent ({ w.run.manager with ipv6Allocator := o } : SessionManager).ipv6Addresses
      ({ w.run.manager with ipv6Allocator := o } : SessionManager).ipv6Available
      (update (ipv6Family.lease (fun k => w.run.manager.sessions.lookup k) w.tasks) (.inr i) (ipv6Family.own t'))
      fun ip => index.lookup ip) :
    Sound ⟨{ w.run with manager := { w.run.manager with ipv6Allocator := o, ipv6ToSession := index } },
      w.tasks.set i t'⟩ where
  ipSound := h.ipSound
  ip := by
    rw [lease_same hgo.at_index hgo.pending hown]
    exact h.ip
  ipv6Sound := ho
  ipv6 := by
    rw [lease_stay hgo.at_index hgo.pending6]
    exact hbooks
  stored := stored_set h.stored hgo.stored
  once := h.once_goesOn hgo

theorem Sound.giveIp (h : w.Sound) {t : Task} (t' : Task) (hgo : GoesOn w i t t')
    (hown : ipFamily.own t = some ⟨ip, k, false⟩) (hown' : ipFamily.own t' = none)
    (hown6 : ipv6Family.own t' = ipv6Family.own t) :
    Sound ⟨{ w.run with manager := { w.run.manager with
      ipAllocator := w.run.manager.ipAllocator.release ip } }, w.tasks.set i t'⟩ := by
  have hlease := (lease_task (fun k => w.run.manager.sessions.lookup k) hgo.at_index).trans hown
  obtain ⟨hsound, hsub⟩ := release_sound h.ipSound (h.ip.in_pool hlease) (h.ip.not_free hlease)
  refine h.onIp t' hgo hown6 hsound ?_
  rw [hown', addresses_release]
  exact h.ip.give hlease hsub

theorem Sound.giveIpv6 (h : w.Sound) {t : Task} (t' : Task) (hgo : GoesOn w i t t') {ip : Block 16}
    (hown6 : ipv6Family.own t = some ⟨ip, k, false⟩) (hown6' : ipv6Family.own t' = none)
    (hown : ipFamily.own t' = ipFamily.own t) :
    Sound ⟨{ w.run with manager := { w.run.manager with
      ipv6Allocator := w.run.manager.ipv6Allocator.map (·.release ip) } }, w.tasks.set i t'⟩ := by
  have hlease := (lease_task (fun k => w.run.manager.sessions.lookup k) hgo.at_index).trans hown6
  have hpool := h.ipv6.in_pool hlease
  have hout := h.ipv6.not_free hlease
  have hbooks := h.ipv6
  rw [SessionManager.ipv6Addresses] at hpool hbooks
  rw [SessionManager.ipv6Available] at hout hbooks
  cases ha : w.run.manager.ipv6Allocator with
  | none =>
    rw [ha] at hpool
    exact absurd hpool (Set.notMem_empty _)
  | some a =>
    rw [ha] at hpool hout hbooks
    obtain ⟨hsound, havail⟩ := Ipv6Allocator.release_spec (h.ipv6Sound ha) hpool hout
    refine h.onIpv6 t' hgo hown ?_ ?_
    · intro a' ha'
      obtain rfl := Option.some.inj ha'
      exact hsound
    · rw [hown6']
      show Consistent (a.release ip).addresses (a.release ip).available _ _
      rw [Ipv6Allocator.addresses_release]
      exact hbooks.give hlease havail.subset

variable {next : Option NewSession}

theorem Sound.unmap (h : w.Sound) (ht : w.tasks[i]? = some (.unmap sessionId old next)) :
    Sound ⟨{ w.run with manager := { w.run.manager with
      ipToSession := w.run.manager.ipToSession.erase old.tunnelIp } },
      w.tasks.set i (.release sessionId old next)⟩ := by
  refine h.onIp (.release sessionId old next) ⟨ht, rfl, rfl, trivial⟩ rfl h.ipSound ?_
  rw [lookup_erase_eq_update]
  exact h.ip.unlist (lease_task _ ht)

theorem Sound.unmapV6 (h : w.Sound) {ip : Block 16} (ht : w.tasks[i]? = some (.unmapV6 sessionId ip next)) :
    Sound ⟨{ w.run with manager := { w.run.manager with
      ipv6ToSession := w.run.manager.ipv6ToSession.erase ip } },
      w.tasks.set i (.releaseV6 sessionId ip next)⟩ := by
  refine h.onIpv6 (.releaseV6 sessionId ip next) ⟨ht, rfl, rfl, trivial⟩ rfl h.ipv6Sound ?_
  rw [lookup_erase_eq_update]
  exact h.ipv6.unlist (lease_task _ ht)

theorem Sound.release (h : w.Sound) (ht : w.tasks[i]? = some (.release sessionId old next)) (picker : Picker Nat) :
    Sound ⟨((Task.release sessionId old next).step picker w.run).1,
      w.tasks.set i ((Task.release sessionId old next).step picker w.run).2⟩ := by
  rw [Task.step]
  cases hv6 : old.tunnelIpv6 with
  | none =>
    refine h.giveIp (.emitRemoved sessionId next) ⟨ht, rfl, rfl, trivial⟩ rfl rfl ?_
    show none = old.tunnelIpv6.map _
    rw [hv6]
    rfl
  | some ip =>
    refine h.giveIp (.unmapV6 sessionId ip next) ⟨ht, rfl, rfl, trivial⟩ rfl rfl ?_
    show some _ = old.tunnelIpv6.map _
    rw [hv6]
    rfl

theorem Sound.allocate (h : w.Sound) (ht : w.tasks[i]? = some (.allocate n)) (picker : Picker Nat) :
    Sound ⟨((Task.allocate n).step picker w.run).1, w.tasks.set i ((Task.allocate n).step picker w.run).2⟩ := by
  rw [Task.step]
  rcases allocate_spec h.ipSound picker with heq | ⟨a, ip, heq, hsound, haddr, hmem, havail⟩
  · rw [heq]
    exact h.quiet .unreserve ⟨ht, rfl, rfl, trivial⟩ rfl rfl _ _
  · rw [heq]
    refine h.onIp (.allocateV6 n ip) ⟨ht, rfl, rfl, trivial⟩ rfl hsound ?_
    rw [haddr, havail]
    exact h.ip.take (lease_task _ ht) hmem (h.ipSound.available_subset hmem) n.sessionId

theorem Sound.allocateV6 (h : w.Sound) (ht : w.tasks[i]? = some (.allocateV6 n ip)) (picker : Picker Nat) :
    Sound ⟨((Task.allocateV6 n ip).step picker w.run).1,
      w.tasks.set i ((Task.allocateV6 n ip).step picker w.run).2⟩ := by
  rw [Task.step]
  cases ha : w.run.manager.ipv6Allocator with
  | none => exact h.quiet (.insert n ip none) ⟨ht, rfl, rfl, trivial⟩ rfl rfl _ _
  | some a =>
    have hsound := h.ipv6Sound ha
    have hbooks := h.ipv6
    rw [SessionManager.ipv6Addresses, SessionManager.ipv6Available, ha] at hbooks
    dsimp only [Option.map_some]
    rcases Ipv6Allocator.allocate_spec hsound picker with heq | ⟨a', ip6, heq, hsound', haddr, hmem, havail⟩
    · rw [heq]
      dsimp only
      rw [← ha]
      exact h.quiet (.giveBack n.sessionId ip) ⟨ht, rfl, rfl, trivial⟩ rfl rfl _ _
    · rw [heq]
      refine h.onIpv6 (.insert n ip (some ip6)) ⟨ht, rfl, rfl, trivial⟩ rfl ?_ ?_
      · intro b hb
        cases hb
        exact hsound'
      · show Consistent a'.addresses a'.available _ _
        rw [haddr, havail]
        exact hbooks.take (lease_task _ ht) hmem (hsound.available_subset hmem) n.sessionId

theorem Sound.map (h : w.Sound) {ipv6 : Option (Block 16)}
    (ht : w.tasks[i]? = some (.map sessionId ip ipv6)) (picker : Picker Nat) :
    Sound ⟨((Task.map sessionId ip ipv6).step picker w.run).1,
      w.tasks.set i ((Task.map sessionId ip ipv6).step picker w.run).2⟩ := by
  obtain ⟨c, hc, hip, hipv6⟩ := h.stored _ (List.mem_of_getElem? ht)
  have honce : ¬ipv6Family.PendingElsewhere w.tasks i sessionId := h.not_pendingElsewhere ht rfl
  have honce4 : ¬ipFamily.PendingElsewhere w.tasks i sessionId := by
    rintro ⟨j, u, hne, hj, hk⟩
    exact honce ⟨j, u, hne, hj, pending_of_ipFamily hk⟩
  cases ipv6 with
  | none =>
    exact
      { ipSound := h.ipSound
        ip := by
          rw [Task.step]
          rw [lookup_insert_eq_update]
          exact enter h.ip ht rfl rfl rfl rfl honce4 hc (congrArg some hip)
        ipv6Sound := h.ipv6Sound
        ipv6 := enter h.ipv6 ht rfl rfl rfl rfl honce hc hipv6
        stored := stored_set h.stored trivial
        once := h.once_set ht fun k' hk' => by cases hk' }
  | some ip6 =>
    have hsame : ipv6Family.lease (fun k => w.run.manager.sessions.lookup k)
        (w.tasks.set i (.mapV6 sessionId ip6)) =
        ipv6Family.lease (fun k => w.run.manager.sessions.lookup k) w.tasks := lease_same ht rfl rfl
    exact
      { ipSound := h.ipSound
        ip := by
          rw [Task.step]
          rw [lookup_insert_eq_update]
          exact enter h.ip ht rfl rfl rfl rfl honce4 hc (congrArg some hip)
        ipv6Sound := h.ipv6Sound
        ipv6 := by
          rw [Task.step]
          rw [hsame]
          exact h.ipv6
        stored := stored_set h.stored ⟨c, hc, hipv6⟩
        once := by
          intro a b u v k hu hv hku hkv
          refine h.once_set ht (fun k' hk' => ?_) hu hv hku hkv
          obtain rfl := Option.some.inj hk'
          exact honce }

theorem Sound.mapV6 (h : w.Sound) {ip : Block 16} (ht : w.tasks[i]? = some (.mapV6 sessionId ip)) :
    Sound ⟨{ w.run with manager := { w.run.manager with
      ipv6ToSession := w.run.manager.ipv6ToSession.insert ip sessionId } },
      w.tasks.set i (.emitCreated sessionId)⟩ := by
  obtain ⟨c, hc, hip⟩ := h.stored _ (List.mem_of_getElem? ht)
  have hsame : ipFamily.lease (fun k => w.run.manager.sessions.lookup k)
      (w.tasks.set i (.emitCreated sessionId)) =
      ipFamily.lease (fun k => w.run.manager.sessions.lookup k) w.tasks := lease_same ht rfl rfl
  exact
    { ipSound := h.ipSound
      ip := by
        rw [hsame]
        exact h.ip
      ipv6Sound := h.ipv6Sound
      ipv6 := by
        rw [lookup_insert_eq_update]
        exact enter h.ipv6 ht rfl rfl rfl rfl (h.not_pendingElsewhere ht rfl) hc hip
      stored := stored_set h.stored trivial
      once := h.once_set ht fun k' hk' => by cases hk' }

theorem Sound.advance (h : w.Sound) (ht : w.tasks[i]? = some t) {picker : Picker Nat}
    (hquiet : w.Undisturbed (.advance i picker)) :
    Sound ⟨(t.step picker w.run).1, w.tasks.set i (t.step picker w.run).2⟩ := by
  have hquiet : w.Allows t := hquiet t ht
  cases t with
  | create n =>
    rw [Task.step]
    cases hold : w.run.manager.sessions.lookup n.sessionId with
    | none => exact h.quiet (.reserve n) ⟨ht, rfl, rfl, trivial⟩ rfl rfl _ _
    | some old => exact h.takeOut ht ⟨rfl, rfl, rfl, rfl⟩ hold hquiet (.inr ⟨some n, rfl⟩)
  | remove sessionId =>
    rw [Task.step]
    cases hold : w.run.manager.sessions.lookup sessionId with
    | none => exact h.quiet .done ⟨ht, rfl, rfl, trivial⟩ rfl rfl _ _
    | some old => exact h.takeOut ht ⟨rfl, rfl, rfl, rfl⟩ hold hquiet (.inl rfl)
  | uncount sessionId old => exact h.quiet (.unmap sessionId old none) ⟨ht, rfl, rfl, trivial⟩ rfl rfl _ _
  | unmap sessionId old next => exact h.unmap ht
  | release sessionId old next => exact h.release ht picker
  | unmapV6 sessionId ip next => exact h.unmapV6 ht
  | releaseV6 sessionId ip next => exact h.giveIpv6 (.emitRemoved sessionId next) ⟨ht, rfl, rfl, trivial⟩ rfl rfl rfl
  | emitRemoved sessionId next =>
    cases next with
    | none => exact h.quiet .done ⟨ht, rfl, rfl, trivial⟩ rfl rfl _ _
    | some n => exact h.quiet (.uncountReplaced n) ⟨ht, rfl, rfl, trivial⟩ rfl rfl _ _
  | uncountReplaced n => exact h.quiet (.reserve n) ⟨ht, rfl, rfl, trivial⟩ rfl rfl _ _
  | reserve n =>
    rw [Task.step]
    split
    · exact h.quiet .unreserve ⟨ht, rfl, rfl, trivial⟩ rfl rfl _ _
    · exact h.quiet (.allocate n) ⟨ht, rfl, rfl, trivial⟩ rfl rfl _ _
  | unreserve => exact h.quiet .done ⟨ht, rfl, rfl, trivial⟩ rfl rfl _ _
  | allocate n => exact h.allocate ht picker
  | allocateV6 n ip => exact h.allocateV6 ht picker
  | giveBack sessionId ip => exact h.giveIp .unreserve ⟨ht, rfl, rfl, trivial⟩ rfl rfl rfl
  | insert n ip ipv6 => exact h.putIn ht hquiet rfl rfl
  | map sessionId ip ipv6 => exact h.map ht picker
  | mapV6 sessionId ip => exact h.mapV6 ht
  | emitCreated sessionId => exact h.quiet .done ⟨ht, rfl, rfl, trivial⟩ rfl rfl _ _
  | done => exact h.quiet .done ⟨ht, rfl, rfl, trivial⟩ rfl rfl _ _

theorem Sound.call (h : w.Sound) (hfresh : Fresh t)
    (hstored : Stored (fun k => w.run.manager.sessions.lookup k) t) : Sound ⟨w.run, w.tasks ++ [t]⟩ where
  ipSound := h.ipSound
  ip := by
    rw [lease_append hfresh.own hfresh.pending]
    exact h.ip
  ipv6Sound := h.ipv6Sound
  ipv6 := by
    rw [lease_append hfresh.own6 hfresh.pending6]
    exact h.ipv6
  stored := by
    intro u hu
    rcases List.mem_append.mp hu with hu | hu
    · exact h.stored u hu
    · obtain rfl := List.mem_singleton.mp hu
      exact hstored
  once := by
    -- the new task has no session pending
    have hold : ∀ {a : Nat} {u : Task} {k : SessionId}, (w.tasks ++ [t])[a]? = some u →
        ipv6Family.pending u = some k → w.tasks[a]? = some u := by
      intro a u k hu hk
      rcases lt_or_ge a w.tasks.length with hlt | hge
      · rwa [List.getElem?_append_left hlt] at hu
      · rw [List.getElem?_append_right hge] at hu
        obtain rfl := List.mem_singleton.mp (List.mem_of_getElem? hu)
        cases hfresh.pending6.symm.trans hk
    intro a b u v k hu hv hku hkv
    exact h.once (hold hu hku) (hold hv hkv) hku hkv

theorem Sound.step (w : SessionWorld) (e : SessionEvent) (h : w.Sound) (hquiet : w.Undisturbed e) :
    (w.step e).Sound := by
  cases e with
  | create n => exact h.call ⟨rfl, rfl, rfl, rfl⟩ trivial
  | remove sessionId => exact h.call ⟨rfl, rfl, rfl, rfl⟩ trivial
  | advance i picker =>
    rw [SessionWorld.step]
    cases ht : w.tasks[i]? with
    | none => exact h
    | some t => exact h.advance ht hquiet

theorem sound_start {base : Block 4} {prefixLen : UInt8} {m : SessionManager}
    (h : SessionManager.IsNew base prefixLen m) : Sound ⟨⟨m, []⟩, []⟩ := by
  have hlease : ∀ {α : Type} (F : Family α), F.lease (fun k => m.sessions.lookup k) [] = fun _ => none := by
    intro α F
    have hnone : ∀ k, m.sessions.lookup k = none := by
      intro k
      cases h with
      | ipv4 => rfl
      | dualStack => rfl
    funext x
    cases x with
    | inl k =>
      show F.leaseOf _ k (m.sessions.lookup k) = none
      rw [hnone]
      rfl
    | inr j => rfl
  have hmaps : (fun ip => m.ipToSession.lookup ip) = (fun _ => none) ∧
      (fun ip => m.ipv6ToSession.lookup ip) = fun _ => none := by
    cases h with
    | ipv4 => exact ⟨rfl, rfl⟩
    | dualStack => exact ⟨rfl, rfl⟩
  exact
    { ipSound := by
        cases h with
        | ipv4 => exact sound_new ..
        | dualStack => exact sound_new ..
      ip := by
        rw [hlease, hmaps.1]
        exact consistent_empty ..
      ipv6Sound := by
        intro a ha
        cases h with
        | ipv4 => cases ha
        | dualStack =>
          cases ha
          exact Ipv6Allocator.sound_new ..
      ipv6 := by
        rw [hlease, hmaps.2]
        exact consistent_empty ..
      stored := fun _ ht => absurd ht List.not_mem_nil
      once := fun ht => nomatch ht }

end

/-- The reverse maps are the inverses of the sessions' addresses, and no released address is held. -/
structure Exact (m : SessionManager) : Prop where
  ip_map : ∀ ip k, m.ipToSession.lookup ip = some k ↔ ∃ c, m.sessions.lookup k = some c ∧ c.tunnelIp = ip
  ipv6_map : ∀ ip k, m.ipv6ToSession.lookup ip = some k ↔ ∃ c, m.sessions.lookup k = some c ∧ c.tunnelIpv6 = some ip
  ip_released : ∀ o ∈ m.ipAllocator.pool.released, ∀ k c, m.sessions.lookup k = some c →
    c.tunnelIp ≠ m.ipAllocator.offsetToIp o
  ipv6_released : ∀ a, m.ipv6Allocator = some a → ∀ o ∈ a.pool.released, ∀ k c,
    m.sessions.lookup k = some c → ∀ ip, c.tunnelIpv6 = some ip → a.offsetToIp o ≠ some ip

theorem Sound.exact {w : SessionWorld} (h : w.Sound) (hidle : w.Idle) : Exact w.run.manager := by
  have hdone : ∀ u ∈ w.tasks, ipFamily.own u = none ∧ ipFamily.pending u = none ∧
      ipv6Family.own u = none ∧ ipv6Family.pending u = none := by
    intro u hu
    obtain rfl := hidle u hu
    exact ⟨rfl, rfl, rfl, rfl⟩
  have hip : ∀ ip k, w.run.manager.ipToSession.lookup ip = some k ↔
      ∃ c, w.run.manager.sessions.lookup k = some c ∧ c.tunnelIp = ip := by
    intro ip k
    have hindex : w.run.manager.ipToSession.lookup ip = some k ↔ _ :=
      index_iff_of_idle h.ip fun u hu => ⟨(hdone u hu).1, (hdone u hu).2.1⟩
    simpa only [ipFamily, Option.some.injEq] using hindex
  have hipv6 : ∀ ip k, w.run.manager.ipv6ToSession.lookup ip = some k ↔
      ∃ c, w.run.manager.sessions.lookup k = some c ∧ c.tunnelIpv6 = some ip := fun ip k =>
    index_iff_of_idle h.ipv6 fun u hu => ⟨(hdone u hu).2.2.1, (hdone u hu).2.2.2⟩
  refine ⟨hip, hipv6, ?_, ?_⟩
  · intro o ho k c hc hheld
    obtain ⟨x, l, hl, haddr, -⟩ := h.ip.index_iff.mp ((hip c.tunnelIp k).mpr ⟨c, hc, rfl⟩)
    refine h.ip.not_free hl ⟨o, .inl ho, ?_⟩
    rw [haddr, hheld]
  · intro a ha o ho k c hc ip hip6 heq
    obtain ⟨x, l, hl, haddr, -⟩ := h.ipv6.index_iff.mp ((hipv6 ip k).mpr ⟨c, hc, hip6⟩)
    refine h.ipv6.not_free hl ?_
    rw [SessionManager.ipv6Available, ha]
    exact ⟨o, .inl ho, heq.trans (congrArg some haddr.symm)⟩

/-- In every run of interleaved calls that meets the condition, the maps and pools are exact whenever no
call is in progress. -/
theorem idle_maps_exact (base : Block 4) (prefixLen : UInt8) (m : SessionManager)
    (hnew : SessionManager.IsNew base prefixLen m) (events : List SessionEvent)
    (hquiet : Meets Undisturbed step ⟨⟨m, []⟩, []⟩ events)
    (hidle : (exec step ⟨⟨m, []⟩, []⟩ events).Idle) :
    Exact (exec step ⟨⟨m, []⟩, []⟩ events).run.manager :=
  (exec_invariant_of Sound.step events ⟨⟨m, []⟩, []⟩ (sound_start hnew) hquiet).exact hidle

end SessionWorld

namespace StepsSample
open LifecycleSample

def newSession (sessionId : SessionId) : NewSession := ⟨.new sessionId keys 0, addr, .level3, 0⟩

def schedule (order : List Nat) : List SessionEvent := order.map fun i => .advance i .least

def pool : SessionManager :=
  (SessionManager.new (ipv4 10 0 0 0) 24 (ipv4 10 0 0 1) 60000 10).withRateLimits 0 0

def removedEarly : List SessionEvent :=
  [.create (newSession 7), .remove 7] ++ schedule [0, 0, 0, 0, 0, 1, 1, 1, 1, 1, 0, 0]

def createdTwice : List SessionEvent :=
  [.create (newSession 7), .create (newSession 7)] ++ schedule [0, 1, 0, 0, 0, 0, 0, 0, 1, 1, 1, 1, 1, 1]

/-- An entry of a dead session for a released address is left, and one for an address that the session does not hold.
-/
theorem interleaving_breaks_maps :
    ((exec SessionWorld.step ⟨⟨pool, []⟩, []⟩ removedEarly).Idle ∧
      (exec SessionWorld.step ⟨⟨pool, []⟩, []⟩ removedEarly).run.manager.sessions.lookup 7 = none ∧
      (exec SessionWorld.step ⟨⟨pool, []⟩, []⟩ removedEarly).run.manager.ipToSession.lookup
        ⟨[10, 0, 0, 2], rfl⟩ = some 7 ∧
      2 ∈ (exec SessionWorld.step ⟨⟨pool, []⟩, []⟩ removedEarly).run.manager.ipAllocator.pool.released) ∧
    (exec SessionWorld.step ⟨⟨pool, []⟩, []⟩ createdTwice).Idle ∧
      (exec SessionWorld.step ⟨⟨pool, []⟩, []⟩ createdTwice).run.manager.ipToSession.lookup
        ⟨[10, 0, 0, 2], rfl⟩ = some 7 ∧
      ((exec SessionWorld.step ⟨⟨pool, []⟩, []⟩ createdTwice).run.manager.sessions.lookup 7).map
        (·.tunnelIp) = some ⟨[10, 0, 0, 3], rfl⟩ := by
  decide +kernel

def removedLater : List SessionEvent :=
  [.create (newSession 7), .remove 7] ++ schedule [0, 0, 0, 0, 0, 0, 1, 0, 1, 1, 1, 1]

theorem idle_maps_exact_removed :
    SessionWorld.Exact (exec SessionWorld.step ⟨⟨pool, []⟩, []⟩ removedLater).run.manager := by
  exact SessionWorld.idle_maps_exact ⟨[10, 0, 0, 0], rfl⟩ 24 pool (.ipv4 ⟨[10, 0, 0, 1], rfl⟩ 60000 10 0 0)
    removedLater (by decide +kernel) (by decide +kernel)

end StepsSample

end HpnVpn
