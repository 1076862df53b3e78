import HpnVpn.RelayBinding

/-! The relay's session table and its counters per client address, under a lock each, with the threads interleaved.
Binding and sweeping take the second lock inside the first, removing after it. -/
namespace HpnVpn.Relay
open Wire Tables Runs

/-! ### Counters -/

/-- The count kept for an address; none is 0. -/
def tally (counts : Table IpAddr Nat) (ip : IpAddr) : Nat := (counts.lookup ip).getD 0

def Positive (counts : Table IpAddr Nat) : Prop := ∀ ip, counts.lookup ip ≠ some 0

namespace SessionManager
variable {m : SessionManager} {counts : Table IpAddr Nat} {ip ip' : IpAddr}

theorem tally_insert (n : Nat) : tally (counts.insert ip n) ip' = if ip' = ip then n else tally counts ip' := by
  unfold tally
  by_cases hsame : ip' = ip
  · rw [if_pos hsame, hsame, AList.lookup_insert]
    rfl
  · rw [if_neg hsame, AList.lookup_insert_ne hsame]

theorem positive_insert (h : Positive counts) {n : Nat} (hn : n ≠ 0) : Positive (counts.insert ip n) := by
  intro ip'
  by_cases hsame : ip' = ip
  · rw [hsame, AList.lookup_insert]
    exact fun hsome => hn (Option.some.inj hsome)
  · rw [AList.lookup_insert_ne hsame]
    exact h ip'

theorem positive_erase (h : Positive counts) : Positive (counts.erase ip) := by
  intro ip'
  by_cases hsame : ip' = ip
  · rw [hsame, AList.lookup_erase]
    nofun
  · rw [AList.lookup_erase_ne hsame]
    exact h ip'

theorem tally_decrementCount (counts : Table IpAddr Nat) (ip ip' : IpAddr) :
    tally (decrementCount counts ip) ip' = tally counts ip' - if ip = ip' then 1 else 0 := by
  unfold decrementCount
  cases hlookup : counts.lookup ip with
  | none =>
    dsimp only
    split
    · rename_i heq
      rw [tally, ← heq, hlookup]
      rfl
    · rfl
  | some count =>
    have hcount : tally counts ip = count := by
      rw [tally, hlookup]
      rfl
    dsimp only
    by_cases hsame : ip = ip'
    · subst hsame
      rw [if_pos rfl, hcount]
      split
      · rename_i hzero
        rw [tally, AList.lookup_erase, hzero]
        rfl
      · rw [tally_insert, if_pos rfl]
    · rw [if_neg hsame]
      split
      · rw [tally, AList.lookup_erase_ne (Ne.symm hsame)]
        rfl
      · rw [tally_insert, if_neg (Ne.symm hsame)]
        rfl

theorem positive_decrementCount (h : Positive counts) (ip : IpAddr) : Positive (decrementCount counts ip) := by
  unfold decrementCount
  split
  · exact h
  split
  · exact positive_erase h
  · rename_i hzero
    exact positive_insert h hzero

theorem tally_foldl_decrementCount (ips : List IpAddr) (counts : Table IpAddr Nat) (ip : IpAddr) :
    tally (ips.foldl decrementCount counts) ip = tally counts ip - ips.count ip := by
  induction ips generalizing counts with
  | nil => rfl
  | cons ip' ips ih =>
    rw [List.foldl_cons, ih, tally_decrementCount, List.count_cons, Nat.sub_sub, Nat.add_comm]
    simp only [beq_iff_eq]

theorem positive_foldl_decrementCount (h : Positive counts) (ips : List IpAddr) :
    Positive (ips.foldl decrementCount counts) := by
  induction ips generalizing counts with
  | nil => exact h
  | cons ip ips ih => exact ih (positive_decrementCount h ip)

structure Counted (m : SessionManager) (ip : IpAddr) (counts : Table IpAddr Nat) (charged : Bool) : Prop where
  positive : Positive counts
  tally_eq : ∀ ip', tally counts ip' = tally m.ipSessionCounts ip' + if charged = true ∧ ip = ip' then 1 else 0
  below : charged = true → tally m.ipSessionCounts ip < m.maxSessionsPerIp

theorem incrementCount_counted (h : Positive m.ipSessionCounts) (hcap : 0 < m.maxSessionsPerIp) (ip : IpAddr) :
    ∃ counts charged, m.incrementCount ip = ({ m with ipSessionCounts := counts }, charged) ∧
      Counted m ip counts charged := by
  unfold incrementCount
  split
  · exact ⟨m.ipSessionCounts, false, rfl, h, fun _ => by simp, nofun⟩
  change ∃ counts charged, (if m.maxSessionsPerIp ≤ tally m.ipSessionCounts ip then
      ({ m with ipSessionCounts := m.ipSessionCounts.insert ip (tally m.ipSessionCounts ip) }, false)
    else ({ m with ipSessionCounts := m.ipSessionCounts.insert ip (tally m.ipSessionCounts ip + 1) }, true)) = _ ∧ _
  by_cases hfull : m.maxSessionsPerIp ≤ tally m.ipSessionCounts ip
  · rw [if_pos hfull]
    refine ⟨_, false, rfl, positive_insert h (by omega), ?_, nofun⟩
    intro ip'
    rw [tally_insert]
    split
    · rename_i hsame
      simp [hsame]
    · simp
  · rw [if_neg hfull]
    refine ⟨_, true, rfl, positive_insert h (by omega), ?_, fun _ => Nat.lt_of_not_le hfull⟩
    intro ip'
    rw [tally_insert]
    by_cases hsame : ip' = ip
    · simp [hsame]
    · simp [hsame, Ne.symm hsame]

/-! ### Lock sections -/

/-- The part of a sweep up to the counters: the live sessions are retained, and the addresses of the others returned. -/
def retainLive (m : SessionManager) (now : Nat) : SessionManager × List IpAddr :=
  ({ m with sessions := retain m.sessions fun _ session => !session.isExpired m.timeoutMs now },
    (m.sessions.entries.filter fun entry => entry.2.isExpired m.timeoutMs now).map fun entry =>
      entry.2.clientAddr.ip)

def releaseCounts (m : SessionManager) (removed : List IpAddr) : SessionManager :=
  { m with ipSessionCounts := removed.foldl decrementCount m.ipSessionCounts }

def insertSession (m : SessionManager) (sessionId : SessionId) (clientAddr : SocketAddr) (now : Nat) : SessionManager :=
  { m with
    sessions := m.sessions.insert sessionId (.withRateLimit clientAddr m.rateLimitPps m.rateLimitBps now) }

/-- How many sessions an address has. -/
def boundTo (m : SessionManager) (ip : IpAddr) : Nat :=
  total (fun session => if session.clientAddr.ip = ip then 1 else 0) m.sessions

theorem sum_indicator (ips : List IpAddr) (ip : IpAddr) :
    (ips.map fun ip' => if ip' = ip then 1 else 0).sum = ips.count ip := by
  induction ips with
  | nil => rfl
  | cons ip' ips ih =>
    rw [List.map_cons, List.sum_cons, ih, List.count_cons, Nat.add_comm]
    simp only [beq_iff_eq]

theorem boundTo_retainLive (m : SessionManager) (now : Nat) (ip : IpAddr) :
    (m.retainLive now).1.boundTo ip + (m.retainLive now).2.count ip = m.boundTo ip := by
  have hsplit := @total_retain_add SessionId RelaySession m.sessions
    (fun session => if session.clientAddr.ip = ip then 1 else 0) fun _ session => !session.isExpired m.timeoutMs now
  rw [← sum_indicator, retainLive, List.map_map]
  simp only [Bool.not_not] at hsplit
  exact hsplit

/-- Every counter covers the entries of its address and the charges that are owed, within the limits. -/
structure Ledger (m : SessionManager) (owed : List IpAddr) : Prop where
  positive : Positive m.ipSessionCounts
  tally_eq : ∀ ip, tally m.ipSessionCounts ip = m.boundTo ip + owed.count ip
  tally_le : ∀ ip, tally m.ipSessionCounts ip ≤ m.maxSessionsPerIp
  sessions_le : m.sessions.keys.length ≤ m.maxSessions
  cap_pos : 0 < m.maxSessionsPerIp

namespace Ledger
variable {owed owed' removed : List IpAddr} {session : RelaySession} {sessionId : SessionId}

theorem perm (h : Ledger m owed) (hperm : owed.Perm owed') : Ledger m owed' :=
  { h with tally_eq := fun ip => by rw [h.tally_eq, hperm.count_eq] }

theorem retainLive (h : Ledger m owed) (now : Nat) : Ledger (m.retainLive now).1 ((m.retainLive now).2 ++ owed) where
  positive := h.positive
  tally_eq ip := by
    have hbound : (m.retainLive now).1.boundTo ip + (m.retainLive now).2.count ip = m.boundTo ip :=
      boundTo_retainLive m now ip
    have htally := h.tally_eq ip
    rw [List.count_append]
    change tally m.ipSessionCounts ip = _
    omega
  tally_le := h.tally_le
  sessions_le := by
    have hkept : (m.retainLive now).1.sessions.keys.length ≤ m.sessions.keys.length :=
      (List.filter_sublist.map _).length_le
    exact hkept.trans h.sessions_le
  cap_pos := h.cap_pos

theorem releaseCounts (h : Ledger m (removed ++ owed)) : Ledger (m.releaseCounts removed) owed where
  positive := positive_foldl_decrementCount h.positive removed
  tally_eq ip := by
    have htally := h.tally_eq ip
    have hreleased := tally_foldl_decrementCount removed m.ipSessionCounts ip
    rw [List.count_append] at htally
    change tally (removed.foldl decrementCount m.ipSessionCounts) ip = m.boundTo ip + owed.count ip
    omega
  tally_le ip := by
    have hle := h.tally_le ip
    have hreleased := tally_foldl_decrementCount removed m.ipSessionCounts ip
    change tally (removed.foldl decrementCount m.ipSessionCounts) ip ≤ m.maxSessionsPerIp
    omega
  sessions_le := h.sessions_le
  cap_pos := h.cap_pos

theorem incrementCount (h : Ledger m owed) (ip : IpAddr) :
    ∃ counts charged, m.incrementCount ip = ({ m with ipSessionCounts := counts }, charged) ∧
      Ledger { m with ipSessionCounts := counts } (if charged then ip :: owed else owed) := by
  obtain ⟨counts, charged, heq, hcounted⟩ := incrementCount_counted h.positive h.cap_pos ip
  refine ⟨counts, charged, heq, hcounted.positive, ?_, ?_, h.sessions_le, h.cap_pos⟩
  · intro ip'
    have htally := h.tally_eq ip'
    have hnew := hcounted.tally_eq ip'
    change tally counts ip' = m.boundTo ip' + _
    cases charged with
    | false => simp_all
    | true =>
      rw [if_pos rfl, List.count_cons]
      simp only [beq_iff_eq, true_and] at hnew ⊢
      omega
  · intro ip'
    have hle := h.tally_le ip'
    have hnew := hcounted.tally_eq ip'
    change tally counts ip' ≤ m.maxSessionsPerIp
    split at hnew
    · rename_i hcharged
      have hbelow := hcounted.below hcharged.1
      rw [hcharged.2] at hbelow
      omega
    · omega

theorem insertSession {clientAddr : SocketAddr} (h : Ledger m (clientAddr.ip :: owed)) {now : Nat}
    (hfree : m.sessions.lookup sessionId = none) (hroom : m.sessions.keys.length < m.maxSessions) :
    Ledger (m.insertSession sessionId clientAddr now) owed where
  positive := h.positive
  tally_eq ip := by
    have htally := h.tally_eq ip
    rw [List.count_cons] at htally
    have hbound : (m.insertSession sessionId clientAddr now).boundTo ip =
        m.boundTo ip + if clientAddr.ip = ip then 1 else 0 := by
      unfold boundTo SessionManager.insertSession
      rw [total_insert, erase_of_lookup hfree]
      rfl
    rw [hbound]
    change tally m.ipSessionCounts ip = _
    simp only [beq_iff_eq] at htally
    omega
  tally_le := h.tally_le
  sessions_le := by
    have hlength : (m.insertSession sessionId clientAddr now).sessions.keys.length = m.sessions.keys.length + 1 :=
      keys_length_insert hfree _
    rw [hlength]
    exact hroom
  cap_pos := h.cap_pos

theorem erase (h : Ledger m owed) (hsession : m.sessions.lookup sessionId = some session) :
    Ledger { m with sessions := m.sessions.erase sessionId } (session.clientAddr.ip :: owed) where
  positive := h.positive
  tally_eq ip := by
    have htally := h.tally_eq ip
    have hbound := total_erase (fun session => if session.clientAddr.ip = ip then 1 else 0) hsession
    unfold boundTo at htally ⊢
    rw [List.count_cons]
    simp only [beq_iff_eq]
    omega
  tally_le := h.tally_le
  sessions_le := (keys_length_erase_le m.sessions sessionId).trans h.sessions_le
  cap_pos := h.cap_pos

theorem onEntry {β : Type} {f : RelaySession → RelaySession × β} {absent : β} (h : Ledger m owed)
    (hf : ∀ session, SameClient session (f session).1) :
    Ledger { m with sessions := (onEntry m.sessions sessionId f absent).1 } owed where
  positive := h.positive
  tally_eq ip := by
    rw [h.tally_eq ip]
    unfold boundTo
    rw [total_onEntry]
    intro session
    rw [hf session]
  tally_le := h.tally_le
  sessions_le := by
    rw [keys_onEntry]
    exact h.sessions_le
  cap_pos := h.cap_pos

end Ledger

end SessionManager

/-- What the holder of the table's lock does next: charge an address, insert, or take what a sweep removed off the
counters. -/
inductive Section
  | count (sessionId : SessionId) (clientAddr : SocketAddr)
  | insert (sessionId : SessionId) (clientAddr : SocketAddr)
  | release (removed : List IpAddr) (next : Option (SessionId × SocketAddr))

def Section.owed : Section → List IpAddr
  | .count .. => []
  | .insert _ clientAddr => [clientAddr.ip]
  | .release removed _ => removed

def Section.Sound (m : SessionManager) : Section → Prop
  | .count sessionId _ => m.sessions.lookup sessionId = none ∧ m.sessions.keys.length < m.maxSessions
  | .insert sessionId _ => m.sessions.lookup sessionId = none ∧ m.sessions.keys.length < m.maxSessions
  | .release _ none => True
  | .release _ (some (sessionId, _)) => m.sessions.lookup sessionId = none

/-- The manager between two lock sections; `removals` are the addresses of removals that have yet to take the counters'
lock. -/
structure Accounts where
  manager : SessionManager
  held : Option Section
  removals : List IpAddr

/-- What happens under one lock; calls are cut where they release it. -/
inductive LockStep
  | bind (sessionId : SessionId) (clientAddr : SocketAddr) (now : Nat)
  | sweep (now : Nat)
  | proceed (now : Nat)
  | remove (sessionId : SessionId)
  | settle (i : Nat)
  | clientPacket (accrue : Accrual) (sessionId : SessionId) (clientAddr : SocketAddr) (now bytes : Nat)
  | upstreamPacket (sessionId : SessionId) (now bytes : Nat)

namespace Accounts

def start (timeoutMs maxSessions : Nat) (rateLimitPps : UInt32) (rateLimitBps : UInt64) : Accounts :=
  ⟨.withRateLimits timeoutMs maxSessions rateLimitPps rateLimitBps, none, []⟩

/-- `get_or_create` under the write lock, up to its first use of the counters. -/
def bind (m : SessionManager) (sessionId : SessionId) (clientAddr : SocketAddr) (now : Nat) :
    SessionManager × Option Section :=
  match m.sessions.lookup sessionId with
  | some session =>
    -- the entry may have been made since it was looked for under the read lock
    if session.clientAddr ≠ clientAddr then (m, none)
    else ({ m with sessions := (onEntry m.sessions sessionId (fun s => (s.touch now, ())) ()).1 }, none)
  | none =>
    if m.maxSessions ≤ m.sessions.keys.length then
      ((m.retainLive now).1, some (.release (m.retainLive now).2 (some (sessionId, clientAddr))))
    else (m, some (.count sessionId clientAddr))

/-- The holder of the table's lock goes on, to its next section or until it gives the lock back. -/
def proceed (m : SessionManager) (now : Nat) : Section → SessionManager × Option Section
  | .count sessionId clientAddr =>
    match m.incrementCount clientAddr.ip with
    | (m, false) => (m, none)
    | (m, true) => (m, some (.insert sessionId clientAddr))
  | .insert sessionId clientAddr => (m.insertSession sessionId clientAddr now, none)
  | .release removed none => (m.releaseCounts removed, none)
  | .release removed (some (sessionId, clientAddr)) =>
    (m.releaseCounts removed,
      if m.maxSessions ≤ m.sessions.keys.length then none else some (.count sessionId clientAddr))

/-- While a thread holds the table's lock, the others wait for it. -/
def unlessHeld (a next : Accounts) : Accounts := if a.held.isSome then a else next

def step (a : Accounts) : LockStep → Accounts
  | .proceed now =>
    match a.held with
    | none => a
    | some sec => { a with manager := (proceed a.manager now sec).1, held := (proceed a.manager now sec).2 }
  | .settle i =>
    match a.removals[i]? with
    | none => a
    | some ip => { a with manager := a.manager.releaseCounts [ip], removals := a.removals.eraseIdx i }
  | .bind sessionId clientAddr now =>
    a.unlessHeld { a with
      manager := (bind a.manager sessionId clientAddr now).1
      held := (bind a.manager sessionId clientAddr now).2 }
  | .sweep now =>
    a.unlessHeld { a with
      manager := (a.manager.retainLive now).1
      held := some (.release (a.manager.retainLive now).2 none) }
  | .remove sessionId =>
    match a.manager.sessions.lookup sessionId with
    | none => a
    | some session =>
      a.unlessHeld { a with
        manager := { a.manager with sessions := a.manager.sessions.erase sessionId }
        removals := session.clientAddr.ip :: a.removals }
  | .clientPacket accrue sessionId clientAddr now bytes =>
    a.unlessHeld { a with manager := (a.manager.processClientPacket accrue sessionId clientAddr now bytes).1 }
  | .upstreamPacket sessionId now bytes =>
    a.unlessHeld { a with manager := (a.manager.processUpstreamPacket sessionId now bytes).1 }

/-! ### The invariant -/

def owed (a : Accounts) : List IpAddr := (a.held.elim [] Section.owed) ++ a.removals

structure Accounted (maxSessions : Nat) (a : Accounts) : Prop where
  ledger : a.manager.Ledger a.owed
  sound : ∀ sec, a.held = some sec → sec.Sound a.manager
  maxSessions_eq : a.manager.maxSessions = maxSessions
  perIp_eq : a.manager.maxSessionsPerIp = defaultMaxSessionsPerIp

variable {a : Accounts} {maxSessions : Nat}

theorem accounted_start (timeoutMs maxSessions : Nat) (rateLimitPps : UInt32) (rateLimitBps : UInt64) :
    (start timeoutMs maxSessions rateLimitPps rateLimitBps).Accounted maxSessions :=
  ⟨⟨nofun, fun _ => rfl, fun _ => Nat.zero_le _, Nat.zero_le _, Nat.succ_pos 99⟩, nofun, rfl, rfl⟩

namespace Accounted

theorem unlessHeld {next : Accounts} (h : a.Accounted maxSessions)
    (hnext : a.held = none → a.manager.Ledger a.removals → next.Accounted maxSessions) :
    (a.unlessHeld next).Accounted maxSessions := by
  unfold Accounts.unlessHeld
  cases hheld : a.held with
  | some sec => exact h
  | none =>
    have hledger := h.ledger
    rw [owed, hheld] at hledger
    exact hnext hheld hledger

theorem bind (h : a.Accounted maxSessions) (sessionId : SessionId) (clientAddr : SocketAddr) (now : Nat) :
    (a.step (.bind sessionId clientAddr now)).Accounted maxSessions := by
  apply h.unlessHeld
  intro hfree hledger
  unfold Accounts.bind
  cases hlookup : a.manager.sessions.lookup sessionId with
  | some session =>
    dsimp only
    split
    · exact ⟨hledger, nofun, h.maxSessions_eq, h.perIp_eq⟩
    · exact ⟨hledger.onEntry fun _ => rfl, nofun, h.maxSessions_eq, h.perIp_eq⟩
  | none =>
    by_cases hfull : a.manager.maxSessions ≤ a.manager.sessions.keys.length
    · rw [if_pos hfull]
      refine ⟨hledger.retainLive now, ?_, h.maxSessions_eq, h.perIp_eq⟩
      rintro sec ⟨rfl⟩
      change (retain _ _).lookup sessionId = none
      rw [lookup_retain, hlookup]
      rfl
    · rw [if_neg hfull]
      refine ⟨hledger, ?_, h.maxSessions_eq, h.perIp_eq⟩
      rintro sec ⟨rfl⟩
      exact ⟨hlookup, Nat.lt_of_not_le hfull⟩

theorem proceed (h : a.Accounted maxSessions) (now : Nat) : (a.step (.proceed now)).Accounted maxSessions := by
  dsimp only [Accounts.step]
  cases hheld : a.held with
  | none => exact h
  | some sec =>
    have hledger := h.ledger
    have hsound := h.sound sec hheld
    rw [owed, hheld] at hledger
    cases sec with
    | count sessionId clientAddr =>
      obtain ⟨counts, charged, heq, hcounted⟩ := hledger.incrementCount clientAddr.ip
      dsimp only [Accounts.proceed]
      rw [heq]
      cases charged with
      | false => exact ⟨hcounted, nofun, h.maxSessions_eq, h.perIp_eq⟩
      | true =>
        refine ⟨hcounted, ?_, h.maxSessions_eq, h.perIp_eq⟩
        rintro sec ⟨rfl⟩
        exact hsound
    | insert sessionId clientAddr =>
      exact ⟨SessionManager.Ledger.insertSession hledger hsound.1 hsound.2, nofun, h.maxSessions_eq, h.perIp_eq⟩
    | release removed next =>
      have hreleased := SessionManager.Ledger.releaseCounts hledger
      cases next with
      | none => exact ⟨hreleased, nofun, h.maxSessions_eq, h.perIp_eq⟩
      | some next =>
        obtain ⟨sessionId, clientAddr⟩ := next
        dsimp only [Accounts.proceed]
        by_cases hfull : a.manager.maxSessions ≤ a.manager.sessions.keys.length
        · rw [if_pos hfull]
          exact ⟨hreleased, nofun, h.maxSessions_eq, h.perIp_eq⟩
        · rw [if_neg hfull]
          refine ⟨hreleased, ?_, h.maxSessions_eq, h.perIp_eq⟩
          rintro sec ⟨rfl⟩
          exact ⟨hsound, Nat.lt_of_not_le hfull⟩

theorem settle (h : a.Accounted maxSessions) (i : Nat) : (a.step (.settle i)).Accounted maxSessions := by
  dsimp only [Accounts.step]
  cases hremoval : a.removals[i]? with
  | none => exact h
  | some ip =>
    obtain ⟨hi, hip⟩ := List.getElem?_eq_some_iff.mp hremoval
    have hperm : a.owed.Perm ([ip] ++ (a.held.elim [] Section.owed ++ a.removals.eraseIdx i)) := by
      have hmove := (List.getElem_cons_eraseIdx_perm hi).symm
      rw [hip] at hmove
      exact (hmove.append_left _).trans List.perm_middle
    refine ⟨(h.ledger.perm hperm).releaseCounts, ?_, h.maxSessions_eq, h.perIp_eq⟩
    intro sec hsec
    have hsound := h.sound sec hsec
    cases sec with
    | count => exact hsound
    | insert => exact hsound
    | release removed next => cases next <;> exact hsound

theorem remove (h : a.Accounted maxSessions) (sessionId : SessionId) :
    (a.step (.remove sessionId)).Accounted maxSessions := by
  dsimp only [Accounts.step]
  cases hlookup : a.manager.sessions.lookup sessionId with
  | none => exact h
  | some session =>
    apply h.unlessHeld
    intro hfree hledger
    refine ⟨?_, fun _ hsec => (nomatch hfree.symm.trans hsec), h.maxSessions_eq, h.perIp_eq⟩
    rw [owed, hfree]
    exact hledger.erase hlookup

theorem onEntry {β : Type} {f : RelaySession → RelaySession × β} {absent : β} (h : a.Accounted maxSessions)
    (hfree : a.held = none) (sessionId : SessionId) (hf : ∀ session, SameClient session (f session).1) :
    Accounted maxSessions
      { a with manager := { a.manager with sessions := (onEntry a.manager.sessions sessionId f absent).1 } } where
  ledger := h.ledger.onEntry hf
  sound _ hsec := nomatch hfree.symm.trans hsec
  maxSessions_eq := h.maxSessions_eq
  perIp_eq := h.perIp_eq

theorem step (h : a.Accounted maxSessions) (i : LockStep) : (a.step i).Accounted maxSessions := by
  cases i with
  | proceed now => exact h.proceed now
  | settle i => exact h.settle i
  | bind sessionId clientAddr now => exact h.bind sessionId clientAddr now
  | sweep now =>
    apply h.unlessHeld
    intro _ hledger
    refine ⟨hledger.retainLive now, ?_, h.maxSessions_eq, h.perIp_eq⟩
    rintro sec ⟨rfl⟩
    trivial
  | remove sessionId => exact h.remove sessionId
  | clientPacket accrue sessionId clientAddr now bytes =>
    apply h.unlessHeld
    intro hfree _
    unfold SessionManager.processClientPacket
    split
    · exact h
    · exact h.onEntry hfree sessionId (SessionManager.sameClient_processClientEntry _)
  | upstreamPacket sessionId now bytes =>
    apply h.unlessHeld
    intro hfree _
    exact h.onEntry hfree sessionId fun _ => rfl

end Accounted

/-! ### However the threads interleave -/

/-- Nobody holds the table's lock or has yet to take the counters'. -/
def Idle (a : Accounts) : Prop := a.held = none ∧ a.removals = []

/-- However the threads interleave, every counter covers the entries of its address, exactly when nothing is under
way; no zero is stored and no cap exceeded. -/
theorem counters_cover (timeoutMs maxSessions : Nat) (rateLimitPps : UInt32) (rateLimitBps : UInt64)
    (steps : List LockStep) :
    let a := exec step (start timeoutMs maxSessions rateLimitPps rateLimitBps) steps
    (∀ ip, a.manager.boundTo ip ≤ tally a.manager.ipSessionCounts ip) ∧
      (a.Idle → ∀ ip, tally a.manager.ipSessionCounts ip = a.manager.boundTo ip) ∧
      Positive a.manager.ipSessionCounts ∧
      a.manager.sessions.keys.length ≤ maxSessions ∧
      ∀ ip, a.manager.boundTo ip ≤ defaultMaxSessionsPerIp := by
  intro a
  have h : a.Accounted maxSessions :=
    exec_invariant (fun _ i h => h.step i) steps _ (accounted_start timeoutMs maxSessions rateLimitPps rateLimitBps)
  have hcover : ∀ ip, a.manager.boundTo ip ≤ tally a.manager.ipSessionCounts ip := by
    intro ip
    rw [h.ledger.tally_eq]
    exact Nat.le_add_right _ _
  refine ⟨hcover, ?_, h.ledger.positive, h.maxSessions_eq ▸ h.ledger.sessions_le, ?_⟩
  · rintro ⟨hheld, hremovals⟩ ip
    rw [h.ledger.tally_eq, owed, hheld, hremovals]
    rfl
  · intro ip
    exact (hcover ip).trans (h.perIp_eq ▸ h.ledger.tally_le ip)

end Accounts

end HpnVpn.Relay
