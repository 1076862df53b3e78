import HpnVpn.AuthLockout
import HpnVpn.FixedWindow

/-! Sequences of failed and successful logins.  The entries of an address and of a username are throttles; the
lockouts are compared with the log of failures. -/
namespace HpnVpn
open Wire Tables Runs FixedWindow Throttle

/-- What the system clock returns: its seconds are a signed 64-bit number. -/
structure UnixTime where
  secs : Nat
  secs_lt : secs < 2 ^ 63
deriving DecidableEq

theorem lt_satAdd64 {now : UnixTime} {a b : Nat} (h : now.secs < a + b) : now.secs < satAdd64 a b := by
  have := now.secs_lt
  unfold satAdd64
  omega

theorem satAdd64_le (a b : Nat) : satAdd64 a b ≤ a + b := Nat.min_le_left _ _

theorem le_satAdd64 (now : UnixTime) (b : Nat) : now.secs ≤ satAdd64 now.secs b := by
  have := now.secs_lt
  unfold satAdd64
  omega

theorem satAdd32_min (n : Nat) : satAdd32 (min n (2 ^ 32 - 1)) 1 = min (n + 1) (2 ^ 32 - 1) := by
  unfold satAdd32
  omega

/-- The counters of attempts are 32 bits wide. -/
structure LockoutPolicy.InRange (policy : LockoutPolicy) : Prop where
  ipMaxAttempts : policy.ipMaxAttempts < 2 ^ 32
  usernameMinAttempts : policy.usernameMinAttempts < 2 ^ 32

def LockoutPolicy.ipRule (policy : LockoutPolicy) : Rule String where
  width := 3600
  enough events := policy.ipMaxAttempts ≤ min events.length (2 ^ 32 - 1)
  release now := satAdd64 now policy.ipBanSecs

def LockoutPolicy.usernameRule (policy : LockoutPolicy) : Rule IpAddr where
  width := policy.usernameWindowSecs
  enough events := policy.usernameMinAttempts ≤ min events.length (2 ^ 32 - 1) ∧
    policy.usernameSpreadMinIps ≤ (events.map (·.item)).toFinset.card % 2 ^ 32
  release now := satAdd64 now policy.usernameLockSecs

def IpEntry.ofThrottle (t : Throttle String) : IpEntry :=
  ⟨min t.window.events.length (2 ^ 32 - 1), t.window.start, t.lockedUntil, t.last⟩

def UsernameEntry.ofThrottle (t : Throttle IpAddr) : UsernameEntry :=
  ⟨(t.window.events.map (·.item)).toFinset, min t.window.events.length (2 ^ 32 - 1), t.window.start,
    t.lockedUntil, t.last⟩

theorem IpEntry.recordFailure_ofThrottle (policy : LockoutPolicy) (e : Event String) (t : Throttle String) :
    (ofThrottle t).recordFailure policy e.time =
      (ofThrottle (t.record policy.ipRule e).1, (t.record policy.ipRule e).2) := by
  have hroll : (if 3600 < e.time - (ofThrottle t).windowStart then (0, e.time)
      else ((ofThrottle t).failedAttemptsHour, (ofThrottle t).windowStart)) =
      (min (t.window.roll 3600 e.time).events.length (2 ^ 32 - 1), (t.window.roll 3600 e.time).start) := by
    unfold Window.roll ofThrottle
    split <;> rfl
  unfold recordFailure
  rw [hroll]
  dsimp only
  rw [satAdd32_min]
  obtain ⟨henough, hfree, hrecord⟩ | ⟨hno, hrecord⟩ := record_cases policy.ipRule e t
  · rw [hrecord, if_pos ⟨of_decide_eq_true henough, hfree⟩]
    rfl
  · rw [hrecord, if_neg fun h => hno ⟨decide_eq_true h.1, h.2⟩]
    rfl

theorem UsernameEntry.recordFailure_ofThrottle (policy : LockoutPolicy) (e : Event IpAddr) (t : Throttle IpAddr) :
    (ofThrottle t).recordFailure policy e.item e.time =
      (ofThrottle (t.record policy.usernameRule e).1, (t.record policy.usernameRule e).2) := by
  have hroll : (if policy.usernameWindowSecs < e.time - (ofThrottle t).windowStart then (∅, 0, e.time)
      else ((ofThrottle t).ips, (ofThrottle t).totalAttemptsWindow, (ofThrottle t).windowStart)) =
      (((t.window.roll policy.usernameWindowSecs e.time).events.map (·.item)).toFinset,
        min (t.window.roll policy.usernameWindowSecs e.time).events.length (2 ^ 32 - 1),
        (t.window.roll policy.usernameWindowSecs e.time).start) := by
    unfold Window.roll ofThrottle
    split <;> rfl
  unfold recordFailure
  rw [hroll]
  dsimp only
  rw [satAdd32_min, ← List.toFinset_cons]
  obtain ⟨henough, hfree, hrecord⟩ | ⟨hno, hrecord⟩ := record_cases policy.usernameRule e t
  · have henough := of_decide_eq_true henough
    rw [hrecord, if_pos ⟨henough.1, henough.2, hfree⟩]
    rfl
  · rw [hrecord, if_neg fun h => hno ⟨decide_eq_true ⟨h.1, h.2.1⟩, h.2.2⟩]
    rfl

namespace AuthLockoutTracker

def ipEntry (t : AuthLockoutTracker) (ip : IpAddr) : IpEntry := (t.ips.lookup ip).getD ⟨0, 0, 0, 0⟩

def usernameEntry (t : AuthLockoutTracker) (username : String) : UsernameEntry :=
  (t.usernames.lookup username).getD ⟨∅, 0, 0, 0, 0⟩

structure Room (t : AuthLockoutTracker) : Prop where
  tuples : t.tuples.keys.length < t.policy.maxEntries
  ips : t.ips.keys.length < t.policy.maxEntries
  usernames : t.usernames.keys.length < t.policy.maxEntries

instance (t : AuthLockoutTracker) : Decidable t.Room :=
  decidable_of_iff (t.tuples.keys.length < t.policy.maxEntries ∧ t.ips.keys.length < t.policy.maxEntries ∧
      t.usernames.keys.length < t.policy.maxEntries)
    ⟨fun h => ⟨h.1, h.2.1, h.2.2⟩, fun h => ⟨h.tuples, h.ips, h.usernames⟩⟩

/-- The failure sets the ban of its address, which is when `ip_bans` is counted up. -/
def bans (order : LockoutOrder) (t : AuthLockoutTracker) (ip : IpAddr) (now : Nat) : Bool :=
  ((((evictIfFull order.ips IpEntry.lastAccess t.policy.maxEntries t.ips).lookup ip).getD
    ⟨0, 0, 0, 0⟩).recordFailure t.policy now).2

def locks (order : LockoutOrder) (t : AuthLockoutTracker) (username : String) (ip : IpAddr) (now : Nat) : Bool :=
  ((((evictIfFull order.usernames UsernameEntry.lastAccess t.policy.maxEntries t.usernames).lookup username).getD
    ⟨∅, 0, 0, 0, 0⟩).recordFailure t.policy ip now).2

variable {t : AuthLockoutTracker} {username : String} {ip : IpAddr} {now : Nat} {order : LockoutOrder}

theorem evictIfFull_of_lt {κ ν : Type} [DecidableEq κ] {order : Chooser κ} {lastAccess : ν → Nat} {cap : Nat}
    {map : Table κ ν} (h : map.keys.length < cap) : evictIfFull order lastAccess cap map = map := if_pos h

theorem ips_recordFailure (h : t.Room) :
    (t.recordFailure order username ip now).1.ips = t.ips.insert ip ((t.ipEntry ip).recordFailure t.policy now).1 := by
  unfold recordFailure
  rw [evictIfFull_of_lt h.ips]
  rfl

theorem usernames_recordFailure (h : t.Room) :
    (t.recordFailure order username ip now).1.usernames =
      t.usernames.insert username ((t.usernameEntry username).recordFailure t.policy ip now).1 := by
  unfold recordFailure
  rw [evictIfFull_of_lt h.usernames]
  rfl

theorem bans_eq (h : t.Room) : t.bans order ip now = ((t.ipEntry ip).recordFailure t.policy now).2 := by
  rw [bans, evictIfFull_of_lt h.ips]
  rfl

theorem locks_eq (h : t.Room) :
    t.locks order username ip now = ((t.usernameEntry username).recordFailure t.policy ip now).2 := by
  rw [locks, evictIfFull_of_lt h.usernames]
  rfl

theorem any_lt_iff {α : Type} (now : Nat) (entry : Option α) (bound : α → Nat) (absent : α) (h : bound absent = 0) :
    (entry.any fun e => now < bound e) = true ↔ now < bound (entry.getD absent) := by
  cases entry with
  | none => simp [h]
  | some e => simp

theorem checkLockout_eq (t : AuthLockoutTracker) (username : String) (ip : IpAddr) (now : Nat) :
    t.checkLockout username ip now =
      if now < (t.ipEntry ip).bannedUntil then some .ip
      else if now < ((t.tuples.lookup (username, ip)).getD ⟨0, 0, 0⟩).lockedUntil then some .tuple
      else if now < (t.usernameEntry username).lockedUntil then some .usernameSpread
      else none := by
  have hip := any_lt_iff now (t.ips.lookup ip) IpEntry.bannedUntil ⟨0, 0, 0, 0⟩ rfl
  have htuple := any_lt_iff now (t.tuples.lookup (username, ip)) TupleEntry.lockedUntil ⟨0, 0, 0⟩ rfl
  have husername := any_lt_iff now (t.usernames.lookup username) UsernameEntry.lockedUntil ⟨∅, 0, 0, 0, 0⟩ rfl
  unfold checkLockout
  simp only [hip, htuple, husername]
  rfl

theorem checkLockout_eq_ip : t.checkLockout username ip now = some .ip ↔ now < (t.ipEntry ip).bannedUntil := by
  rw [checkLockout_eq]
  split_ifs with hip <;> simp [hip]

theorem lt_of_checkLockout_eq_username (h : t.checkLockout username ip now = some .usernameSpread) :
    now < (t.usernameEntry username).lockedUntil := by
  by_contra hno
  rw [checkLockout_eq] at h
  split_ifs at h <;> cases h

theorem checkLockout_ne_none_of_username (h : now < (t.usernameEntry username).lockedUntil) :
    t.checkLockout username ip now ≠ none := by
  rw [checkLockout_eq]
  split_ifs <;> simp

end AuthLockoutTracker

/-- Time does not go back, and if the window of an address is over, then so is every failure counted in it. -/
def IpEntry.Timely (now : Nat) (e : IpEntry) : Prop :=
  e.lastAccess ≤ now ∧ (3600 < now - e.windowStart → e.failedAttemptsHour = 0 ∨ e.lastAccess + 3600 < now)

def UsernameEntry.Timely (policy : LockoutPolicy) (now : Nat) (e : UsernameEntry) : Prop :=
  e.lastAccess ≤ now ∧
    (policy.usernameWindowSecs < now - e.windowStart →
      e.totalAttemptsWindow = 0 ∨ e.lastAccess + policy.usernameWindowSecs < now) ∧
    e.ips.card + 1 < 2 ^ 32

instance (now : Nat) (e : IpEntry) : Decidable (e.Timely now) := inferInstanceAs (Decidable (_ ∧ _))

instance (policy : LockoutPolicy) (now : Nat) (e : UsernameEntry) : Decidable (e.Timely policy now) :=
  inferInstanceAs (Decidable (_ ∧ _ ∧ _))

theorem eq_nil_of_min_length {α : Type} {l : List α} (h : min l.length (2 ^ 32 - 1) = 0) : l = [] := by
  apply List.eq_nil_of_length_eq_zero
  omega

variable {policy : LockoutPolicy} {now : Nat} {t : Throttle IpAddr}

theorem IpEntry.Timely.throttle {t : Throttle String} (h : (IpEntry.ofThrottle t).Timely now) :
    t.Timely policy.ipRule now :=
  ⟨h.1, fun hover => (h.2 hover).imp_left eq_nil_of_min_length⟩

theorem UsernameEntry.Timely.throttle (h : (UsernameEntry.ofThrottle t).Timely policy now) :
    t.Timely policy.usernameRule now :=
  ⟨h.1, fun hover => (h.2.1 hover).imp_left eq_nil_of_min_length⟩

theorem UsernameEntry.Timely.card_push {e : Event IpAddr} (h : (UsernameEntry.ofThrottle t).Timely policy e.time) :
    (((t.window.roll policy.usernameRule.width e.time).push e).events.map (·.item)).toFinset.card < 2 ^ 32 := by
  have hroll : ((t.window.roll policy.usernameRule.width e.time).events.map (·.item)).toFinset.card ≤
      (ofThrottle t).ips.card := by
    obtain ⟨-, hroll⟩ | ⟨-, hroll⟩ := Window.roll_cases policy.usernameRule.width e.time t.window
    · rw [hroll]
      exact Nat.zero_le _
    · rw [hroll]
      exact le_rfl
  calc (((t.window.roll policy.usernameRule.width e.time).push e).events.map (·.item)).toFinset.card
      ≤ ((t.window.roll policy.usernameRule.width e.time).events.map (·.item)).toFinset.card + 1 := by
        rw [Window.push, List.map_cons, List.toFinset_cons]
        exact Finset.card_insert_le _ _
    _ ≤ (ofThrottle t).ips.card + 1 := Nat.add_le_add_right hroll 1
    _ < 2 ^ 32 := h.2.2

/-! ### Runs -/

structure LoginFailure where
  username : String
  ip : IpAddr
  time : Nat
  banned : Bool
  locked : Bool
deriving DecidableEq

def LoginFailure.ofIp (f : LoginFailure) : Event String := ⟨f.time, f.username⟩

def LoginFailure.ofUsername (f : LoginFailure) : Event IpAddr := ⟨f.time, f.ip⟩

inductive LoginEvent
  | failure (username : String) (ip : IpAddr) (now : UnixTime) (order : LockoutOrder)
  | success (username : String) (ip : IpAddr)

structure LoginRun where
  tracker : AuthLockoutTracker
  log : List LoginFailure

namespace LoginRun
open AuthLockoutTracker

def start (policy : LockoutPolicy) : LoginRun := ⟨.new policy, []⟩

def step (r : LoginRun) : LoginEvent → LoginRun
  | .failure username ip now order =>
    ⟨(r.tracker.recordFailure order username ip now.secs).1,
      ⟨username, ip, now.secs, r.tracker.bans order ip now.secs, r.tracker.locks order username ip now.secs⟩ :: r.log⟩
  | .success username ip => { r with tracker := r.tracker.recordSuccess username ip }

/-- The failures with one key as the events of its throttle, and which of them set its lock. -/
def history {κ α : Type} [DecidableEq κ] (key : LoginFailure → κ) (event : LoginFailure → Event α)
    (fired : LoginFailure → Bool) (log : List LoginFailure) (k : κ) : List (Event α × Bool) :=
  (log.filter fun f => key f = k).map fun f => (event f, fired f)

def ipHistory : List LoginFailure → IpAddr → List (Event String × Bool) := history (·.ip) LoginFailure.ofIp (·.banned)

def usernameHistory : List LoginFailure → String → List (Event IpAddr × Bool) :=
  history (·.username) LoginFailure.ofUsername (·.locked)

def sinceBan (r : LoginRun) (ip : IpAddr) : List (Event String) := Throttle.sinceLock (ipHistory r.log ip)

def sinceLock (r : LoginRun) (username : String) : List (Event IpAddr) :=
  Throttle.sinceLock (usernameHistory r.log username)

/-- Fewer entries are tracked than the cap whenever a failure arrives. -/
def Room (r : LoginRun) : LoginEvent → Prop
  | .failure .. => r.tracker.Room
  | .success .. => True

instance (r : LoginRun) : (e : LoginEvent) → Decidable (r.Room e)
  | .failure .. => inferInstanceAs (Decidable r.tracker.Room)
  | .success .. => isTrue trivial

/-- A password is verified only if the tracker lets the attempt pass. -/
def Admitted (r : LoginRun) : LoginEvent → Prop
  | .failure username ip now _ => r.tracker.checkLockout username ip now.secs = none
  | .success .. => True

instance (r : LoginRun) : (e : LoginEvent) → Decidable (r.Admitted e)
  | .failure username ip now _ => inferInstanceAs (Decidable (r.tracker.checkLockout username ip now.secs = none))
  | .success .. => isTrue trivial

variable {r : LoginRun} {username : String} {ip : IpAddr} {now : UnixTime} {order : LockoutOrder}

section history
variable {κ α : Type} [DecidableEq κ] {key : LoginFailure → κ} {event : LoginFailure → Event α}
  {fired : LoginFailure → Bool} {f : LoginFailure} {log : List LoginFailure} {k : κ}

theorem history_cons_self :
    history key event fired (f :: log) (key f) = (event f, fired f) :: history key event fired log (key f) := by
  rw [history, List.filter_cons_of_pos (by simp)]
  rfl

theorem history_cons_of_ne (h : k ≠ key f) :
    history key event fired (f :: log) k = history key event fired log k := by
  rw [history, List.filter_cons_of_neg (by simpa using symm h)]
  rfl

theorem mem_history {x : Event α × Bool} :
    x ∈ history key event fired log k ↔ ∃ f ∈ log, key f = k ∧ (event f, fired f) = x := by
  simp only [history, List.mem_map, List.mem_filter, decide_eq_true_eq, and_assoc]

theorem last_le_of_order {α : Type} {event : LoginFailure → Event α} {t : Throttle α} {now : Nat}
    (hsound : Throttle.Sound (history key event fired log k) t) (horder : ∀ g ∈ log, (event g).time ≤ now) :
    t.last ≤ now := by
  apply hsound.last_le
  intro x hx
  obtain ⟨g, hg, -, rfl⟩ := mem_history.mp hx
  exact horder g hg

/-- A failure that sets the lock of its key is one of enough in the window that ends with it. -/
theorem enough_of_fired {rule : Rule α} {t : Throttle α} (hevent : ∀ g, (event g).time = g.time)
    (hsound : Throttle.Sound (history key event fired log (key f)) t) (hlast : t.last ≤ (event f).time)
    (hfired : (t.record rule (event f)).2 = true) :
    ∃ events : List (Event α), rule.enough events = true ∧
      events.Sublist (((f :: log).filter fun g =>
        key g = key f ∧ g.time ≤ f.time ∧ f.time ≤ g.time + rule.width).map event) := by
  obtain ⟨events, hsub, htime, henough⟩ := hsound.enough_of_fired hlast hfired
  refine ⟨events, henough, ?_⟩
  have hlog : event f :: (history key event fired log (key f)).map (·.1) =
      ((f :: log).filter fun g => key g = key f).map event := by
    rw [List.filter_cons_of_pos (by simp), history, List.map_map]
    rfl
  rw [hlog] at hsub
  have hfilter := hsub.filter fun x => x.time ≤ (event f).time ∧ (event f).time ≤ x.time + rule.width
  rw [List.filter_eq_self.mpr (by simpa using htime), List.filter_map, List.filter_filter] at hfilter
  convert hfilter using 3
  funext g
  rw [Function.comp_apply, hevent, hevent, Bool.and_comm]
  exact Bool.decide_and _ _

end history

variable {first width : Nat}

structure Follows (I : List (Event String × Bool) → Throttle String → Prop)
    (U : List (Event IpAddr × Bool) → Throttle IpAddr → Prop) (r : LoginRun) : Prop where
  ips : Throttle.Follows IpEntry.ofThrottle ⟨0, 0, 0, 0⟩ I r.tracker.ips (ipHistory r.log)
  usernames : Throttle.Follows UsernameEntry.ofThrottle ⟨∅, 0, 0, 0, 0⟩ U r.tracker.usernames (usernameHistory r.log)

section Follows

variable {I : List (Event String × Bool) → Throttle String → Prop}
  {U : List (Event IpAddr × Bool) → Throttle IpAddr → Prop}

theorem follows_start (policy : LockoutPolicy) (hI : I [] .initial) (hU : U [] .initial) : (start policy).Follows I U :=
  ⟨follows_empty rfl hI, follows_empty rfl hU⟩

theorem Follows.success (h : r.Follows I U) (username : String) (ip : IpAddr) :
    (r.step (.success username ip)).Follows I U := ⟨h.ips, h.usernames⟩

theorem Follows.failure (h : r.Follows I U) (hroom : r.tracker.Room)
    (hI : ∀ t, r.tracker.ipEntry ip = .ofThrottle t → I (ipHistory r.log ip) t →
      I ((⟨now.secs, username⟩, (t.record r.tracker.policy.ipRule ⟨now.secs, username⟩).2) :: ipHistory r.log ip)
        (t.record r.tracker.policy.ipRule ⟨now.secs, username⟩).1)
    (hU : ∀ t, r.tracker.usernameEntry username = .ofThrottle t → U (usernameHistory r.log username) t →
      U ((⟨now.secs, ip⟩, (t.record r.tracker.policy.usernameRule ⟨now.secs, ip⟩).2) ::
          usernameHistory r.log username)
        (t.record r.tracker.policy.usernameRule ⟨now.secs, ip⟩).1) :
    (r.step (.failure username ip now order)).Follows I U := by
  constructor
  · show Throttle.Follows _ _ I (r.tracker.recordFailure order username ip now.secs).1.ips _
    rw [ips_recordFailure hroom]
    refine h.ips.insert (IpEntry.recordFailure_ofThrottle r.tracker.policy ⟨now.secs, username⟩) hI ?_ ?_
    · rw [← AuthLockoutTracker.ipEntry, ← bans_eq hroom]
      exact history_cons_self (f := ⟨username, ip, now.secs, _, _⟩)
    · intro ip' hne
      exact history_cons_of_ne hne
  · show Throttle.Follows _ _ U (r.tracker.recordFailure order username ip now.secs).1.usernames _
    rw [usernames_recordFailure hroom]
    refine h.usernames.insert (UsernameEntry.recordFailure_ofThrottle r.tracker.policy ⟨now.secs, ip⟩) hU ?_ ?_
    · rw [← AuthLockoutTracker.usernameEntry, ← locks_eq hroom]
      exact history_cons_self (f := ⟨username, ip, now.secs, _, _⟩)
    · intro username' hne
      exact history_cons_of_ne hne

end Follows

/-! ### Lockouts that should fire -/

def Timely (r : LoginRun) : LoginEvent → Prop
  | .failure username ip now _ =>
    (r.tracker.ipEntry ip).Timely now.secs ∧ (r.tracker.usernameEntry username).Timely r.tracker.policy now.secs
  | .success .. => True

instance (r : LoginRun) : (e : LoginEvent) → Decidable (r.Timely e)
  | .failure username ip now _ =>
    inferInstanceAs (Decidable ((r.tracker.ipEntry ip).Timely now.secs ∧
      (r.tracker.usernameEntry username).Timely r.tracker.policy now.secs))
  | .success .. => isTrue trivial

/-- If the failures in a period up to this one are enough, its address, or its username, is refused right after it. -/
def Fires (r : LoginRun) : LoginEvent → Prop
  | .failure username ip now order =>
    (∀ first width, width ≤ 3600 → first ≤ now.secs → now.secs ≤ first + width →
      r.tracker.policy.ipMaxAttempts ≤ (span first width (⟨now.secs, username⟩ :: r.sinceBan ip)).length →
      ∀ username', (r.step (.failure username ip now order)).tracker.checkLockout username' ip now.secs = some .ip) ∧
    (∀ first width, width ≤ r.tracker.policy.usernameWindowSecs → first ≤ now.secs → now.secs ≤ first + width →
      r.tracker.policy.usernameMinAttempts ≤ (span first width (⟨now.secs, ip⟩ :: r.sinceLock username)).length →
      r.tracker.policy.usernameSpreadMinIps ≤
        ((span first width (⟨now.secs, ip⟩ :: r.sinceLock username)).map (·.item)).toFinset.card →
      ∀ ip', (r.step (.failure username ip now order)).tracker.checkLockout username ip' now.secs ≠ none)
  | .success .. => True

structure Complete (policy : LockoutPolicy) (r : LoginRun) : Prop where
  policy_eq : r.tracker.policy = policy
  follows : r.Follows (Throttle.Complete policy.ipRule) (Throttle.Complete policy.usernameRule)

theorem complete_start (policy : LockoutPolicy) : (start policy).Complete policy :=
  ⟨rfl, follows_start policy (complete_initial _) (complete_initial _)⟩

theorem Complete.step {policy : LockoutPolicy} (h : r.Complete policy) {e : LoginEvent} (hroom : r.Room e)
    (htimely : r.Timely e) : (r.step e).Complete policy := by
  obtain ⟨rfl, hfollows⟩ := h
  cases e with
  | success username ip => exact ⟨rfl, hfollows.success username ip⟩
  | failure username ip now order =>
    refine ⟨rfl, hfollows.failure hroom ?_ ?_⟩
    · intro t ht hcomplete
      exact hcomplete.record (IpEntry.Timely.throttle (ht ▸ htimely.1))
    · intro t ht hcomplete
      exact hcomplete.record (UsernameEntry.Timely.throttle (ht ▸ htimely.2))

theorem Complete.fires_ip {policy : LockoutPolicy} (h : r.Complete policy) (hrange : policy.InRange)
    (hsecs : 0 < policy.ipBanSecs) (hroom : r.tracker.Room) (htimely : (r.tracker.ipEntry ip).Timely now.secs)
    (hwidth : width ≤ 3600) (hfirst : now.secs ≤ first + width)
    (henough : policy.ipMaxAttempts ≤ (span first width (⟨now.secs, username⟩ :: r.sinceBan ip)).length)
    (username' : String) :
    (r.tracker.recordFailure order username ip now.secs).1.checkLockout username' ip now.secs = some .ip := by
  obtain ⟨rfl, hfollows⟩ := h
  obtain ⟨t, ht, hcomplete⟩ := hfollows.ips ip
  have hentry : r.tracker.ipEntry ip = .ofThrottle t := ht
  rw [hentry] at htimely
  rw [checkLockout_eq_ip, ipEntry, ips_recordFailure hroom, AList.lookup_insert, Option.getD_some, hentry,
    IpEntry.recordFailure_ofThrottle r.tracker.policy ⟨now.secs, username⟩ t]
  have hin : now.secs ≤ first + r.tracker.policy.ipRule.width := hfirst.trans (Nat.add_le_add_left hwidth first)
  have hrelease : now.secs < r.tracker.policy.ipRule.release now.secs := lt_satAdd64 (Nat.lt_add_of_pos_right hsecs)
  apply hcomplete.locked (e := ⟨now.secs, username⟩) htimely.throttle hin hrelease
  intro hspan
  have hlength := ((span_sublist_span hwidth first _).trans hspan).length_le
  have := hrange.ipMaxAttempts
  apply decide_eq_true
  exact le_min (henough.trans hlength) (by omega)

theorem Complete.fires_username {policy : LockoutPolicy} (h : r.Complete policy) (hrange : policy.InRange)
    (hsecs : 0 < policy.usernameLockSecs) (hroom : r.tracker.Room)
    (htimely : (r.tracker.usernameEntry username).Timely policy now.secs)
    (hwidth : width ≤ policy.usernameWindowSecs) (hfirst : now.secs ≤ first + width)
    (henough : policy.usernameMinAttempts ≤ (span first width (⟨now.secs, ip⟩ :: r.sinceLock username)).length)
    (hspread : policy.usernameSpreadMinIps ≤
      ((span first width (⟨now.secs, ip⟩ :: r.sinceLock username)).map (·.item)).toFinset.card) (ip' : IpAddr) :
    (r.tracker.recordFailure order username ip now.secs).1.checkLockout username ip' now.secs ≠ none := by
  obtain ⟨rfl, hfollows⟩ := h
  obtain ⟨t, ht, hcomplete⟩ := hfollows.usernames username
  have hentry : r.tracker.usernameEntry username = .ofThrottle t := ht
  rw [hentry] at htimely
  apply checkLockout_ne_none_of_username
  rw [usernameEntry, usernames_recordFailure hroom, AList.lookup_insert, Option.getD_some, hentry,
    UsernameEntry.recordFailure_ofThrottle r.tracker.policy ⟨now.secs, ip⟩ t]
  have hin : now.secs ≤ first + r.tracker.policy.usernameRule.width :=
    hfirst.trans (Nat.add_le_add_left hwidth first)
  have hrelease : now.secs < r.tracker.policy.usernameRule.release now.secs :=
    lt_satAdd64 (Nat.lt_add_of_pos_right hsecs)
  apply hcomplete.locked (e := ⟨now.secs, ip⟩) htimely.throttle hin hrelease
  intro hspan
  have hsub := (span_sublist_span hwidth first _).trans hspan
  have := hrange.usernameMinAttempts
  apply decide_eq_true
  refine ⟨le_min (henough.trans hsub.length_le) (by omega), ?_⟩
  rw [Nat.mod_eq_of_lt htimely.card_push]
  exact hspread.trans (card_items_le hsub)

/-- In a run in which no window is closed on a failure that still counts, every lockout that is due fires. -/
theorem lockouts_fire (policy : LockoutPolicy) (hrange : policy.InRange) (hban : 0 < policy.ipBanSecs)
    (hlock : 0 < policy.usernameLockSecs) (events : List LoginEvent)
    (hroom : Meets Room step (start policy) events) (htimely : Meets Timely step (start policy) events) :
    Meets Fires step (start policy) events := by
  have hcomplete := complete_start policy
  generalize start policy = r at *
  induction events generalizing r with
  | nil => trivial
  | cons e events ih =>
    refine ⟨?_, ih _ hroom.2 htimely.2 (hcomplete.step hroom.1 htimely.1)⟩
    cases e with
    | success username ip => trivial
    | failure username ip now order =>
      have hpolicy := hcomplete.policy_eq
      constructor
      · intro first width hwidth _ hfirst henough
        exact hcomplete.fires_ip hrange hban hroom.1 htimely.1.1 hwidth hfirst (hpolicy ▸ henough)
      · intro first width hwidth _ hfirst henough hspread
        exact hcomplete.fires_username hrange hlock hroom.1 (hpolicy ▸ htimely.1.2) (hpolicy ▸ hwidth) hfirst
          (hpolicy ▸ henough) (hpolicy ▸ hspread)

end LoginRun

namespace LockoutSample

def names : List String :=
  ["ann", "bob", "cid", "dan", "eve", "fay", "gus", "hal", "ida", "jim", "kim", "leo", "mia", "ned", "ola", "pat",
    "quy"]

def address : IpAddr := .v4 (.fit 4 [203, 0, 113, 7])

def order : LockoutOrder := ⟨.first, .first, .first⟩

/-- The first of some failures opens the window, which the second time does not yet end and the third does. -/
def opening : UnixTime := ⟨1700000000, by decide⟩
def closing : UnixTime := ⟨1700003600, by decide⟩
def reopening : UnixTime := ⟨1700003601, by decide⟩

def failure (i : Nat) (now : UnixTime) : LoginEvent := .failure (names.getD (i % 17) "") address now order

def burst : List LoginEvent :=
  failure 0 opening :: (List.range 98).map (failure · closing) ++ [failure 0 reopening]

/-- At the hundredth failure in two seconds the address is not banned: the window was over in between. -/
theorem burst_across_windows_not_banned :
    Meets LoginRun.Room LoginRun.step (.start .production) (burst ++ [failure 1 reopening]) ∧
      Meets LoginRun.Admitted LoginRun.step (.start .production) (burst ++ [failure 1 reopening]) ∧
      ¬Meets LoginRun.Fires LoginRun.step (.start .production) (burst ++ [failure 1 reopening]) := by
  have hburst :
      let r := exec LoginRun.step (.start .production) burst
      (Meets LoginRun.Room LoginRun.step (.start .production) (burst ++ [failure 1 reopening]) ∧
        Meets LoginRun.Admitted LoginRun.step (.start .production) (burst ++ [failure 1 reopening])) ∧
      r.tracker.policy.ipMaxAttempts ≤ (span closing.secs 1 (⟨reopening.secs, "bob"⟩ :: r.sinceBan address)).length ∧
      (r.step (failure 1 reopening)).tracker.checkLockout "bob" address reopening.secs = none := by
    decide +kernel
  obtain ⟨⟨hroom, hadmitted⟩, hcount, hfree⟩ := hburst
  refine ⟨hroom, hadmitted, ?_⟩
  intro h
  have hfires : (exec LoginRun.step (.start .production) burst).Fires (failure 1 reopening) := (meets_append.mp h).2.1
  have hbanned := hfires.1 closing.secs 1 (by decide) (by decide) (by decide) hcount "bob"
  exact absurd (hfree.symm.trans hbanned) (by decide)

def strict : LockoutPolicy := { LockoutPolicy.production with ipMaxAttempts := 3 }

def three : List LoginEvent := [failure 0 opening, failure 1 opening, failure 2 closing]

theorem lockouts_fire_three : Meets LoginRun.Fires LoginRun.step (.start strict) three :=
  LoginRun.lockouts_fire strict ⟨by decide, by decide⟩ (by decide) (by decide) three (by decide +kernel)
    (by decide +kernel)

end LockoutSample

namespace LoginRun
open AuthLockoutTracker

variable {r : LoginRun} {username : String} {ip : IpAddr} {now : UnixTime}

/-! ### Lockouts that fire -/

def InOrder (r : LoginRun) : LoginEvent → Prop
  | .failure _ _ now _ => ∀ f ∈ r.log, f.time ≤ now.secs
  | .success .. => True

instance (r : LoginRun) : (e : LoginEvent) → Decidable (r.InOrder e)
  | .failure _ _ now _ => inferInstanceAs (Decidable (∀ f ∈ r.log, f.time ≤ now.secs))
  | .success .. => isTrue trivial

def inHour (f : LoginFailure) (log : List LoginFailure) : List LoginFailure :=
  log.filter fun g => g.ip = f.ip ∧ g.time ≤ f.time ∧ f.time ≤ g.time + 3600

def inWindow (policy : LockoutPolicy) (f : LoginFailure) (log : List LoginFailure) : List LoginFailure :=
  log.filter fun g => g.username = f.username ∧ g.time ≤ f.time ∧ f.time ≤ g.time + policy.usernameWindowSecs

/-- A ban or lock is set by a failure that has enough failures before it, in a log that begins with it. -/
structure Called (policy : LockoutPolicy) (f : LoginFailure) (log : List LoginFailure) : Prop where
  banned : f.banned = true → policy.ipMaxAttempts ≤ (inHour f log).length
  locked : f.locked = true → policy.usernameMinAttempts ≤ (inWindow policy f log).length ∧
    policy.usernameSpreadMinIps ≤ ((inWindow policy f log).map (·.ip)).toFinset.card

/-- Whoever is refused was locked out by a failure not long ago, and every lockout was called for. -/
structure Justified (r : LoginRun) : Prop where
  called : ∀ later f earlier, r.log = later ++ f :: earlier → Called r.tracker.policy f (f :: earlier)
  banned : ∀ username ip now, r.tracker.checkLockout username ip now = some .ip →
    ∃ f ∈ r.log, f.ip = ip ∧ f.banned = true ∧ now < f.time + r.tracker.policy.ipBanSecs
  locked : ∀ username ip now, r.tracker.checkLockout username ip now = some .usernameSpread →
    ∃ f ∈ r.log, f.username = username ∧ f.locked = true ∧ now < f.time + r.tracker.policy.usernameLockSecs

/-- While a ban or lock lasts, its address or username is refused. -/
structure Enforced (r : LoginRun) : Prop where
  banned : ∀ f ∈ r.log, f.banned = true → ∀ username (now : UnixTime),
    now.secs < f.time + r.tracker.policy.ipBanSecs → r.tracker.checkLockout username f.ip now.secs ≠ none
  locked : ∀ f ∈ r.log, f.locked = true → ∀ ip (now : UnixTime),
    now.secs < f.time + r.tracker.policy.usernameLockSecs → r.tracker.checkLockout f.username ip now.secs ≠ none

structure Sound (policy : LockoutPolicy) (r : LoginRun) : Prop where
  policy_eq : r.tracker.policy = policy
  follows : r.Follows (fun history t => Throttle.Sound history t ∧ Throttle.Holds policy.ipRule history t)
    (fun history t => Throttle.Sound history t ∧ Throttle.Holds policy.usernameRule history t)
  called : ∀ later f earlier, r.log = later ++ f :: earlier → Called policy f (f :: earlier)

theorem sound_start (policy : LockoutPolicy) : (start policy).Sound policy where
  policy_eq := rfl
  follows := follows_start policy ⟨sound_initial, holds_initial _⟩
    ⟨sound_initial, holds_initial _⟩
  called := fun _ _ _ h => absurd h (by simp [start])

variable {f : LoginFailure}

theorem Sound.called_banned {policy : LockoutPolicy} (h : r.Sound policy) (horder : ∀ g ∈ r.log, g.time ≤ f.time)
    (hbanned : ((r.tracker.ipEntry f.ip).recordFailure policy f.time).2 = true) :
    policy.ipMaxAttempts ≤ (inHour f (f :: r.log)).length := by
  obtain ⟨t, ht, hsound, -⟩ := h.follows.ips f.ip
  have hentry : r.tracker.ipEntry f.ip = .ofThrottle t := ht
  rw [hentry, IpEntry.recordFailure_ofThrottle policy ⟨f.time, f.username⟩ t] at hbanned
  obtain ⟨events, henough, hsub⟩ := enough_of_fired (fun _ => rfl) hsound (last_le_of_order hsound horder) hbanned
  have hlength := hsub.length_le
  rw [List.length_map] at hlength
  calc policy.ipMaxAttempts ≤ min events.length (2 ^ 32 - 1) := of_decide_eq_true henough
    _ ≤ events.length := min_le_left _ _
    _ ≤ (inHour f (f :: r.log)).length := hlength

theorem Sound.called_locked {policy : LockoutPolicy} (h : r.Sound policy) (horder : ∀ g ∈ r.log, g.time ≤ f.time)
    (hlocked : ((r.tracker.usernameEntry f.username).recordFailure policy f.ip f.time).2 = true) :
    policy.usernameMinAttempts ≤ (inWindow policy f (f :: r.log)).length ∧
      policy.usernameSpreadMinIps ≤ ((inWindow policy f (f :: r.log)).map (·.ip)).toFinset.card := by
  obtain ⟨t, ht, hsound, -⟩ := h.follows.usernames f.username
  have hentry : r.tracker.usernameEntry f.username = .ofThrottle t := ht
  rw [hentry, UsernameEntry.recordFailure_ofThrottle policy ⟨f.time, f.ip⟩ t] at hlocked
  obtain ⟨events, henough, hsub⟩ := enough_of_fired (fun _ => rfl) hsound (last_le_of_order hsound horder) hlocked
  have hlength := hsub.length_le
  have hcard := card_items_le hsub
  rw [List.length_map] at hlength
  rw [List.map_map] at hcard
  have henough := of_decide_eq_true henough
  constructor
  · calc policy.usernameMinAttempts ≤ min events.length (2 ^ 32 - 1) := henough.1
      _ ≤ events.length := min_le_left _ _
      _ ≤ (inWindow policy f (f :: r.log)).length := hlength
  · calc policy.usernameSpreadMinIps ≤ (events.map (·.item)).toFinset.card % 2 ^ 32 := henough.2
      _ ≤ (events.map (·.item)).toFinset.card := Nat.mod_le _ _
      _ ≤ ((inWindow policy f (f :: r.log)).map (·.ip)).toFinset.card := hcard

theorem Sound.step {policy : LockoutPolicy} (h : r.Sound policy) {e : LoginEvent} (hroom : r.Room e)
    (horder : r.InOrder e) : (r.step e).Sound policy := by
  cases e with
  | success username ip => exact ⟨h.policy_eq, h.follows.success username ip, h.called⟩
  | failure username ip now order =>
    have hpolicy := h.policy_eq
    refine ⟨hpolicy, h.follows.failure hroom ?_ ?_, ?_⟩
    · rintro t - ⟨hsound, hholds⟩
      rw [hpolicy]
      exact ⟨hsound.record (last_le_of_order hsound horder), hholds.record (le_satAdd64 now _)⟩
    · rintro t - ⟨hsound, hholds⟩
      rw [hpolicy]
      exact ⟨hsound.record (last_le_of_order hsound horder), hholds.record (le_satAdd64 now _)⟩
    · intro later f earlier hlog
      cases later with
      | cons g later => exact h.called later f earlier (List.cons.inj hlog).2
      | nil =>
        obtain ⟨rfl, rfl⟩ := List.cons.inj hlog
        subst hpolicy
        constructor
        · intro hbanned
          exact h.called_banned horder (bans_eq hroom ▸ hbanned)
        · intro hlocked
          exact h.called_locked horder (locks_eq hroom ▸ hlocked)

theorem Sound.justified {policy : LockoutPolicy} (h : r.Sound policy) : r.Justified := by
  obtain ⟨rfl, hfollows, hcalled⟩ := h
  refine ⟨hcalled, ?_, ?_⟩
  · intro username ip now hcheck
    obtain ⟨t, ht, -, hholds⟩ := hfollows.ips ip
    have hlt : now < (IpEntry.ofThrottle t).bannedUntil := ht ▸ checkLockout_eq_ip.mp hcheck
    rcases hholds.source with hzero | ⟨x, hx, hfired, hrelease⟩
    · exact absurd (hzero ▸ hlt) (Nat.not_lt_zero now)
    · obtain ⟨f, hf, hip, rfl⟩ := mem_history.mp hx
      exact ⟨f, hf, hip, hfired, hlt.trans_le (hrelease.le.trans (satAdd64_le f.time _))⟩
  · intro username ip now hcheck
    obtain ⟨t, ht, -, hholds⟩ := hfollows.usernames username
    have hlt : now < (UsernameEntry.ofThrottle t).lockedUntil :=
      ht ▸ lt_of_checkLockout_eq_username hcheck
    rcases hholds.source with hzero | ⟨x, hx, hfired, hrelease⟩
    · exact absurd (hzero ▸ hlt) (Nat.not_lt_zero now)
    · obtain ⟨f, hf, husername, rfl⟩ := mem_history.mp hx
      exact ⟨f, hf, husername, hfired, hlt.trans_le (hrelease.le.trans (satAdd64_le f.time _))⟩

theorem Sound.enforced {policy : LockoutPolicy} (h : r.Sound policy) : r.Enforced := by
  obtain ⟨rfl, hfollows, -⟩ := h
  constructor
  · intro f hf hbanned username now hnow
    obtain ⟨t, ht, -, hholds⟩ := hfollows.ips f.ip
    have hentry : r.tracker.ipEntry f.ip = .ofThrottle t := ht
    have hrelease := hholds.release_le _ (mem_history.mpr ⟨f, hf, rfl, rfl⟩) hbanned
    have hcheck : r.tracker.checkLockout username f.ip now.secs = some .ip := by
      rw [checkLockout_eq_ip, hentry]
      exact (lt_satAdd64 hnow).trans_le hrelease
    rw [hcheck]
    exact Option.some_ne_none _
  · intro f hf hlocked ip now hnow
    obtain ⟨t, ht, -, hholds⟩ := hfollows.usernames f.username
    have hentry : r.tracker.usernameEntry f.username = .ofThrottle t := ht
    have hrelease := hholds.release_le _ (mem_history.mpr ⟨f, hf, rfl, rfl⟩) hlocked
    apply checkLockout_ne_none_of_username
    rw [hentry]
    exact (lt_satAdd64 hnow).trans_le hrelease

/-- Along every run in the order of the clock, every lockout was called for and is enforced to its end. -/
theorem lockouts_justified_and_enforced (policy : LockoutPolicy) (events : List LoginEvent)
    (hroom : Meets Room step (start policy) events) (horder : Meets InOrder step (start policy) events) :
    (exec step (start policy) events).Justified ∧ (exec step (start policy) events).Enforced := by
  have hsound : (exec step (start policy) events).Sound policy := by
    have hstart := sound_start policy
    generalize start policy = r at *
    induction events generalizing r with
    | nil => exact hstart
    | cons e events ih => exact ih _ hroom.2 horder.2 (hstart.step hroom.1 horder.1)
  exact ⟨hsound.justified, hsound.enforced⟩

end LoginRun

namespace LockoutSample

theorem lockouts_justified_and_enforced_three :
    let r := exec LoginRun.step (.start strict) (three ++ [.success "ann" address])
    r.log.map (·.banned) = [true, false, false] ∧ r.Justified ∧ r.Enforced :=
  ⟨by decide +kernel, LoginRun.lockouts_justified_and_enforced strict _ (by decide +kernel) (by decide +kernel)⟩

end LockoutSample

end HpnVpn
