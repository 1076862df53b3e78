import HpnVpn.SessionManager

/-! The tracker of failed logins: an address, a username and the pair are each locked out after too many failures. -/
namespace HpnVpn
open Wire Tables

inductive LockoutKind
  | tuple
  | ip
  | usernameSpread
deriving DecidableEq

/-- Thresholds; times are seconds of the wall clock. -/
structure LockoutPolicy where
  tupleMaxAttempts : Nat
  tupleLockoutSecs : Nat
  ipMaxAttempts : Nat
  ipBanSecs : Nat
  usernameMinAttempts : Nat
  usernameSpreadMinIps : Nat
  usernameWindowSecs : Nat
  usernameLockSecs : Nat
  maxEntries : Nat
deriving DecidableEq

def LockoutPolicy.production : LockoutPolicy where
  tupleMaxAttempts := 10
  tupleLockoutSecs := 3600
  ipMaxAttempts := 100
  ipBanSecs := 3600
  usernameMinAttempts := 20
  usernameSpreadMinIps := 5
  usernameWindowSecs := 24 * 3600
  usernameLockSecs := 3600
  maxEntries := 100000

/-- Saturating sums of 32-bit counters and 64-bit times. -/
def satAdd32 (a b : Nat) : Nat := min (a + b) (2 ^ 32 - 1)
def satAdd64 (a b : Nat) : Nat := min (a + b) (2 ^ 64 - 1)

structure TupleEntry where
  failedAttempts : Nat
  lockedUntil : Nat
  lastAccess : Nat
deriving DecidableEq

structure IpEntry where
  failedAttemptsHour : Nat
  windowStart : Nat
  bannedUntil : Nat
  lastAccess : Nat
deriving DecidableEq

structure UsernameEntry where
  ips : Finset IpAddr
  totalAttemptsWindow : Nat
  windowStart : Nat
  lockedUntil : Nat
  lastAccess : Nat
deriving DecidableEq

/-- Count a failure; at the threshold an entry that is not locked is locked and starts over. -/
def TupleEntry.recordFailure (policy : LockoutPolicy) (now : Nat) (e : TupleEntry) : TupleEntry × Bool :=
  let failed := satAdd32 e.failedAttempts 1
  if policy.tupleMaxAttempts ≤ failed ∧ e.lockedUntil ≤ now then
    (⟨0, satAdd64 now policy.tupleLockoutSecs, now⟩, true)
  else (⟨failed, e.lockedUntil, now⟩, false)

def IpEntry.recordFailure (policy : LockoutPolicy) (now : Nat) (e : IpEntry) : IpEntry × Bool :=
  let (failed, windowStart) := if 3600 < now - e.windowStart then (0, now) else (e.failedAttemptsHour, e.windowStart)
  let failed := satAdd32 failed 1
  if policy.ipMaxAttempts ≤ failed ∧ e.bannedUntil ≤ now then
    (⟨0, windowStart, satAdd64 now policy.ipBanSecs, now⟩, true)
  else (⟨failed, windowStart, e.bannedUntil, now⟩, false)

def UsernameEntry.recordFailure (policy : LockoutPolicy) (ip : IpAddr) (now : Nat) (e : UsernameEntry) :
    UsernameEntry × Bool :=
  let (ips, total, windowStart) := if policy.usernameWindowSecs < now - e.windowStart then (∅, 0, now)
    else (e.ips, e.totalAttemptsWindow, e.windowStart)
  let total := satAdd32 total 1
  let ips := insert ip ips
  if policy.usernameMinAttempts ≤ total ∧ policy.usernameSpreadMinIps ≤ ips.card % 2 ^ 32 ∧
      e.lockedUntil ≤ now then
    (⟨∅, 0, windowStart, satAdd64 now policy.usernameLockSecs, now⟩, true)
  else (⟨ips, total, windowStart, e.lockedUntil, now⟩, false)

/-- Make room in a full map by dropping an entry untouched for longest; which among several is up to the hash map. -/
def evictIfFull {κ ν : Type} [DecidableEq κ] (order : Chooser κ) (lastAccess : ν → Nat) (cap : Nat)
    (map : Table κ ν) : Table κ ν :=
  if map.keys.length < cap then map
  else
    match order.choose ((map.entries.filter fun x => lastAccess x.2 < 2 ^ 64 - 1 ∧
        ∀ y ∈ map.entries, lastAccess x.2 ≤ lastAccess y.2).map (·.1)) with
    | some key => map.erase key
    | none => map

structure LockoutOrder where
  tuples : Chooser (String × IpAddr)
  ips : Chooser IpAddr
  usernames : Chooser String

structure AuthLockoutTracker where
  tuples : Table (String × IpAddr) TupleEntry
  ips : Table IpAddr IpEntry
  usernames : Table String UsernameEntry
  policy : LockoutPolicy

namespace AuthLockoutTracker

def new (policy : LockoutPolicy) : AuthLockoutTracker := ⟨∅, ∅, ∅, policy⟩

def withProductionDefaults : AuthLockoutTracker := new .production

variable (t : AuthLockoutTracker)

def checkLockout (username : String) (ip : IpAddr) (now : Nat) : Option LockoutKind :=
  if (t.ips.lookup ip).any fun e => now < e.bannedUntil then some .ip
  else if (t.tuples.lookup (username, ip)).any fun e => now < e.lockedUntil then some .tuple
  else if (t.usernames.lookup username).any fun e => now < e.lockedUntil then some .usernameSpread
  else none

def recordSuccess (username : String) (ip : IpAddr) : AuthLockoutTracker :=
  { t with tuples := t.tuples.erase (username, ip) }

/-- Count a failure three times, and say which lockout it sets off first. -/
def recordFailure (order : LockoutOrder) (t : AuthLockoutTracker) (username : String) (ip : IpAddr) (now : Nat) :
    AuthLockoutTracker × Option LockoutKind :=
  let tuples := evictIfFull order.tuples TupleEntry.lastAccess t.policy.maxEntries t.tuples
  let (tuple, tupleFired) := ((tuples.lookup (username, ip)).getD ⟨0, 0, 0⟩).recordFailure t.policy now
  let ips := evictIfFull order.ips IpEntry.lastAccess t.policy.maxEntries t.ips
  let (ipEntry, ipFired) := ((ips.lookup ip).getD ⟨0, 0, 0, 0⟩).recordFailure t.policy now
  let usernames := evictIfFull order.usernames UsernameEntry.lastAccess t.policy.maxEntries t.usernames
  let (user, userFired) := ((usernames.lookup username).getD ⟨∅, 0, 0, 0, 0⟩).recordFailure t.policy ip now
  ({ t with
      tuples := tuples.insert (username, ip) tuple
      ips := ips.insert ip ipEntry
      usernames := usernames.insert username user },
    if tupleFired then some .tuple else if ipFired then some .ip
    else if userFired then some .usernameSpread else none)

structure Free (t : AuthLockoutTracker) (username : String) (ip : IpAddr) (now : Nat) : Prop where
  address : ∀ e, t.ips.lookup ip = some e → e.bannedUntil ≤ now
  pair : ∀ e, t.tuples.lookup (username, ip) = some e → e.lockedUntil ≤ now
  account : ∀ e, t.usernames.lookup username = some e → e.lockedUntil ≤ now

theorem checkLockout_eq_none {t : AuthLockoutTracker} {username : String} {ip : IpAddr} {now : Nat} :
    t.checkLockout username ip now = none ↔ t.Free username ip now := by
  have hany : ∀ {α : Type} {o : Option α} {bound : α → Nat},
      ¬(o.any fun e => now < bound e) = true ↔ ∀ e, o = some e → bound e ≤ now := by
    intro α o bound
    cases o with
    | none => simp
    | some e => simp
  unfold checkLockout
  constructor
  · intro h
    split at h
    · cases h
    · rename_i hip
      split at h
      · cases h
      · rename_i htuple
        split at h
        · cases h
        · rename_i husername
          exact ⟨hany.mp hip, hany.mp htuple, hany.mp husername⟩
  · rintro ⟨hip, htuple, husername⟩
    rw [if_neg (hany.mpr hip), if_neg (hany.mpr htuple), if_neg (hany.mpr husername)]

end AuthLockoutTracker

/-! ### Evictions -/

section eviction
variable {κ ν : Type} {order : Chooser κ} {lastAccess : ν → Nat} {cap : Nat} {map : Table κ ν} {key : κ}

def oldest (order : Chooser κ) (lastAccess : ν → Nat) (cap : Nat) (map : Table κ ν) : Option κ :=
  if map.keys.length < cap then none
  else order.choose ((map.entries.filter fun x => lastAccess x.2 < 2 ^ 64 - 1 ∧
    ∀ y ∈ map.entries, lastAccess x.2 ≤ lastAccess y.2).map (·.1))

theorem mem_of_oldest (h : oldest order lastAccess cap map = some key) : key ∈ map := by
  unfold oldest at h
  split at h
  · cases h
  · obtain ⟨x, hx, rfl⟩ := List.mem_map.mp (order.choose_mem h)
    exact AList.mem_keys.mpr (List.mem_map_of_mem (List.mem_filter.mp hx).1)

variable [DecidableEq κ]

theorem evictIfFull_eq : evictIfFull order lastAccess cap map = match oldest order lastAccess cap map with
    | some key => map.erase key
    | none => map := by
  unfold evictIfFull oldest
  split <;> rfl

/-- The others stay as they are, and the entry under `key` goes on from what it holds. -/
def Continued (map map' : Table κ ν) (key : κ) (record : ν → ν) : Prop :=
  (∀ k, k ≠ key → map'.lookup k = map.lookup k) ∧ map'.lookup key = (map.lookup key).map record

/-- The map gives up nothing, or just the entry under `key` where that holds no more than a new one. -/
def Spares (order : Chooser κ) (lastAccess : ν → Nat) (cap : Nat) (map : Table κ ν) (key : κ) (likeNew : Prop) : Prop :=
  ∀ k, oldest order lastAccess cap map = some k → k = key ∧ likeNew

theorem continued_iff (record : ν → ν) (fresh : ν) {e : ν} {likeNew : Prop} (htracked : map.lookup key = some e)
    (hnew : record fresh = record e ↔ likeNew) :
    Continued map ((evictIfFull order lastAccess cap map).insert key
        (record (((evictIfFull order lastAccess cap map).lookup key).getD fresh))) key record ↔
      Spares order lastAccess cap map key likeNew := by
  rw [evictIfFull_eq, Continued, Spares, AList.lookup_insert, htracked, ← hnew]
  cases hold : oldest order lastAccess cap map with
  | none =>
    refine iff_of_true ⟨fun k hk => AList.lookup_insert_ne hk, ?_⟩ (fun k h => by cases h)
    rw [htracked]
    rfl
  | some k =>
    by_cases hk : k = key
    · subst hk
      rw [AList.lookup_erase]
      constructor
      · rintro ⟨-, hown⟩ k' hk'
        exact ⟨(Option.some.inj hk').symm, Option.some.inj hown⟩
      · intro h
        refine ⟨fun k' hk' => ?_, congrArg some (h k rfl).2⟩
        rw [AList.lookup_insert_ne hk', AList.lookup_erase_ne hk']
    · refine iff_of_false (fun h => ?_) fun h => hk (h k rfl).1
      have hgone := h.1 k hk
      rw [AList.lookup_insert_ne hk, AList.lookup_erase] at hgone
      exact AList.lookup_eq_none.mp hgone.symm (mem_of_oldest hold)

end eviction

/-! The entries that a failure leaves as it leaves a new one. -/

theorem satAdd32_one (n : Nat) : 1 ≤ satAdd32 n 1 ∧ (satAdd32 n 1 = 1 ↔ n = 0) := by
  unfold satAdd32
  omega

/-- A failure leaves the entry as it leaves a new one. -/
def TupleEntry.LikeNew (policy : LockoutPolicy) (now : Nat) (e : TupleEntry) : Prop :=
  if policy.tupleMaxAttempts ≤ 1 then e.lockedUntil ≤ now else e.failedAttempts = 0 ∧ e.lockedUntil = 0

theorem TupleEntry.recordFailure_new (policy : LockoutPolicy) (now : Nat) (e : TupleEntry) :
    (recordFailure policy now ⟨0, 0, 0⟩).1 = (e.recordFailure policy now).1 ↔ e.LikeNew policy now := by
  obtain ⟨hpos, hone⟩ := satAdd32_one e.failedAttempts
  have hnew : satAdd32 0 1 = 1 := rfl
  unfold recordFailure LikeNew
  grind

/-- A new entry's window starts at once, unless the clock is less than a window old. -/
def IpEntry.LikeNew (policy : LockoutPolicy) (now : Nat) (e : IpEntry) : Prop :=
  (3600 < now - e.windowStart ∨ e.windowStart = if 3600 < now then now else 0) ∧
    if policy.ipMaxAttempts ≤ 1 then e.bannedUntil ≤ now
    else (3600 < now - e.windowStart ∨ e.failedAttemptsHour = 0) ∧ e.bannedUntil = 0

theorem IpEntry.recordFailure_new (policy : LockoutPolicy) (now : Nat) (e : IpEntry) :
    (recordFailure policy now ⟨0, 0, 0, 0⟩).1 = (e.recordFailure policy now).1 ↔ e.LikeNew policy now := by
  obtain ⟨hpos, hone⟩ := satAdd32_one e.failedAttemptsHour
  have hnew : satAdd32 0 1 = 1 := rfl
  unfold recordFailure LikeNew
  grind

def UsernameEntry.LikeNew (policy : LockoutPolicy) (ip : IpAddr) (now : Nat) (e : UsernameEntry) : Prop :=
  let expired := policy.usernameWindowSecs < now - e.windowStart
  (expired ∨ e.windowStart = if policy.usernameWindowSecs < now then now else 0) ∧
    if policy.usernameMinAttempts ≤ 1 ∧ policy.usernameSpreadMinIps ≤ 1 then
      policy.usernameSpreadMinIps ≤ (insert ip (if expired then ∅ else e.ips)).card % 2 ^ 32 ∧ e.lockedUntil ≤ now
    else (expired ∨ e.ips ⊆ {ip} ∧ e.totalAttemptsWindow = 0) ∧ e.lockedUntil = 0

theorem UsernameEntry.recordFailure_new (policy : LockoutPolicy) (ip : IpAddr) (now : Nat) (e : UsernameEntry) :
    (recordFailure policy ip now ⟨∅, 0, 0, 0, 0⟩).1 = (e.recordFailure policy ip now).1 ↔ e.LikeNew policy ip now := by
  obtain ⟨hpos, hone⟩ := satAdd32_one e.totalAttemptsWindow
  have hnew : satAdd32 0 1 = 1 := rfl
  have hcard : (insert ip (∅ : Finset IpAddr)).card % 2 ^ 32 = 1 := by simp
  have hips : insert ip e.ips = insert ip ∅ ↔ e.ips ⊆ {ip} := by
    rw [insert_empty_eq]
    constructor
    · intro h
      exact h ▸ Finset.subset_insert ip e.ips
    · intro h
      exact (Finset.insert_subset (Finset.mem_singleton_self ip) h).antisymm (by simp)
  unfold recordFailure LikeNew
  grind

namespace AuthLockoutTracker

/-- A failure goes on from what is tracked and leaves every other entry alone, in all three maps. -/
structure Continues (order : LockoutOrder) (t : AuthLockoutTracker) (username : String) (ip : IpAddr) (now : Nat) :
    Prop where
  tuples : Continued t.tuples (t.recordFailure order username ip now).1.tuples (username, ip)
    fun e => (e.recordFailure t.policy now).1
  ips : Continued t.ips (t.recordFailure order username ip now).1.ips ip fun e => (e.recordFailure t.policy now).1
  usernames : Continued t.usernames (t.recordFailure order username ip now).1.usernames username
    fun e => (e.recordFailure t.policy ip now).1

/-- A failure of a key that all three maps track evicts nothing just if no map is full, or if each that is drops the
key's own entry and that counts no more than a new one. -/
theorem tracked_failure_evicts_nothing_iff (order : LockoutOrder) (t : AuthLockoutTracker) (username : String)
    (ip : IpAddr) (now : Nat) (tuple : TupleEntry) (ipEntry : IpEntry) (user : UsernameEntry)
    (htuple : t.tuples.lookup (username, ip) = some tuple) (hip : t.ips.lookup ip = some ipEntry)
    (huser : t.usernames.lookup username = some user) :
    t.Continues order username ip now ↔
      Spares order.tuples TupleEntry.lastAccess t.policy.maxEntries t.tuples (username, ip)
        (tuple.LikeNew t.policy now) ∧
      Spares order.ips IpEntry.lastAccess t.policy.maxEntries t.ips ip (ipEntry.LikeNew t.policy now) ∧
      Spares order.usernames UsernameEntry.lastAccess t.policy.maxEntries t.usernames username
        (user.LikeNew t.policy ip now) := by
  rw [← continued_iff (fun e => (e.recordFailure t.policy now).1) _ htuple (tuple.recordFailure_new t.policy now),
    ← continued_iff (fun e => (e.recordFailure t.policy now).1) _ hip (ipEntry.recordFailure_new t.policy now),
    ← continued_iff (fun e => (e.recordFailure t.policy ip now).1) _ huser (user.recordFailure_new t.policy ip now)]
  exact ⟨fun h => ⟨h.tuples, h.ips, h.usernames⟩, fun h => ⟨h.1, h.2.1, h.2.2⟩⟩

end AuthLockoutTracker

namespace EvictionSample

def order : LockoutOrder := ⟨.first, .first, .first⟩
def alice : IpAddr := .v4 (ipv4 203 0 113 7)
def bob : IpAddr := .v4 (ipv4 203 0 113 8)

def tracker (maxEntries : Nat) : AuthLockoutTracker :=
  let t := AuthLockoutTracker.new { LockoutPolicy.production with maxEntries }
  ((t.recordFailure order "alice" alice 1000).1.recordFailure order "bob" bob 1001).1

theorem second_failure_evicts : ((tracker 2).tuples.lookup ("alice", alice)).isSome ∧
    ¬(tracker 2).Continues order "bob" bob 1002 := by
  refine ⟨by decide +kernel, fun h => ?_⟩
  have hkept := h.tuples.1 ("alice", alice) (by decide)
  exact absurd hkept (by decide +kernel)

theorem second_failure_evicts_nothing : (tracker 100000).Continues order "bob" bob 1002 := by
  refine (AuthLockoutTracker.tracked_failure_evicts_nothing_iff order (tracker 100000) "bob" bob 1002 _ _ _ rfl rfl
    rfl).mpr ⟨?_, ?_, ?_⟩
  all_goals
    intro k hk
    cases hk

end EvictionSample

end HpnVpn
