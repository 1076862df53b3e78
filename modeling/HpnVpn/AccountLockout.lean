import HpnVpn.LockoutRuns
import HpnVpn.PasswordChange

/-! Logins at the server: the tracker of failed logins in front of the user store, which alone ignores letter case. -/
namespace HpnVpn
open Wire Tables Runs

namespace Users
variable {K : PasswordHasher} {users : Users K} {name name' : String}

/-- The name as the store spells it; a name without an account stays as it is. -/
def spelling (users : Users K) (name : String) : String := (users.select name).elim name fun found => found.2.username

structure SameAccount (users : Users K) (name name' : String) : Prop where
  nocase_eq : nocase name = nocase name'
  found : (users.select name').isSome = true

instance (users : Users K) (name name' : String) : Decidable (users.SameAccount name name') :=
  decidable_of_iff (nocase name = nocase name' ∧ (users.select name').isSome = true)
    ⟨fun h => ⟨h.1, h.2⟩, fun h => ⟨h.nocase_eq, h.found⟩⟩

theorem select_congr (h : nocase name = nocase name') : users.select name = users.select name' := by
  unfold select
  rw [h]

theorem nocase_spelling (users : Users K) (name : String) : nocase (users.spelling name) = nocase name := by
  unfold spelling
  cases hfound : users.select name with
  | none => rfl
  | some found => exact (select_eq_some.mp hfound).2

theorem sameAccount_of_spelling (h : users.spelling name = users.spelling name') :
    users.SameAccount name name' ∨ name = name' := by
  have hnocase : nocase name = nocase name' := by
    rw [← nocase_spelling users name, h, nocase_spelling]
  cases hfound : users.select name' with
  | some found => exact .inl ⟨hnocase, by rw [hfound, Option.isSome_some]⟩
  | none =>
    right
    rw [spelling, spelling, select_congr hnocase, hfound] at h
    exact h

theorem spelling_update (users : Users K) (id : Int) (f : UserRow K → UserRow K)
    (hname : ∀ row, (f row).username = row.username) : (users.update id f hname).1.spelling = users.spelling := by
  funext name
  unfold spelling
  rw [select_update]
  cases users.select name with
  | none => rfl
  | some found =>
    rw [Option.map_some, Option.elim_some, Option.elim_some]
    split
    · exact hname found.2
    · rfl

theorem spelling_verifyPassword (password : String) (now : Int) (fault : Option String) :
    (users.verifyPassword name password now fault).1.spelling = users.spelling := by
  unfold verifyPassword
  split
  · rfl
  unfold settle
  split
  · rfl
  · rfl
  · rw [spelling_update]
  · rfl
  · rw [spelling_update]
  · rfl

theorem verifyPassword_spelling (password : String) (now : Int) (fault : Option String) :
    users.verifyPassword (users.spelling name) password now fault = users.verifyPassword name password now fault := by
  unfold verifyPassword
  rw [select_congr (nocase_spelling users name)]

end Users

namespace AuthLockoutTracker
variable {t t' : AuthLockoutTracker} {ρ : String → String} {name : String} {ip : IpAddr}

/-- `t'` tracks under the names `ρ` gives what `t` tracks; every pair is tracked with its username. -/
structure Respelled (ρ : String → String) (t t' : AuthLockoutTracker) : Prop where
  policy_eq : t'.policy = t.policy
  ips_eq : t'.ips = t.ips
  tuples : Renames (fun key : String × IpAddr => (ρ key.1, key.2)) t.tuples t'.tuples
  usernames : Renames ρ t.usernames t'.usernames
  tracked : ∀ key ∈ t.tuples.keys, key.1 ∈ t.usernames.keys

theorem respelled_new (ρ : String → String) (policy : LockoutPolicy) : Respelled ρ (.new policy) (.new policy) :=
  ⟨rfl, rfl, rfl, rfl, nofun⟩

namespace Respelled

theorem apart_tuples (h : Respelled ρ t t') (hname : Apart ρ name t.usernames.keys) (ip : IpAddr) :
    Apart (fun key : String × IpAddr => (ρ key.1, key.2)) (name, ip) t.tuples.keys := by
  rintro ⟨name', ip'⟩ hmem heq
  obtain ⟨hρ, rfl⟩ := Prod.mk.inj heq
  rw [hname name' (h.tracked _ hmem) hρ]

theorem lookup_tuples (h : Respelled ρ t t') (hname : Apart ρ name t.usernames.keys) (ip : IpAddr) :
    t'.tuples.lookup (ρ name, ip) = t.tuples.lookup (name, ip) := h.tuples.lookup (h.apart_tuples hname ip)

theorem checkLockout (h : Respelled ρ t t') (hname : Apart ρ name t.usernames.keys) (ip : IpAddr) (now : Nat) :
    t'.checkLockout (ρ name) ip now = t.checkLockout name ip now := by
  unfold AuthLockoutTracker.checkLockout
  rw [h.ips_eq, h.lookup_tuples hname, h.usernames.lookup hname]

theorem recordSuccess (h : Respelled ρ t t') (hname : Apart ρ name t.usernames.keys) (ip : IpAddr) :
    Respelled ρ (t.recordSuccess name ip) (t'.recordSuccess (ρ name) ip) where
  policy_eq := h.policy_eq
  ips_eq := h.ips_eq
  tuples := h.tuples.erase (h.apart_tuples hname ip)
  usernames := h.usernames
  tracked key hkey := h.tracked key (AList.mem_keys.mp (AList.mem_erase.mp (AList.mem_keys.mpr hkey)).2)

theorem room (h : Respelled ρ t t') (hroom : t.Room) : t'.Room where
  tuples := by
    rw [h.tuples.keys_length, h.policy_eq]
    exact hroom.tuples
  ips := by
    rw [h.ips_eq, h.policy_eq]
    exact hroom.ips
  usernames := by
    rw [h.usernames.keys_length, h.policy_eq]
    exact hroom.usernames

theorem recordFailure (h : Respelled ρ t t') (hroom : t.Room) (hname : Apart ρ name t.usernames.keys)
    (order : LockoutOrder) (ip : IpAddr) (now : Nat) :
    Respelled ρ (t.recordFailure order name ip now).1 (t'.recordFailure order (ρ name) ip now).1 ∧
      (t'.recordFailure order (ρ name) ip now).2 = (t.recordFailure order name ip now).2 := by
  have hroom' := h.room hroom
  unfold AuthLockoutTracker.recordFailure
  dsimp only
  rw [evictIfFull_of_lt hroom.tuples, evictIfFull_of_lt hroom.ips, evictIfFull_of_lt hroom.usernames,
    evictIfFull_of_lt hroom'.tuples, evictIfFull_of_lt hroom'.ips, evictIfFull_of_lt hroom'.usernames,
    h.lookup_tuples hname, h.usernames.lookup hname, h.ips_eq, h.policy_eq]
  refine ⟨⟨rfl, rfl, h.tuples.insert (h.apart_tuples hname ip) _, h.usernames.insert hname _, ?_⟩, rfl⟩
  intro key hkey
  rw [← AList.mem_keys, AList.mem_insert] at hkey ⊢
  rcases hkey with rfl | hkey
  · exact .inl rfl
  · exact .inr (AList.mem_keys.mpr (h.tracked key (AList.mem_keys.mp hkey)))

end Respelled
end AuthLockoutTracker

/-! ### Logins -/

/-- An attempt; the check, the store and the count each read the clock. -/
structure LoginAttempt where
  username : String
  password : String
  ip : IpAddr
  checkedAt : Nat
  verifiedAt : Int
  recordedAt : Nat
  fault : Option String
  order : LockoutOrder

/-- What became of a login. -/
inductive LoginDecision
  | refused (kind : LockoutKind)
  | accepted
  | failed (fired : Option LockoutKind)
  | storeError (e : ServerError)
deriving DecidableEq

/-- The user store behind the lockout tracker. -/
structure LoginServer (K : PasswordHasher) where
  users : Users K
  tracker : AuthLockoutTracker

namespace LoginServer
variable {K : PasswordHasher} {s s' : LoginServer K} {a : LoginAttempt}

def start (users : Users K) (policy : LockoutPolicy) : LoginServer K := ⟨users, .new policy⟩

/-- A store error does not count as a failed login. -/
def authenticateCredentials (s : LoginServer K) (a : LoginAttempt) : LoginServer K × LoginDecision :=
  match s.tracker.checkLockout a.username a.ip a.checkedAt with
  | some kind => (s, .refused kind)
  | none =>
    match s.users.verifyPassword a.username a.password a.verifiedAt a.fault with
    | (users, .ok true) => (⟨users, s.tracker.recordSuccess a.username a.ip⟩, .accepted)
    | (users, .ok false) =>
      let (tracker, fired) := s.tracker.recordFailure a.order a.username a.ip a.recordedAt
      (⟨users, tracker⟩, .failed fired)
    | (users, .error e) => (⟨users, s.tracker⟩, .storeError e)

def step (s : LoginServer K) (a : LoginAttempt) : LoginServer K := (s.authenticateCredentials a).1

def decisions (s : LoginServer K) : List LoginAttempt → List LoginDecision
  | [] => []
  | a :: attempts => (s.authenticateCredentials a).2 :: (s.step a).decisions attempts

def respell (users : Users K) (a : LoginAttempt) : LoginAttempt := { a with username := users.spelling a.username }

/-- The account is tracked under no other spelling than the one of the attempt, and the tracker has room. -/
structure OneSpelling (s : LoginServer K) (a : LoginAttempt) : Prop where
  room : s.tracker.Room
  spelled : ∀ name ∈ s.tracker.usernames.keys, s.users.SameAccount name a.username → name = a.username

instance (s : LoginServer K) (a : LoginAttempt) : Decidable (s.OneSpelling a) :=
  decidable_of_iff (s.tracker.Room ∧
      ∀ name ∈ s.tracker.usernames.keys, s.users.SameAccount name a.username → name = a.username)
    ⟨fun h => ⟨h.1, h.2⟩, fun h => ⟨h.room, h.spelled⟩⟩

structure Coupled (s s' : LoginServer K) : Prop where
  users_eq : s'.users = s.users
  tracker : s.tracker.Respelled s.users.spelling s'.tracker

theorem OneSpelling.apart (h : s.OneSpelling a) : Apart s.users.spelling a.username s.tracker.usernames.keys := by
  intro name hmem heq
  rcases Users.sameAccount_of_spelling heq with hsame | hsame
  · exact h.spelled name hmem hsame
  · exact hsame

theorem spelling_step (s : LoginServer K) (a : LoginAttempt) : (s.step a).users.spelling = s.users.spelling := by
  have hverify := @Users.spelling_verifyPassword K s.users a.username a.password a.verifiedAt a.fault
  unfold step authenticateCredentials
  split
  · rfl
  split
  all_goals
    rename_i heq
    rw [heq] at hverify
    exact hverify

theorem Coupled.authenticateCredentials (h : s.Coupled s') (ha : s.OneSpelling a) :
    (s.step a).Coupled (s'.step (respell s.users a)) ∧
      (s'.authenticateCredentials (respell s.users a)).2 = (s.authenticateCredentials a).2 := by
  have hsuccess := h.tracker.recordSuccess ha.apart a.ip
  have hfailure := h.tracker.recordFailure ha.room ha.apart a.order a.ip a.recordedAt
  have hspelling := @Users.spelling_verifyPassword K s.users a.username a.password a.verifiedAt a.fault
  unfold step LoginServer.authenticateCredentials respell
  rw [h.tracker.checkLockout ha.apart, h.users_eq, Users.verifyPassword_spelling]
  cases s.tracker.checkLockout a.username a.ip a.checkedAt with
  | some kind => exact ⟨h, rfl⟩
  | none =>
    generalize s.users.verifyPassword a.username a.password a.verifiedAt a.fault = verified at hspelling ⊢
    -- the store is the same for both from here on, and spells the names as before
    obtain ⟨users, e | accepted⟩ := verified
    · exact ⟨⟨rfl, hspelling ▸ h.tracker⟩, rfl⟩
    · cases accepted with
      | true => exact ⟨⟨rfl, hspelling ▸ hsuccess⟩, rfl⟩
      | false => exact ⟨⟨rfl, hspelling ▸ hfailure.1⟩, congrArg LoginDecision.failed hfailure.2⟩

theorem Coupled.decisions (h : s.Coupled s') (attempts : List LoginAttempt)
    (hmeets : Meets OneSpelling step s attempts) :
    s'.decisions (attempts.map (respell s.users)) = s.decisions attempts := by
  induction attempts generalizing s s' with
  | nil => rfl
  | cons a attempts ih =>
    obtain ⟨hnext, hdecision⟩ := h.authenticateCredentials hmeets.1
    have hsame : respell (s.step a).users = respell s.users := by
      funext b
      rw [respell, respell, spelling_step]
    have hrest := ih hnext hmeets.2
    rw [hsame] at hrest
    rw [List.map_cons, LoginServer.decisions, LoginServer.decisions, hdecision, hrest]

/-- The lockouts decide as if every attempt used the stored spelling, as long as no account is tried under a second
one. -/
theorem lockouts_shared_of_oneSpelling (users : Users K) (policy : LockoutPolicy) (attempts : List LoginAttempt)
    (h : Meets OneSpelling step (start users policy) attempts) :
    (start users policy).decisions (attempts.map (respell users)) = (start users policy).decisions attempts :=
  Coupled.decisions ⟨rfl, AuthLockoutTracker.respelled_new _ policy⟩ attempts h

end LoginServer

namespace AccountSample
open LoginServer LockoutSample

def attempt (username : String) : LoginAttempt :=
  ⟨username, "guess", address, 1700000000, 1700000000, 1700000000, none, order⟩

def server : LoginServer PasswordSample.hasher := start PasswordSample.start.users .production

/-- Ten failures under two spellings lock nothing in the tracker, and ten under the stored one lock the pair. -/
theorem varied_case_not_locked :
    server.decisions ((List.range 10).map fun i => attempt (if i % 2 = 0 then "alice" else "Alice")) =
        List.replicate 10 (.failed none) ∧
      server.decisions (((List.range 10).map fun i => attempt (if i % 2 = 0 then "alice" else "Alice")).map
          (respell server.users)) =
        List.replicate 9 (.failed none) ++ [.failed (some .tuple)] := by
  decide +kernel

theorem lockouts_shared_capital :
    server.decisions (((List.replicate 10 "Alice").map attempt).map (respell server.users)) =
        server.decisions ((List.replicate 10 "Alice").map attempt) ∧
      server.decisions ((List.replicate 10 "Alice").map attempt) =
        List.replicate 9 (.failed none) ++ [.failed (some .tuple)] :=
  ⟨lockouts_shared_of_oneSpelling PasswordSample.start.users .production _ (by decide +kernel), by decide +kernel⟩

end AccountSample

end HpnVpn
