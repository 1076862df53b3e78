import HpnVpn.SessionManager

/-! The user store: accounts with names in any case, logins that count failures and lock, and the upgrade of weak
hashes by a detached thread. -/
namespace HpnVpn
open Tables

/-! ### Password hashes -/

structure HashParams where
  mCost : Nat
  tCost : Nat
deriving DecidableEq

/-- The Argon2 crate: it writes and parses hashes, and a hash verifies the password it was made from and no
other. -/
structure PasswordHasher where
  Phc : Type
  Parsed : Type
  Salt : Type
  new : Phc → Option Parsed
  params : Parsed → Option HashParams
  verify : String → Parsed → Bool
  hash : String → Salt → Except String Phc
  verify_hash : ∀ {password salt phc}, hash password salt = .ok phc →
    ∃ parsed, new phc = some parsed ∧ ∀ q, verify q parsed = true ↔ q = password

namespace PasswordHasher
variable (K : PasswordHasher)

def target : HashParams := ⟨65536, 3⟩

def hashPassword (password : String) (salt : K.Salt) : Except ServerError K.Phc :=
  (K.hash password salt).mapError fun e => .config s!"failed to hash password: {e}"

def verifyPasswordHash (password : String) (hash : K.Phc) : Bool :=
  match K.new hash with
  | none => false
  | some parsed => K.verify password parsed

def hashNeedsUpgrade (hash : K.Phc) : Bool :=
  match K.new hash with
  | none => false
  | some parsed =>
    match K.params parsed with
    | none => true
    | some current => current.mCost < target.mCost || current.tCost < target.tCost

theorem verifyPasswordHash_hashPassword {K : PasswordHasher} {password : String} {salt : K.Salt} {hash : K.Phc}
    (h : K.hashPassword password salt = .ok hash) (q : String) :
    K.verifyPasswordHash q hash = true ↔ q = password := by
  unfold hashPassword at h
  cases hhash : K.hash password salt with
  | error e =>
    rw [hhash] at h
    cases h
  | ok phc =>
    rw [hhash] at h
    cases h
    obtain ⟨parsed, hparsed, hverify⟩ := K.verify_hash hhash
    unfold verifyPasswordHash
    rw [hparsed]
    exact hverify q

end PasswordHasher

/-! ### Accounts -/

/-- What the collation `NOCASE` compares. -/
def nocase (name : String) : List Char := name.toList.map Char.toLower

structure UserRow (K : PasswordHasher) where
  username : String
  passwordHash : K.Phc
  createdAt : Int
  updatedAt : Int
  enabled : Bool
  failedAttempts : Int
  lockedUntil : Option Int

/-- The table `users` by `id`; no two rows have the same name. -/
structure Users (K : PasswordHasher) where
  rows : Table Int (UserRow K)
  unique : ∀ {i j r r'}, rows.lookup i = some r → rows.lookup j = some r' →
    nocase r.username = nocase r'.username → i = j

namespace Users
variable {K : PasswordHasher}

/-- `SELECT … WHERE username = ?`. -/
def select (users : Users K) (username : String) : Option (Int × UserRow K) :=
  (users.rows.entries.find? fun entry => nocase entry.2.username = nocase username).map fun entry =>
    (entry.1, entry.2)

/-- `UPDATE … WHERE id = ?`, and whether there was such a row; no statement of the store changes a name. -/
def update (users : Users K) (id : Int) (f : UserRow K → UserRow K)
    (hname : ∀ row, (f row).username = row.username) : Users K × Bool where
  fst := {
    rows := (onEntry users.rows id (fun row => (f row, true)) false).1
    unique := by
      have hold : Derives (fun row row' => row'.username = row.username) users.rows
          (onEntry users.rows id (fun row => (f row, true)) false).1 := derives_onEntry (fun _ => rfl) hname
      intro i j r r' hi hj hsame
      obtain ⟨r₀, hr, hrname⟩ := hold i r hi
      obtain ⟨r₀', hr', hrname'⟩ := hold j r' hj
      exact users.unique hr hr' (by rw [← hrname, ← hrname', hsame]) }
  snd := (onEntry users.rows id (fun row => (f row, true)) false).2

/-- `UPDATE … WHERE username = ?`. -/
def updateByName (users : Users K) (username : String) (f : UserRow K → UserRow K)
    (hname : ∀ row, (f row).username = row.username) : Users K × Bool :=
  match users.select username with
  | none => (users, false)
  | some (id, _) => users.update id f hname

variable {users : Users K}

theorem select_eq_some {username : String} {id : Int} {row : UserRow K} :
    users.select username = some (id, row) ↔
      users.rows.lookup id = some row ∧ nocase row.username = nocase username := by
  constructor
  · intro h
    obtain ⟨entry, hfind, hentry⟩ := Option.map_eq_some_iff.mp h
    cases hentry
    exact ⟨AList.mem_lookup_iff.mpr (List.mem_of_find?_eq_some hfind), of_decide_eq_true (List.find?_some hfind :)⟩
  · rintro ⟨hrow, hname⟩
    have hmem : (⟨id, row⟩ : Sigma fun _ : Int => UserRow K) ∈ users.rows.entries := AList.mem_lookup_iff.mp hrow
    cases hfind : users.rows.entries.find? fun entry => nocase entry.2.username = nocase username with
    | none => exact absurd (decide_eq_true hname) (List.find?_eq_none.mp hfind _ hmem)
    | some entry =>
      obtain ⟨id', row'⟩ := entry
      have hrow' : users.rows.lookup id' = some row' :=
        AList.mem_lookup_iff.mpr (List.mem_of_find?_eq_some hfind)
      have hname' : nocase row'.username = nocase username := of_decide_eq_true (List.find?_some hfind :)
      obtain rfl := users.unique hrow hrow' (hname.trans hname'.symm)
      cases hrow.symm.trans hrow'
      rw [select, hfind]
      rfl

theorem select_update {id : Int} {f : UserRow K → UserRow K}
    {hname : ∀ row, (f row).username = row.username} (username : String) :
    (users.update id f hname).1.select username =
      (users.select username).map fun found => (found.1, if found.1 = id then f found.2 else found.2) := by
  apply Option.ext
  rintro ⟨i, row⟩
  rw [select_eq_some, Option.map_eq_some_iff]
  show (onEntry users.rows id (fun row => (f row, true)) false).1.lookup i = some row ∧ _ ↔ _
  rw [lookup_onEntry]
  constructor
  · rintro ⟨hrow, hsame⟩
    split at hrow
    · rename_i heq
      obtain ⟨old, hold, rfl⟩ := Option.map_eq_some_iff.mp hrow
      refine ⟨(i, old), select_eq_some.mpr ⟨heq ▸ hold, (congrArg nocase (hname old)).symm.trans hsame⟩, ?_⟩
      rw [if_pos heq]
    · rename_i hne
      refine ⟨(i, row), select_eq_some.mpr ⟨hrow, hsame⟩, ?_⟩
      rw [if_neg hne]
  · rintro ⟨⟨j, old⟩, hold, heq⟩
    obtain ⟨hlookup, hsame⟩ := select_eq_some.mp hold
    obtain ⟨rfl, hnew⟩ := Prod.mk.inj heq
    split at hnew
    · rename_i hid
      subst hnew hid
      rw [if_pos rfl, hlookup]
      exact ⟨rfl, (congrArg nocase (hname old)).trans hsame⟩
    · rename_i hid
      subst hnew
      rw [if_neg hid]
      exact ⟨hlookup, hsame⟩

theorem select_updateByName {username : String} {f : UserRow K → UserRow K}
    {hname : ∀ row, (f row).username = row.username} :
    (users.updateByName username f hname).1.select username =
      (users.select username).map fun found => (found.1, f found.2) := by
  unfold updateByName
  cases hfound : users.select username with
  | none => exact hfound
  | some found =>
    rw [select_update, hfound, Option.map_some, Option.map_some, if_pos rfl]

/-! ### Statements of the store

A statement may fail; `fault` is the error of the database then. -/

def maxFailedAttempts : Int := 10
def lockoutBaseSecs : Int := 30
def lockoutMaxSecs : Int := 3600

inductive Verdict
  | locked
  | disabled
  | accepted
  | wrong (failedAttempts : Int) (lockoutUntil : Option Int)
deriving DecidableEq

/-- When the lock set by the failure that makes the count `failedAttempts` ends. -/
def lockoutUntil (failedAttempts now : Int) : Option Int :=
  if maxFailedAttempts ≤ failedAttempts then
    let exponent := (min (failedAttempts - maxFailedAttempts) 10).toNat
    let backoffSecs := min (lockoutBaseSecs * 2 ^ exponent) lockoutMaxSecs
    some (min (now + backoffSecs) (2 ^ 63 - 1))
  else none

def judge (row : UserRow K) (password : String) (now : Int) : Verdict :=
  if row.lockedUntil.any fun until_ => now < until_ then .locked
  else if row.enabled = false then .disabled
  else if K.verifyPasswordHash password row.passwordHash then .accepted
  else
    let failedAttempts := min (row.failedAttempts + 1) (2 ^ 31 - 1)
    .wrong failedAttempts (lockoutUntil failedAttempts now)

def settle (users : Users K) (id : Int) (verdict : Verdict) (now : Int) (fault : Option String) :
    Users K × Except ServerError Bool :=
  match verdict, fault with
  | .locked, _ => (users, .ok false)
  | .disabled, _ => (users, .ok false)
  | .accepted, none =>
    ((users.update id (fun row => { row with failedAttempts := 0, lockedUntil := none }) fun _ => rfl).1, .ok true)
  | .accepted, some e => (users, .error (.config s!"failed to reset login attempts: {e}"))
  | .wrong failedAttempts lockedUntil, none =>
    ((users.update id (fun row => { row with failedAttempts, lockedUntil, updatedAt := now }) fun _ => rfl).1,
      .ok false)
  | .wrong _ _, some e => (users, .error (.config s!"failed to update failed_attempts: {e}"))

/-- A login, with nothing between its statements. -/
def verifyPassword (users : Users K) (username password : String) (now : Int) (fault : Option String) :
    Users K × Except ServerError Bool :=
  match users.select username with
  | none => (users, .ok false)
  | some (id, row) => users.settle id (judge row password now) now fault

def setEnabled (users : Users K) (username : String) (enabled : Bool) (now : Int) (fault : Option String) :
    Users K × Except ServerError Bool :=
  match fault with
  | some e => (users, .error (.config s!"failed to update user: {e}"))
  | none =>
    let (users, found) := users.updateByName username (fun row => { row with enabled, updatedAt := now }) fun _ => rfl
    (users, .ok found)

def changePassword (users : Users K) (username newPassword : String) (salt : K.Salt) (now : Int)
    (fault : Option String) : Users K × Except ServerError Bool :=
  if newPassword.utf8ByteSize < 8 then (users, .error (.config "password must be at least 8 characters"))
  else
    match K.hashPassword newPassword salt, fault with
    | .error e, _ => (users, .error e)
    | .ok _, some e => (users, .error (.config s!"failed to update password: {e}"))
    | .ok passwordHash, none =>
      let (users, found) := users.updateByName username
        (fun row => { row with passwordHash, updatedAt := now, failedAttempts := 0, lockedUntil := none }) fun _ => rfl
      (users, .ok found)

def resetFailedAttempts (users : Users K) (username : String) (now : Int) (fault : Option String) :
    Users K × Except ServerError Bool :=
  match fault with
  | some e => (users, .error (.config s!"failed to reset failed_attempts: {e}"))
  | none =>
    let (users, found) := users.updateByName username
      (fun row => { row with failedAttempts := 0, lockedUntil := none, updatedAt := now }) fun _ => rfl
    (users, .ok found)

end Users

/-- A detached thread that is to hash a password again and write the hash to a row. -/
structure HashUpgrade where
  userId : Int
  password : String
deriving DecidableEq

/-- The thread's write; it does nothing if it can not hash the password or write to the database. -/
def HashUpgrade.run {K : PasswordHasher} (task : HashUpgrade) (users : Users K) (salt : K.Salt) (now : Int)
    (fault : Option String) : Users K :=
  match K.hashPassword task.password salt, fault with
  | .ok passwordHash, none =>
    (users.update task.userId (fun row => { row with passwordHash, updatedAt := now }) fun _ => rfl).1
  | _, _ => users

namespace Users
variable {K : PasswordHasher} {users : Users K}

variable {now : Int}

theorem judge_eq_accepted {row : UserRow K} {password : String} :
    judge row password now = .accepted ↔
      ¬(row.lockedUntil.any fun until_ => now < until_) ∧ row.enabled = true ∧
        K.verifyPasswordHash password row.passwordHash = true := by
  unfold judge
  split
  · rename_i hlocked
    simp [hlocked]
  split
  · rename_i hdisabled
    simp [hdisabled]
  split
  · rename_i hlocked henabled hverify
    exact ⟨fun _ => ⟨hlocked, Bool.eq_true_of_not_eq_false henabled, hverify⟩, fun _ => rfl⟩
  · rename_i hverify
    simp [hverify]

theorem settle_eq_true {id : Int} {verdict : Verdict} :
    (users.settle id verdict now none).2 = .ok true ↔ verdict = .accepted := by
  cases verdict with
  | accepted => exact ⟨fun _ => rfl, fun _ => rfl⟩
  | locked => exact ⟨nofun, nofun⟩
  | disabled => exact ⟨nofun, nofun⟩
  | wrong => exact ⟨nofun, nofun⟩

theorem verifyPassword_eq_true {username password : String} :
    (users.verifyPassword username password now none).2 = .ok true ↔
      ∃ id row, users.select username = some (id, row) ∧
        ¬(row.lockedUntil.any fun until_ => now < until_) ∧ row.enabled = true ∧
          K.verifyPasswordHash password row.passwordHash = true := by
  unfold verifyPassword
  split
  · rename_i hnone
    refine ⟨nofun, ?_⟩
    rintro ⟨id, row, hrow, -⟩
    cases hnone.symm.trans hrow
  · rename_i id row hrow
    rw [settle_eq_true, judge_eq_accepted]
    constructor
    · intro h
      exact ⟨id, row, hrow, h⟩
    · rintro ⟨id', row', hrow', h⟩
      cases hrow.symm.trans hrow'
      exact h

def storedHash (users : Users K) (username : String) : Option K.Phc :=
  (users.select username).map fun found => found.2.passwordHash

theorem storedHash_update {id : Int} {f : UserRow K → UserRow K} {hname : ∀ row, (f row).username = row.username}
    (hhash : ∀ row, (f row).passwordHash = row.passwordHash) (username : String) :
    (users.update id f hname).1.storedHash username = users.storedHash username := by
  rw [storedHash, select_update, Option.map_map, storedHash]
  apply congrArg (Option.map · (users.select username))
  funext found
  show (if found.1 = id then f found.2 else found.2).passwordHash = _
  split
  · exact hhash found.2
  · rfl

theorem storedHash_updateByName {name : String} {f : UserRow K → UserRow K}
    {hname : ∀ row, (f row).username = row.username} (hhash : ∀ row, (f row).passwordHash = row.passwordHash)
    (username : String) : (users.updateByName name f hname).1.storedHash username = users.storedHash username := by
  unfold updateByName
  split
  · rfl
  · exact storedHash_update hhash username

theorem storedHash_settle (id : Int) (verdict : Verdict) (now : Int) (fault : Option String) (username : String) :
    (users.settle id verdict now fault).1.storedHash username = users.storedHash username := by
  unfold settle
  split
  case h_3 =>
      apply storedHash_update
      all_goals exact fun _ => rfl
  case h_5 =>
      apply storedHash_update
      all_goals exact fun _ => rfl
  all_goals rfl

theorem storedHash_setEnabled (name : String) (enabled : Bool) (now : Int) (fault : Option String)
    (username : String) : (users.setEnabled name enabled now fault).1.storedHash username = users.storedHash username := by
  unfold setEnabled
  split
  · rfl
  · apply storedHash_updateByName
    exact fun _ => rfl

theorem storedHash_resetFailedAttempts (name : String) (now : Int) (fault : Option String) (username : String) :
    (users.resetFailedAttempts name now fault).1.storedHash username = users.storedHash username := by
  unfold resetFailedAttempts
  split
  · rfl
  · apply storedHash_updateByName
    exact fun _ => rfl

end Users

end HpnVpn
