import HpnVpn.UserStore

/-! Password changes among logins and hash upgrades.  An upgrade is written by a thread of its own, so it can come
after a change that its login has not seen. -/
namespace HpnVpn
open Tables Runs Users

namespace Users
variable {K : PasswordHasher} {users : Users K} {username password : String}

def reopen (users : Users K) (username : String) : Users K :=
  ((users.setEnabled username true 0 none).1.resetFailedAttempts username 0 none).1

/-- Once the account is open again, this password logs in and no other. -/
def OnlyVerifies (users : Users K) (username password : String) : Prop :=
  ∀ q now, ((users.reopen username).verifyPassword username q now none).2 = .ok true ↔ q = password

variable {now : Int}

theorem verifyPassword_reopen {q : String} :
    ((users.reopen username).verifyPassword username q now none).2 = .ok true ↔
      ∃ hash, users.storedHash username = some hash ∧ K.verifyPasswordHash q hash = true := by
  have hselect : (users.reopen username).select username = (users.select username).map fun found =>
      (found.1, { found.2 with enabled := true, updatedAt := 0, failedAttempts := 0, lockedUntil := none }) := by
    show ((users.updateByName username _ _).1.updateByName username _ _).1.select username = _
    rw [select_updateByName, select_updateByName, Option.map_map]
    rfl
  rw [verifyPassword_eq_true, hselect]
  constructor
  · rintro ⟨id, row, hrow, -, -, hverify⟩
    obtain ⟨found, hfound, heq⟩ := Option.map_eq_some_iff.mp hrow
    cases heq
    exact ⟨found.2.passwordHash, Option.map_eq_some_iff.mpr ⟨found, hfound, rfl⟩, hverify⟩
  · rintro ⟨hash, hhash, hverify⟩
    obtain ⟨found, hfound, rfl⟩ := Option.map_eq_some_iff.mp hhash
    exact ⟨found.1, _, Option.map_eq_some_iff.mpr ⟨found, hfound, rfl⟩, Bool.false_ne_true, rfl, hverify⟩

theorem onlyVerifies_iff :
    users.OnlyVerifies username password ↔
      ∃ hash, users.storedHash username = some hash ∧ ∀ q, K.verifyPasswordHash q hash = true ↔ q = password := by
  constructor
  · intro h
    obtain ⟨hash, hhash, -⟩ := verifyPassword_reopen.mp ((h password 0).mpr rfl)
    refine ⟨hash, hhash, ?_⟩
    intro q
    rw [← h q 0, verifyPassword_reopen, hhash]
    exact ⟨fun hverify => ⟨hash, rfl, hverify⟩, fun ⟨_, heq, hverify⟩ => Option.some.inj heq ▸ hverify⟩
  · rintro ⟨hash, hhash, hverify⟩ q now
    rw [verifyPassword_reopen, hhash, ← hverify q]
    exact ⟨fun ⟨_, heq, h⟩ => Option.some.inj heq ▸ h, fun h => ⟨hash, rfl, h⟩⟩

theorem onlyVerifies_changePassword {salt : K.Salt} {fault : Option String}
    (h : (users.changePassword username password salt now fault).2 = .ok true) :
    (users.changePassword username password salt now fault).1.OnlyVerifies username password := by
  unfold changePassword at h ⊢
  split
  · rename_i hshort
    rw [if_pos hshort] at h
    cases h
  · rename_i hlong
    rw [if_neg hlong] at h
    split
    · rename_i hhash
      rw [hhash] at h
      cases h
    · rename_i hhash
      rw [hhash] at h
      cases h
    · rename_i hash hhash
      rw [hhash] at h
      have hfound : ∃ found, users.select username = some found := by
        cases hselect : users.select username with
        | some found => exact ⟨found, rfl⟩
        | none =>
          dsimp only at h
          rw [updateByName, hselect] at h
          cases h
      obtain ⟨found, hfound⟩ := hfound
      refine onlyVerifies_iff.mpr ⟨hash, ?_, PasswordHasher.verifyPasswordHash_hashPassword hhash⟩
      rw [storedHash, select_updateByName, hfound]
      rfl

theorem storedHash_changePassword {name newPassword : String} {salt : K.Salt} {fault : Option String}
    (hother : nocase name ≠ nocase username) :
    (users.changePassword name newPassword salt now fault).1.storedHash username = users.storedHash username := by
  unfold changePassword
  split
  · rfl
  split
  · rfl
  · rfl
  · dsimp only
    unfold updateByName
    split
    · rfl
    · rename_i id row hrow
      obtain ⟨hlookup, hname⟩ := select_eq_some.mp hrow
      rw [storedHash, select_update, Option.map_map, storedHash]
      cases hfound : users.select username with
      | none => rfl
      | some found =>
        -- The row that is written is not the account's, for their names differ.
        have hne : found.1 ≠ id := by
          rintro rfl
          obtain ⟨hlookup', hname'⟩ := select_eq_some.mp hfound
          cases hlookup.symm.trans hlookup'
          exact hother (hname.symm.trans hname')
        rw [Option.map_some, Option.map_some, Function.comp_apply, if_neg hne]

end Users

namespace HashUpgrade
variable {K : PasswordHasher} {task : HashUpgrade} {users : Users K} {salt : K.Salt} {now : Int}
  {fault : Option String} {username password : String}

/-- The password can be hashed, the statement is executed, and the row is the account's. -/
def Writes (task : HashUpgrade) (users : Users K) (salt : K.Salt) (fault : Option String) (username : String) : Prop :=
  (K.hashPassword task.password salt).isOk = true ∧ fault = none ∧
    (users.select username).any (fun found => found.1 = task.userId) = true

instance : Decidable (task.Writes users salt fault username) :=
  inferInstanceAs (Decidable (_ ∧ _ ∧ _))

theorem storedHash_run_of_not_writes (h : ¬task.Writes users salt fault username) :
    (task.run users salt now fault).storedHash username = users.storedHash username := by
  unfold run
  split
  · rename_i hash hhash
    rw [Users.storedHash, select_update, Option.map_map, Users.storedHash]
    cases hfound : users.select username with
    | none => rfl
    | some found =>
      have hne : found.1 ≠ task.userId := by
        intro heq
        exact h ⟨by rw [hhash]; rfl, rfl, by rw [hfound]; exact decide_eq_true heq⟩
      rw [Option.map_some, Option.map_some, Function.comp_apply, if_neg hne]
  · rfl

theorem onlyVerifies_run_of_writes (h : task.Writes users salt fault username) :
    (task.run users salt now fault).OnlyVerifies username task.password := by
  obtain ⟨hok, rfl, hrow⟩ := h
  cases hhash : K.hashPassword task.password salt with
  | error e =>
    rw [hhash] at hok
    cases hok
  | ok hash =>
    refine onlyVerifies_iff.mpr ⟨hash, ?_, PasswordHasher.verifyPasswordHash_hashPassword hhash⟩
    cases hfound : users.select username with
    | none =>
      rw [hfound] at hrow
      cases hrow
    | some found =>
      rw [hfound] at hrow
      have heq : found.1 = task.userId := of_decide_eq_true hrow
      unfold run
      rw [hhash]
      rw [Users.storedHash, select_update, hfound, Option.map_some, if_pos heq]
      rfl

end HashUpgrade

/-! ### Interleavings -/

structure PendingLogin (K : PasswordHasher) where
  userId : Int
  row : UserRow K
  password : String
  now : Int

/-- The database, the logins that have read their row, and the upgrades that have not been written yet. -/
structure StoreState (K : PasswordHasher) where
  users : Users K
  logins : List (PendingLogin K)
  upgrades : List HashUpgrade

inductive Statement (K : PasswordHasher)
  | readLogin (username password : String) (now : Int)
  | endLogin (i : Nat) (fault : Option String) (spawned : Bool)
  | writeUpgrade (i : Nat) (salt : K.Salt) (now : Int) (fault : Option String)
  | changePassword (username newPassword : String) (salt : K.Salt) (now : Int) (fault : Option String)
  | setEnabled (username : String) (enabled : Bool) (now : Int) (fault : Option String)
  | resetFailedAttempts (username : String) (now : Int) (fault : Option String)

namespace StoreState
variable {K : PasswordHasher}

/-- The thread a login starts if it succeeds with a weak hash. -/
def hashUpgrade (login : PendingLogin K) (answer : Except ServerError Bool) (spawned : Bool) : List HashUpgrade :=
  if answer.toOption = some true ∧ K.hashNeedsUpgrade login.row.passwordHash ∧ spawned then
    [⟨login.userId, login.password⟩]
  else []

def step (s : StoreState K) : Statement K → StoreState K
  | .readLogin username password now =>
    match s.users.select username with
    | none => s
    | some (userId, row) => { s with logins := s.logins ++ [⟨userId, row, password, now⟩] }
  | .endLogin i fault spawned =>
    match s.logins[i]? with
    | none => s
    | some login =>
      let (users, answer) :=
        s.users.settle login.userId (Users.judge login.row login.password login.now) login.now fault
      { users, logins := s.logins.eraseIdx i, upgrades := s.upgrades ++ hashUpgrade login answer spawned }
  | .writeUpgrade i salt now fault =>
    match s.upgrades[i]? with
    | none => s
    | some task => { s with users := task.run s.users salt now fault, upgrades := s.upgrades.eraseIdx i }
  | .changePassword username newPassword salt now fault =>
    { s with users := (s.users.changePassword username newPassword salt now fault).1 }
  | .setEnabled username enabled now fault => { s with users := (s.users.setEnabled username enabled now fault).1 }
  | .resetFailedAttempts username now fault =>
    { s with users := (s.users.resetFailedAttempts username now fault).1 }

/-- The statement does not change this user's password. -/
def Leaves (username : String) : Statement K → Prop
  | .changePassword name _ _ _ _ => nocase name ≠ nocase username
  | _ => True

/-- An upgrade that is written to the account has a password that the account's hash verifies. -/
def UpToDate (username : String) (s : StoreState K) : Statement K → Prop
  | .writeUpgrade i salt _ fault =>
    ∀ task, s.upgrades[i]? = some task → task.Writes s.users salt fault username →
      ∀ hash, s.users.storedHash username = some hash → K.verifyPasswordHash task.password hash = true
  | _ => True

theorem onlyVerifies_step {s : StoreState K} {username password : String} {a : Statement K}
    (h : s.users.OnlyVerifies username password) (hleaves : Leaves username a) :
    (s.step a).users.OnlyVerifies username password ↔ UpToDate username s a := by
  have hkept : (s.step a).users.storedHash username = s.users.storedHash username →
      UpToDate username s a → ((s.step a).users.OnlyVerifies username password ↔ UpToDate username s a) :=
    fun hsame hcond => iff_of_true (by rwa [onlyVerifies_iff, hsame, ← onlyVerifies_iff]) hcond
  cases a with
  | readLogin name q now =>
    apply hkept _ trivial
    rw [step]
    split
    all_goals rfl
  | endLogin i fault spawned =>
    apply hkept _ trivial
    rw [step]
    split
    · rfl
    · exact storedHash_settle ..
  | changePassword name newPassword salt now fault =>
    exact hkept (storedHash_changePassword hleaves) trivial
  | setEnabled name enabled now fault => exact hkept (storedHash_setEnabled ..) trivial
  | resetFailedAttempts name now fault => exact hkept (storedHash_resetFailedAttempts ..) trivial
  | writeUpgrade i salt now fault =>
    obtain ⟨hash, hhash, hverify⟩ := onlyVerifies_iff.mp h
    cases htask : s.upgrades[i]? with
    | none =>
      have hstep : s.step (.writeUpgrade i salt now fault) = s := by
        rw [step, htask]
      refine hkept (by rw [hstep]) ?_
      intro task htask'
      cases htask.symm.trans htask'
    | some task =>
      have hstep : (s.step (.writeUpgrade i salt now fault)).users = task.run s.users salt now fault := by
        rw [step, htask]
      by_cases hwrites : task.Writes s.users salt fault username
      · have hafter : (s.step (.writeUpgrade i salt now fault)).users.OnlyVerifies username task.password := by
          rw [hstep]
          exact HashUpgrade.onlyVerifies_run_of_writes hwrites
        have hcond : UpToDate username s (.writeUpgrade i salt now fault) ↔ task.password = password := by
          rw [← hverify task.password]
          constructor
          · intro hcond
            exact hcond task htask hwrites hash hhash
          · intro hcurrent task' htask' _ hash' hhash'
            cases htask.symm.trans htask'
            cases hhash.symm.trans hhash'
            exact hcurrent
        rw [hcond]
        constructor
        · intro honly
          exact (honly task.password 0).mp ((hafter task.password 0).mpr rfl)
        · rintro rfl
          exact hafter
      · refine hkept ?_ ?_
        · rw [hstep]
          exact HashUpgrade.storedHash_run_of_not_writes hwrites
        · intro task' htask' hwrites'
          cases htask.symm.trans htask'
          exact absurd hwrites' hwrites

/-- After a change, the new password stays the only one until the next change just if every upgrade written to the
account is up to date. -/
theorem password_change_final_iff (s : StoreState K) (username newPassword : String) (salt : K.Salt) (now : Int)
    (fault : Option String) (rest : List (Statement K))
    (hchanged : (s.users.changePassword username newPassword salt now fault).2 = .ok true)
    (hlast : ∀ a ∈ rest, Leaves username a) :
    (∀ n, (exec step s (.changePassword username newPassword salt now fault :: rest.take n)).users.OnlyVerifies
        username newPassword) ↔
      Meets (UpToDate username) step (s.step (.changePassword username newPassword salt now fault)) rest := by
  have hstart : (s.step (.changePassword username newPassword salt now fault)).users.OnlyVerifies username newPassword :=
    onlyVerifies_changePassword hchanged
  have hgood : ∀ (s : StoreState K) a, True → s.users.OnlyVerifies username newPassword → Leaves username a →
      ((s.step a).users.OnlyVerifies username newPassword ↔ UpToDate username s a) :=
    fun s a _ => onlyVerifies_step
  exact exec_always_iff_meets (fun _ _ _ => trivial) hgood rest _
    (meets_of_forall (fun a ha _ => hlast a ha) _) trivial hstart

end StoreState

namespace PasswordSample
open StoreState

def hasher : PasswordHasher where
  Phc := Bool × String
  Parsed := Bool × String
  Salt := Unit
  new := some
  params hash := some (if hash.1 then ⟨19456, 2⟩ else ⟨65536, 3⟩)
  verify q hash := q = hash.2
  hash password _ := .ok (false, password)
  verify_hash := by
    intro password salt phc h
    cases h
    exact ⟨_, rfl, fun q => decide_eq_true_iff⟩

def legacy : UserRow hasher := ⟨"alice", (true, "old password"), 0, 0, true, 0, none⟩

def start : StoreState hasher where
  users := {
    rows := AList.singleton 1 legacy
    unique := by
      have hone : ∀ {i r}, (AList.singleton 1 legacy : Table Int (UserRow hasher)).lookup i = some r → i = 1 := by
        intro i r h
        have hmem := AList.mem_lookup_iff.mp h
        exact (Sigma.mk.inj (List.mem_singleton.mp hmem)).1
      intro i j r r' hi hj _
      rw [hone hi, hone hj] }
  logins := []
  upgrades := []

def login : List (Statement hasher) := [.readLogin "alice" "old password" 0, .endLogin 0 none true]

/-- The upgrade a login started is written after the change: the old password logs in again, and the new one does not.
-/
theorem stale_upgrade_restores_password :
    ((exec step start login).users.changePassword "alice" "new password" () 1 none).2 = .ok true ∧
      let s := exec step start (login ++ [.changePassword "alice" "new password" () 1 none, .writeUpgrade 0 () 2 none])
      (s.users.verifyPassword "alice" "old password" 3 none).2 = .ok true ∧
        (s.users.verifyPassword "alice" "new password" 3 none).2 = .ok false := by
  decide +kernel

theorem password_change_final_iff_login :
    (exec step start (.changePassword "alice" "new password" () 1 none :: login.take 2)).users.OnlyVerifies
      "alice" "new password" := by
  refine (password_change_final_iff start "alice" "new password" () 1 none login (by decide +kernel) ?_).mpr
    ⟨trivial, trivial, trivial⟩ 2
  intro a ha
  obtain rfl | ha := List.mem_cons.mp ha
  · trivial
  · obtain rfl := List.mem_singleton.mp ha
    trivial

end PasswordSample

end HpnVpn
