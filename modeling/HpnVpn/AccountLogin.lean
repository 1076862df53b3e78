import HpnVpn.PasswordChange
import HpnVpn.Rekey
import HpnVpn.SealedMessages

/-! From the creation of an account to its first login: the store takes names in any alphabet and passwords of any
length, the client does not. -/
namespace HpnVpn
open Wire Tables EncryptedCredentials DecryptedCredentials

/-- The standard library's table of letters and digits. -/
structure CharTable where
  isAlphanumeric : Char → Bool
  ascii : ∀ {c : Char}, c.toNat < 128 → isAlphanumeric c = c.isAlphanum

def wellSpelled (alphanumeric : Char → Bool) (name : String) : Bool :=
  name.toList.all fun c => alphanumeric c || c == '_' || c == '-' || c == '.'

/-! ### Creating an account -/

namespace Users
variable {K : PasswordHasher}

def nextId (users : Users K) : Int := users.rows.keys.foldr max 0 + 1

def insert (users : Users K) (row : UserRow K) (hnew : users.select row.username = none) : Users K where
  rows := users.rows.insert users.nextId row
  unique := by
    have hother : ∀ {i r}, users.rows.lookup i = some r → nocase r.username ≠ nocase row.username := by
      intro i r hr hsame
      have hfound := select_eq_some.mpr ⟨hr, hsame⟩
      rw [hnew] at hfound
      cases hfound
    intro i j r r' hi hj hsame
    by_cases hid : i = users.nextId <;> by_cases hjd : j = users.nextId
    · rw [hid, hjd]
    · rw [hid, AList.lookup_insert] at hi
      rw [AList.lookup_insert_ne hjd] at hj
      cases hi
      exact absurd hsame.symm (hother hj)
    · rw [AList.lookup_insert_ne hid] at hi
      rw [hjd, AList.lookup_insert] at hj
      cases hj
      exact absurd hsame (hother hi)
    · rw [AList.lookup_insert_ne hid] at hi
      rw [AList.lookup_insert_ne hjd] at hj
      exact users.unique hi hj hsame

def addUser (table : CharTable) (users : Users K) (username password : String) (salt : K.Salt) (now : Int)
    (fault : Option String) : Users K × Except ServerError Unit :=
  if username = "" ∨ 64 < username.utf8ByteSize then (users, .error (.config "username must be 1-64 characters"))
  else if wellSpelled table.isAlphanumeric username = false then
    (users, .error (.config "username can only contain alphanumeric characters, underscores, hyphens, and dots"))
  else if password.utf8ByteSize < 8 then (users, .error (.config "password must be at least 8 characters"))
  else
    match K.hashPassword password salt with
    | .error e => (users, .error e)
    | .ok passwordHash =>
      if h : users.select username = none then
        match fault with
        | some e => (users, .error (.config s!"failed to add user: {e}"))
        | none => (users.insert ⟨username, passwordHash, now, now, true, 0, none⟩ h, .ok ())
      else (users, .error (.config s!"user '{username}' already exists"))

theorem addUser_ok {table : CharTable} {users created : Users K} {username password : String} {salt : K.Salt}
    {now : Int} {fault : Option String}
    (h : users.addUser table username password salt now fault = (created, .ok ())) :
    username ≠ "" ∧ username.utf8ByteSize ≤ 64 ∧ wellSpelled table.isAlphanumeric username = true ∧
      8 ≤ password.utf8ByteSize ∧ ∃ hash, K.hashPassword password salt = .ok hash ∧
        created.select username = some (users.nextId, ⟨username, hash, now, now, true, 0, none⟩) := by
  unfold addUser at h
  split at h
  case isTrue => cases h
  case isFalse hname =>
    split at h
    case isTrue => cases h
    case isFalse hspelled =>
      split at h
      case isTrue => cases h
      case isFalse hpassword =>
        split at h
        case h_1 => cases h
        case h_2 hash hhash =>
          split at h
          case isFalse => cases h
          case isTrue hnew =>
            split at h
            case h_1 => cases h
            case h_2 =>
              obtain ⟨hne, hlen⟩ := not_or.mp hname
              refine ⟨hne, Nat.not_lt.mp hlen, Bool.eq_true_of_not_eq_false hspelled, Nat.not_lt.mp hpassword, hash,
                hhash, ?_⟩
              cases h
              exact select_eq_some.mpr ⟨AList.lookup_insert _, rfl⟩

end Users

/-! ### The client's side -/

structure Credentials where
  username : String
  password : String
deriving DecidableEq

def Credentials.validate (c : Credentials) : Except ClientError Unit := do
  ensure (c.username ≠ "" ∧ c.username.utf8ByteSize ≤ 64) (.auth "username must be 1-64 characters")
  ensure (wellSpelled Char.isAlphanum c.username = true)
    (.auth "username can only contain alphanumeric characters, '_', '-', '.'")
  ensure (8 ≤ c.password.utf8ByteSize) (.auth "password must be at least 8 characters")
  ensure (c.password.utf8ByteSize ≤ 256) (.auth "password must be at most 256 characters")

theorem Credentials.validate_eq_ok {c : Credentials} : c.validate = .ok () ↔
    (c.username ≠ "" ∧ c.username.utf8ByteSize ≤ 64) ∧ wellSpelled Char.isAlphanum c.username = true ∧
      8 ≤ c.password.utf8ByteSize ∧ c.password.utf8ByteSize ≤ 256 := by
  simp [validate, bind_ok_iff]

/-! ### Between the two -/

theorem toNat_of_spelled {c : Char} (h : (c.isAlphanum || c == '_' || c == '-' || c == '.') = true) :
    0 < c.toNat ∧ c.toNat < 128 := by
  simp only [Bool.or_eq_true, beq_iff_eq] at h
  obtain ((halnum | rfl) | rfl) | rfl := h
  · have halnum : ((decide (65 ≤ c.val ∧ c.val ≤ 90) || 97 ≤ c.val && c.val ≤ 122) ||
        48 ≤ c.val && c.val ≤ 57) = true :=
      halnum
    simp only [Bool.or_eq_true, Bool.and_eq_true, decide_eq_true_eq, UInt32.le_iff_toNat_le] at halnum
    simp at halnum
    omega
  all_goals decide

theorem zero_notMem_utf8 {name : String} (hspelled : wellSpelled Char.isAlphanum name = true) : 0 ∉ utf8 name := by
  rw [utf8_eq_flatMap, List.mem_flatMap]
  rintro ⟨c, hc, hzero⟩
  obtain ⟨hpos, hascii⟩ := toNat_of_spelled (List.all_eq_true.mp hspelled c hc)
  have hval : c.val.toNat = c.toNat := rfl
  rw [String.utf8EncodeChar, if_pos (by omega), List.mem_singleton, hval] at hzero
  have hnat := congrArg UInt8.toNat hzero
  rw [UInt8.toNat_ofNat', Nat.mod_eq_of_lt (by omega)] at hnat
  exact absurd hnat.symm (Nat.ne_of_gt hpos)

theorem DecryptedCredentials.fromPlaintext_append {username password : String} (hzero : 0 ∉ utf8 username)
    (hname : username.utf8ByteSize ≤ maxUsernameLen) (hpassword : password.utf8ByteSize ≤ maxPasswordLen) :
    fromPlaintext (utf8 username ++ 0 :: utf8 password) = .ok ⟨username, password⟩ := by
  have hsplit : (utf8 username ++ 0 :: utf8 password).findIdx? (· == 0) = some (utf8 username).length := by
    have hnone : (utf8 username).findIdx? (· == 0) = none := by
      rw [List.findIdx?_eq_none_iff]
      intro b hb
      exact beq_false_of_ne fun heq => hzero (heq ▸ hb)
    rw [List.findIdx?_append, hnone, List.findIdx?_cons]
    simp
  have hrest : (utf8 username ++ 0 :: utf8 password).drop ((utf8 username).length + 1) = utf8 password := by
    rw [← List.drop_drop, List.drop_left, List.drop_succ_cons, List.drop_zero]
  unfold fromPlaintext
  rw [hsplit, okOr_some, ok_bind, List.take_left, fromUtf8_utf8, okOr_some, ok_bind, hrest, fromUtf8_utf8, okOr_some,
    ok_bind, ensure_of ⟨hname, hpassword⟩]
  rfl

theorem EncryptedCredentials.decrypt_encrypt {P : Primitives} {username password : String}
    (hseals : ∀ k n aad p, p.length ≤ 2 ^ 16 → (P.aes256Gcm.encrypt k n aad p).isSome = true)
    (hzero : 0 ∉ utf8 username) (hname : username.utf8ByteSize ≤ maxUsernameLen)
    (hpassword : password.utf8ByteSize ≤ maxPasswordLen) (level : SecurityLevel) (seed : HybridKem.KeypairCoins)
    (coins : HybridKem.EncapsulateCoins) :
    ∃ call c, encrypt P username password (HybridKem.generateKeypairWithLevel P level seed).2 coins = .ok (call, c) ∧
      (∀ rest, fromBytes (c.toBytes ++ rest) level = .ok c) ∧
        c.decrypt P (HybridKem.generateKeypairWithLevel P level seed).1 = .ok ⟨username, password⟩ := by
  have hlen : (utf8 username ++ 0 :: utf8 password).length ≤ 321 := by
    rw [List.length_append, List.length_cons, length_utf8, length_utf8]
    unfold maxUsernameLen maxPasswordLen at *
    omega
  obtain ⟨secret, ciphertext, henc, -, -⟩ := HybridKem.decapsulate_encapsulate (P := P) level seed coins
  let call : SealCall :=
    ⟨use.key P secret, KemUse.nonce P ciphertext, ciphertext.toBytes, utf8 username ++ 0 :: utf8 password⟩
  obtain ⟨payload, hpayload⟩ : ∃ payload, call.output P.aes256Gcm = some payload :=
    Option.isSome_iff_exists.mp (hseals _ _ _ _ (hlen.trans (by decide)))
  have hsealed : use.sealTo P (HybridKem.generateKeypairWithLevel P level seed).2 HybridPair.toBytes
      (utf8 username ++ 0 :: utf8 password) coins = .ok (call, ciphertext, payload) :=
    KemUse.sealTo_eq_ok.mpr ⟨secret, henc, rfl, hpayload⟩
  refine ⟨call, ⟨ciphertext, payload⟩, ?_, ?_, ?_⟩
  · unfold encrypt
    dsimp only
    rw [length_utf8, length_utf8, ensure_of hname, ok_bind, ensure_of hpassword, ok_bind, hsealed]
    rfl
  · intro rest
    apply fromBytes_toBytes
    have hpayloadLen := P.aes256Gcm.encrypt_length hpayload
    exact hpayloadLen.trans_le ((Nat.add_le_add_right hlen _).trans (by decide))
  · unfold decrypt
    rw [KemUse.openFrom_sealTo hsealed, ok_bind]
    exact fromPlaintext_append hzero hname hpassword

theorem DecryptedCredentials.zero_notMem_of_fromPlaintext {plaintext : Bytes} {creds : DecryptedCredentials}
    (h : fromPlaintext plaintext = .ok creds) : 0 ∉ utf8 creds.username := by
  simp only [fromPlaintext, bind_ok_iff, okOr_eq_ok, fromUtf8_eq_some] at h
  obtain ⟨nullPos, hfirst, username, hname, password, -, -, -, hcreds⟩ := h
  cases hcreds
  intro hzero
  obtain ⟨i, hi, hget⟩ := List.mem_iff_getElem.mp (hname ▸ hzero)
  rw [List.length_take] at hi
  rw [List.getElem_take] at hget
  obtain ⟨_, _, hbefore⟩ := List.findIdx?_eq_some_iff_getElem.mp hfirst
  exact hbefore i (hi.trans_le (Nat.min_le_left _ _)) (beq_iff_eq.mpr hget)

section
variable (P : Primitives) (level : SecurityLevel) (seed : HybridKem.KeypairCoins)
  (coins coins' : HybridKem.EncapsulateCoins) (username password username' password' : String) (call call' : SealCall)
  (c c' : EncryptedCredentials)

theorem EncryptedCredentials.decrypt_eq_iff
    (h : encrypt P username password (HybridKem.generateKeypairWithLevel P level seed).2 coins = .ok (call, c)) :
    c.decrypt P (HybridKem.generateKeypairWithLevel P level seed).1 = .ok ⟨username, password⟩ ↔
      0 ∉ utf8 username := by
  simp only [encrypt, bind_ok_iff, ensure_eq_ok] at h
  obtain ⟨-, hname, -, hpassword, ⟨call', ciphertext, payload⟩, hsealed, hout⟩ := h
  cases hout
  rw [decrypt, KemUse.openFrom_sealTo hsealed, ok_bind]
  exact ⟨zero_notMem_of_fromPlaintext, fun hzero =>
    fromPlaintext_append hzero hname hpassword⟩

/-- The separator is not excluded from the names that are sealed, and a name that has it is cut there. -/
theorem credentials_roundTrip_iff
    (h : EncryptedCredentials.encrypt P username password (HybridKem.generateKeypairWithLevel P level seed).2 coins =
      .ok (call, c))
    (h' : EncryptedCredentials.encrypt P username' password'
      (HybridKem.generateKeypairWithLevel P level seed).2 coins' =
      .ok (call', c')) :
    let sk := (HybridKem.generateKeypairWithLevel P level seed).1
    (c.decrypt P sk = .ok ⟨username, password⟩ ∧ c'.decrypt P sk = .ok ⟨username', password'⟩ ∧
        ((username, password) ≠ (username', password') → c.decrypt P sk ≠ c'.decrypt P sk)) ↔
      0 ∉ utf8 username ∧ 0 ∉ utf8 username' := by
  intro sk
  have hfirst := decrypt_eq_iff P level seed coins username password call c h
  have hsecond := decrypt_eq_iff P level seed coins' username' password' call' c' h'
  constructor
  · rintro ⟨hc, hc', -⟩
    exact ⟨hfirst.mp hc, hsecond.mp hc'⟩
  · rintro ⟨hzero, hzero'⟩
    refine ⟨hfirst.mpr hzero, hsecond.mpr hzero', fun hne heq => hne ?_⟩
    cases (hfirst.mpr hzero).symm.trans (heq.trans (hsecond.mpr hzero'))
    rfl

end

/-! ### Logging in -/

/-- The way of a login from the client's check to the store's, with the account enabled and without a lock. -/
structure CanLogin {K : PasswordHasher} (P : Primitives) (users : Users K) (username password : String) : Prop where
  validated : (Credentials.mk username password).validate = .ok ()
  arrives : ∀ level seed coins, ∃ call c,
    EncryptedCredentials.encrypt P username password (HybridKem.generateKeypairWithLevel P level seed).2 coins =
        .ok (call, c) ∧
      EncryptedCredentials.fromBytes c.toBytes level = .ok c ∧
        c.decrypt P (HybridKem.generateKeypairWithLevel P level seed).1 = .ok ⟨username, password⟩
  verified : ∀ now, ((users.reopen username).verifyPassword username password now none).2 = .ok true

theorem wellSpelled_ascii_iff {table : CharTable} {name : String} (h : wellSpelled table.isAlphanumeric name = true) :
    wellSpelled Char.isAlphanum name = true ↔ ∀ c ∈ name.toList, c.toNat < 128 := by
  unfold wellSpelled at *
  rw [List.all_eq_true] at *
  constructor
  · intro hclient c hc
    exact (toNat_of_spelled (hclient c hc)).2
  · intro hascii c hc
    rw [← table.ascii (hascii c hc)]
    exact h c hc

/-- A created account, its password unchanged, can log in just if its name is ASCII and its password has at most 256
bytes. -/
theorem created_account_can_login_iff {K : PasswordHasher} (P : Primitives) (table : CharTable)
    (users created later : Users K) (username password : String) (salt : K.Salt) (now : Int) (fault : Option String)
    (hseals : ∀ k n aad p, p.length ≤ 2 ^ 16 → (P.aes256Gcm.encrypt k n aad p).isSome = true)
    (hcreated : users.addUser table username password salt now fault = (created, .ok ()))
    (hlater : later.storedHash username = created.storedHash username) :
    CanLogin P later username password ↔ (∀ c ∈ username.toList, c.toNat < 128) ∧ password.utf8ByteSize ≤ 256 := by
  obtain ⟨hne, hname, hspelled, hlong, hash, hhash, hselect⟩ := Users.addUser_ok hcreated
  constructor
  · intro h
    obtain ⟨-, hclient, -, hpassword⟩ := Credentials.validate_eq_ok.mp h.validated
    exact ⟨(wellSpelled_ascii_iff hspelled).mp hclient, hpassword⟩
  · rintro ⟨hascii, hpassword⟩
    have hclient := (wellSpelled_ascii_iff hspelled).mpr hascii
    have hstored : later.storedHash username = some hash := by
      rw [hlater, Users.storedHash, hselect]
      rfl
    refine ⟨Credentials.validate_eq_ok.mpr ⟨⟨hne, hname⟩, hclient, hlong, hpassword⟩, ?_, ?_⟩
    · intro level seed coins
      obtain ⟨call, c, henc, hwire, hdec⟩ := decrypt_encrypt hseals (zero_notMem_utf8 hclient)
        hname hpassword level seed coins
      refine ⟨call, c, henc, ?_, hdec⟩
      have hwhole := hwire []
      rwa [List.append_nil] at hwhole
    · intro now
      exact Users.verifyPassword_reopen.mpr
        ⟨hash, hstored, (PasswordHasher.verifyPasswordHash_hashPassword hhash password).mpr rfl⟩

namespace LoginSample
open PasswordSample

def latin : CharTable where
  isAlphanumeric c := c.isAlphanum || (0xC0 ≤ c.toNat && c.toNat ≤ 0xFF)
  ascii := by
    intro c h
    rw [decide_eq_false (by omega : ¬0xC0 ≤ c.toNat), Bool.false_and, Bool.or_false]

def empty : Users hasher := ⟨∅, by intro i j r r' hi; cases hi⟩

/-- The client refuses a name with an accent, and a password of 257 bytes. -/
theorem accented_name_cannot_login :
    (empty.addUser latin "rené" "correct horse" () 0 none).2 = .ok () ∧
      (Credentials.mk "rené" "correct horse").validate =
        .error (.auth "username can only contain alphanumeric characters, '_', '-', '.'") ∧
      (empty.addUser latin "rene" (String.ofList (List.replicate 257 'a')) () 0 none).2 = .ok () ∧
      (Credentials.mk "rene" (String.ofList (List.replicate 257 'a'))).validate =
        .error (.auth "password must be at most 256 characters") := by
  decide +kernel

theorem created_account_can_login_ascii :
    CanLogin (.transparent fun _ => 0) (empty.addUser latin "rene" "correct horse" () 0 none).1 "rene"
      "correct horse" := by
  refine (created_account_can_login_iff (.transparent fun _ => 0) latin empty _ _ "rene" "correct horse" () 0 none
    (fun _ _ _ _ _ => rfl) ?_ rfl).mpr ⟨by simp, by decide⟩
  have hok : (empty.addUser latin "rene" "correct horse" () 0 none).2 = .ok () := by decide +kernel
  rw [← hok]

def seed : HybridKem.KeypairCoins := ⟨Block.replicate 32 1, Block.replicate 64 2⟩

def coins : HybridKem.EncapsulateCoins := ⟨Block.replicate 32 3, Block.replicate 32 4⟩

def transparent : Primitives := .transparent fun _ => 0

def keypair : HybridSecretKey × HybridPublicKey := HybridKem.generateKeypairWithLevel transparent .level3 seed

/-- Two pairs are sealed as the same plaintext, and only one of them comes back. -/
theorem separator_in_username_cuts_it : ∃ call c,
    EncryptedCredentials.encrypt transparent "a\x00b" "c" keypair.2 coins = .ok (call, c) ∧
      EncryptedCredentials.encrypt transparent "a" "b\x00c" keypair.2 coins = .ok (call, c) ∧
        c.decrypt transparent keypair.1 = .ok ⟨"a", "b\x00c"⟩ := by
  obtain ⟨call, c, h, -, hdec⟩ := @EncryptedCredentials.decrypt_encrypt transparent "a" "b\x00c"
    (fun _ _ _ _ _ => rfl) (by decide) (by decide) (by decide) .level3 seed coins
  exact ⟨call, c, h, h, hdec⟩

theorem credentials_roundTrip_two_users : ∃ c c' : EncryptedCredentials,
    c.decrypt transparent keypair.1 = .ok ⟨"rene", "horse"⟩ ∧
      c'.decrypt transparent keypair.1 = .ok ⟨"ada", "horse"⟩ := by
  obtain ⟨call, c, h, -, -⟩ := @EncryptedCredentials.decrypt_encrypt transparent "rene" "horse"
    (fun _ _ _ _ _ => rfl) (by decide) (by decide) (by decide) .level3 seed coins
  obtain ⟨call', c', h', -, -⟩ := @EncryptedCredentials.decrypt_encrypt transparent "ada" "horse"
    (fun _ _ _ _ _ => rfl) (by decide) (by decide) (by decide) .level3 seed coins
  obtain ⟨hc, hc', -⟩ := (credentials_roundTrip_iff transparent .level3 seed coins coins "rene" "horse" "ada" "horse"
    call call' c c' h h').mpr ⟨by decide, by decide⟩
  exact ⟨c, c', hc, hc'⟩

end LoginSample

end HpnVpn
