import HpnVpn.Cookies
import HpnVpn.Runs

/-! Runs of a server that issues challenges, checks replies and replaces its secret.  A reply is accepted just if its
challenge went to the address at most sixty seconds ago and the nonce solves it. -/
namespace HpnVpn
open Wire Runs

namespace CookieHost
variable {H : CookieHost} {now time : Nat}

/-- The wall clock stands at or after the epoch, within the seconds a `SystemTime` can hold. -/
def InRange (H : CookieHost) (now : Nat) : Prop := 0 ≤ H.wallAtStart ∧ H.wallAtStart + now < 2 ^ 63 * 10 ^ 9

theorem toNat_unixSecs (h : H.InRange now) (htime : time ≤ now) :
    (H.unixSecs time).toNat = (H.wallAtStart.toNat + time) / 10 ^ 9 := by
  obtain ⟨hepoch, hlt⟩ := h
  have hwall : (H.wallAtStart + time).toNat = H.wallAtStart.toNat + time := by omega
  have hsmall : (H.wallAtStart.toNat + time) / 10 ^ 9 < 2 ^ 64 := by omega
  rw [unixSecs, UInt64.toNat_ofNat', hwall, Nat.mod_eq_of_lt hsmall]

instance : Decidable (H.InRange now) := inferInstanceAs (Decidable (_ ∧ _))

/-- At most 60 ticks of the second counter lie between the times. -/
def Recent (H : CookieHost) (now time : Nat) : Prop :=
  (H.unixSecs now).toNat ≤ (H.unixSecs time).toNat + defaultCookieMaxAgeSecs

instance : Decidable (H.Recent now time) := inferInstanceAs (Decidable (_ ≤ _))

theorem recent_of_le (h : H.InRange now) (htime : time ≤ now) (hage : now ≤ time + 60 * 10 ^ 9) :
    H.Recent now time := by
  rw [Recent, toNat_unixSecs h le_rfl, toNat_unixSecs h htime, defaultCookieMaxAgeSecs]
  omega

theorem Recent.lt (hrecent : H.Recent now time) (h : H.InRange now) (htime : time ≤ now) :
    now < time + 61 * 10 ^ 9 := by
  rw [Recent, toNat_unixSecs h le_rfl, toNat_unixSecs h htime, defaultCookieMaxAgeSecs] at hrecent
  omega

theorem unixSecs_le_add (h : H.InRange now) (htime : time ≤ now) : H.unixSecs time ≤ H.unixSecs now + 5 := by
  have hnow : (H.unixSecs now).toNat < 2 ^ 63 := by
    rw [toNat_unixSecs h le_rfl]
    obtain ⟨hepoch, hlt⟩ := h
    omega
  have hle : (H.unixSecs time).toNat ≤ (H.unixSecs now).toNat := by
    rw [toNat_unixSecs h le_rfl, toNat_unixSecs h htime]
    omega
  rw [UInt64.le_iff_toNat_le, UInt64.toNat_add]
  change _ ≤ (_ + 5) % 2 ^ 64
  omega

theorem addrHash_congr {a b : SocketAddr} (h : a.withoutFlow = b.withoutFlow) : H.addrHash a = H.addrHash b := by
  rw [addrHash, addrHash, (H.display.toText_eq_iff a b).mpr h]

end CookieHost

def CookieRequest.macInput (r : CookieRequest) : Bytes :=
  cookieMacInput (challengeNonce r.challenge) r.timestamp r.serverAddrHash r.difficulty

structure SentCookie where
  request : CookieRequest
  addr : SocketAddr
  time : Nat
  secret : Block 32
deriving DecidableEq

inductive CookieOp
  | pass (duration : Nat)
  | issue (addr : SocketAddr) (fresh random : Block 32)
  | verify (reply : CookieReply) (addr : SocketAddr) (fresh : Block 32)

structure CookieRun where
  server : ServerCookies
  now : Nat
  sent : List SentCookie
deriving DecidableEq

namespace CookieRun

def start (difficulty : UInt8) (secret : Block 32) : CookieRun := ⟨.new difficulty secret, 0, []⟩

variable (H : CookieHost) (s : CookieRun)

def step : CookieOp → CookieRun
  | .pass duration => { s with now := s.now + duration }
  | .issue addr fresh random =>
    let (server, request) := s.server.createCookieRequest H addr s.now fresh random
    { s with server, sent := ⟨request, addr, s.now, server.cookieSecrets.current⟩ :: s.sent }
  | .verify reply addr fresh => { s with server := (s.server.verifyCookieReply H reply addr s.now fresh).1 }

def Accepts (reply : CookieReply) (addr : SocketAddr) (fresh : Block 32) : Prop :=
  (s.server.verifyCookieReply H reply addr s.now fresh).2 = .ok ()

instance {H : CookieHost} {s : CookieRun} {reply : CookieReply} {addr : SocketAddr} {fresh : Block 32} :
    Decidable (s.Accepts H reply addr fresh) :=
  inferInstanceAs (Decidable (_ = _))

/-- The challenge was issued to this address not long ago. -/
def Issued (challenge : Block 32) (addr : SocketAddr) : Prop :=
  ∃ c ∈ s.sent, c.request.challenge = challenge ∧ c.addr.withoutFlow = addr.withoutFlow ∧ H.Recent s.now c.time

/-- Ideal on the reply: a tag that a held secret gives was computed by the server, and no address challenged has the
hash of another. -/
structure Ideal (H : CookieHost) (s : CookieRun) (reply : CookieReply) (addr : SocketAddr) (fresh : Block 32) :
    Prop where
  mac : ∀ secret, (s.server.maybeRotateCookieSecret s.now fresh).cookieSecrets.Holds secret →
    challengeTag reply.challenge = s.server.expectedTag H secret reply.challenge addr →
    ∃ c ∈ s.sent, c.secret = secret ∧ c.request.macInput =
      cookieMacInput (challengeNonce reply.challenge) (challengeTimestamp reply.challenge) (H.addrHash addr)
        s.server.cookieDifficulty
  hash : ∀ c ∈ s.sent, H.addrHash c.addr = H.addrHash addr → H.display.toText c.addr = H.display.toText addr

end CookieRun

/-! ### What the server sends -/

structure SentCookie.Genuine (H : CookieHost) (difficulty : UInt8) (c : SentCookie) : Prop where
  difficulty : c.request.difficulty = difficulty
  addrHash : c.request.serverAddrHash = H.addrHash c.addr
  timestamp : c.request.timestamp = H.unixSecs c.time
  challenge : c.request.challenge =
    cookieChallenge (challengeNonce c.request.challenge) c.request.timestamp
      ((H.primitives.hmacSha256 c.secret c.request.macInput).slice 0 16 (by decide))

theorem ServerCookies.createCookieRequest_genuine (H : CookieHost) (s : ServerCookies) (addr : SocketAddr) (now : Nat)
    (fresh random : Block 32) :
    (SentCookie.mk (s.createCookieRequest H addr now fresh random).2 addr now
      (s.maybeRotateCookieSecret now fresh).cookieSecrets.current).Genuine H s.cookieDifficulty where
  difficulty := rfl
  addrHash := rfl
  timestamp := rfl
  challenge := by
    simp only [createCookieRequest, CookieRequest.macInput, challengeNonce_cookieChallenge]
    rfl

namespace CookieRun
variable {H : CookieHost} {difficulty : UInt8} {s : CookieRun}

/-- What a run keeps: the difficulty, and of every challenge that was sent its fields and what became of its
secret. -/
structure Kept (H : CookieHost) (difficulty : UInt8) (s : CookieRun) : Prop where
  difficulty_eq : s.server.cookieDifficulty = difficulty
  rotated_le : s.server.cookieSecrets.lastRotation ≤ s.now
  genuine : ∀ c ∈ s.sent, c.Genuine H difficulty
  time_le : ∀ c ∈ s.sent, c.time ≤ s.now
  tracks : ∀ c ∈ s.sent, s.server.cookieSecrets.Tracks cookieSecretRotation c.secret c.time

theorem kept_start (H : CookieHost) (difficulty : UInt8) (secret : Block 32) :
    (start difficulty secret).Kept H difficulty where
  difficulty_eq := rfl
  rotated_le := Nat.le_refl 0
  genuine := fun _ hc => absurd hc List.not_mem_nil
  time_le := fun _ hc => absurd hc List.not_mem_nil
  tracks := fun _ hc => absurd hc List.not_mem_nil

theorem Kept.rotate (h : s.Kept H difficulty) (fresh : Block 32) :
    Kept H difficulty { s with server := s.server.maybeRotateCookieSecret s.now fresh } where
  difficulty_eq := h.difficulty_eq
  rotated_le := Rotation.Secrets.lastRotation_maybeRotate_le h.rotated_le
  genuine := h.genuine
  time_le := h.time_le
  tracks := fun c hc => (h.tracks c hc).maybeRotate (h.time_le c hc) h.rotated_le fresh

theorem Kept.pass (h : s.Kept H difficulty) (duration : Nat) :
    Kept H difficulty { s with now := s.now + duration } where
  difficulty_eq := h.difficulty_eq
  rotated_le := Nat.le_add_right_of_le h.rotated_le
  genuine := h.genuine
  time_le := fun c hc => Nat.le_add_right_of_le (h.time_le c hc)
  tracks := h.tracks

theorem Kept.send (h : s.Kept H difficulty) {c : SentCookie} (hgenuine : c.Genuine H difficulty)
    (htime : c.time = s.now) (hsecret : c.secret = s.server.cookieSecrets.current) :
    Kept H difficulty { s with sent := c :: s.sent } where
  difficulty_eq := h.difficulty_eq
  rotated_le := h.rotated_le
  genuine := List.forall_mem_cons.mpr ⟨hgenuine, h.genuine⟩
  time_le := List.forall_mem_cons.mpr ⟨htime.le, h.time_le⟩
  tracks := List.forall_mem_cons.mpr ⟨hsecret ▸ Rotation.Secrets.tracks_current _, h.tracks⟩

theorem Kept.step (h : s.Kept H difficulty) (op : CookieOp) : (s.step H op).Kept H difficulty := by
  cases op with
  | pass duration => exact h.pass duration
  | verify reply addr fresh => exact h.rotate fresh
  | issue addr fresh random =>
    have hgenuine := s.server.createCookieRequest_genuine H addr s.now fresh random
    rw [h.difficulty_eq] at hgenuine
    exact (h.rotate fresh).send hgenuine rfl rfl

/-! ### Which replies are accepted -/

theorem Kept.holds (h : s.Kept H difficulty) (hrange : H.InRange s.now) {c : SentCookie} (hc : c ∈ s.sent)
    (hrecent : H.Recent s.now c.time) (fresh : Block 32) :
    (s.server.maybeRotateCookieSecret s.now fresh).cookieSecrets.Holds c.secret := by
  have hage := hrecent.lt hrange (h.time_le c hc)
  have hrotated := (h.rotate fresh).rotated_le
  apply ((h.rotate fresh).tracks c hc).holds
  change _ ≤ s.now at hrotated
  rw [cookieSecretRotation]
  omega

variable {addr : SocketAddr}

theorem Kept.tagHeld (h : s.Kept H difficulty) (hrange : H.InRange s.now) {challenge : Block 32}
    (hissued : s.Issued H challenge addr) (fresh : Block 32) :
    (s.server.maybeRotateCookieSecret s.now fresh).TagHeld H challenge addr ∧
      challengeTimestamp challenge ≤ H.unixSecs s.now + 5 ∧
      (H.unixSecs s.now).toNat ≤ (challengeTimestamp challenge).toNat + defaultCookieMaxAgeSecs := by
  obtain ⟨c, hc, rfl, haddr, hrecent⟩ := hissued
  have hgen := h.genuine c hc
  have htimestamp : challengeTimestamp c.request.challenge = H.unixSecs c.time := by
    rw [hgen.challenge, challengeTimestamp_cookieChallenge, hgen.timestamp]
  refine ⟨⟨c.secret, h.holds hrange hc hrecent fresh, ?_⟩, ?_, ?_⟩
  · have hinput : c.request.macInput = cookieMacInput (challengeNonce c.request.challenge)
        (challengeTimestamp c.request.challenge) (H.addrHash addr) s.server.cookieDifficulty := by
      rw [CookieRequest.macInput, htimestamp, ← hgen.timestamp, hgen.addrHash, CookieHost.addrHash_congr haddr,
        hgen.difficulty, h.difficulty_eq]
    calc challengeTag c.request.challenge
        = (H.primitives.hmacSha256 c.secret c.request.macInput).slice 0 16 (by decide) := by
          conv_lhs => rw [hgen.challenge, challengeTag_cookieChallenge]
      _ = s.server.expectedTag H c.secret c.request.challenge addr := by
          rw [hinput]
          rfl
  · rw [htimestamp]
    exact CookieHost.unixSecs_le_add hrange (h.time_le c hc)
  · rw [htimestamp]
    exact hrecent

theorem Kept.issued (h : s.Kept H difficulty) {reply : CookieReply} {fresh : Block 32}
    (hideal : s.Ideal H reply addr fresh)
    (htag : (s.server.maybeRotateCookieSecret s.now fresh).TagHeld H reply.challenge addr)
    (hage : (H.unixSecs s.now).toNat ≤ (challengeTimestamp reply.challenge).toNat + defaultCookieMaxAgeSecs) :
    s.Issued H reply.challenge addr := by
  obtain ⟨secret, hheld, htag⟩ := htag
  obtain ⟨c, hc, rfl, hinput⟩ := hideal.mac secret hheld htag
  have hgen := h.genuine c hc
  obtain ⟨hnonce, htime, haddr, -⟩ := cookieMacInput_inj hinput
  have hchallenge : c.request.challenge = reply.challenge :=
    calc c.request.challenge
        = cookieChallenge (challengeNonce c.request.challenge) c.request.timestamp
            ((H.primitives.hmacSha256 c.secret c.request.macInput).slice 0 16 (by decide)) := hgen.challenge
      _ = cookieChallenge (challengeNonce reply.challenge) (challengeTimestamp reply.challenge)
            (challengeTag reply.challenge) := by
          rw [hinput, hnonce, htime, htag]
          rfl
      _ = reply.challenge := cookieChallenge_fields reply.challenge
  have htext := hideal.hash c hc (hgen.addrHash.symm.trans haddr)
  refine ⟨c, hc, hchallenge, (H.display.toText_eq_iff _ _).mp htext, ?_⟩
  rw [CookieHost.Recent, ← hgen.timestamp, htime]
  exact hage

theorem accepts_iff_of_kept (h : s.Kept H difficulty) (hrange : H.InRange s.now) {reply : CookieReply}
    {fresh : Block 32} (hideal : s.Ideal H reply addr fresh) :
    s.Accepts H reply addr fresh ↔ s.Issued H reply.challenge addr ∧ reply.verify H.primitives difficulty = true := by
  rw [Accepts, ServerCookies.verifyCookieReply_ok_iff, h.difficulty_eq]
  constructor
  · rintro ⟨htag, -, hage, hsolved⟩
    exact ⟨h.issued hideal htag hage, hsolved⟩
  · rintro ⟨hissued, hsolved⟩
    obtain ⟨htag, hfuture, hage⟩ := h.tagHeld hrange hissued fresh
    exact ⟨htag, hfuture, hage, hsolved⟩

/-- In every run, secret rotations included, a reply is accepted just if its challenge was issued to that address in the
last 60 ticks of the second counter and its nonce has the work in it.  What the solver finds is accepted. -/
theorem cookie_accepted_iff (H : CookieHost) (difficulty : UInt8) (secret : Block 32) (ops : List CookieOp)
    (hrange : H.InRange (exec (step H) (start difficulty secret) ops).now) :
    let s := exec (step H) (start difficulty secret) ops
    (∀ reply addr fresh, s.Ideal H reply addr fresh →
      (s.Accepts H reply addr fresh ↔
        s.Issued H reply.challenge addr ∧
          List.replicate difficulty.toNat false <+:
            (H.primitives.sha256 (reply.challenge.bytes ++ (be64 reply.solutionNonce).bytes)).bytes.flatMap
              LeadingZeros.bits)) ∧
    (∀ challenge addr init reply fresh, s.Issued H challenge addr →
      CookieReply.solve H.primitives challenge difficulty init = .ok reply → s.Accepts H reply addr fresh) ∧
    (∀ c ∈ s.sent, (s.now ≤ c.time + 60 * 10 ^ 9 → H.Recent s.now c.time) ∧
      (H.Recent s.now c.time → s.now < c.time + 61 * 10 ^ 9)) := by
  intro s
  have hkept : s.Kept H difficulty := exec_invariant (fun _ op h => h.step op) ops _ (kept_start H difficulty secret)
  refine ⟨?_, ?_, ?_⟩
  · intro reply addr fresh hideal
    rw [accepts_iff_of_kept hkept hrange hideal, ← LeadingZeros.le_leadingZeros_iff]
    rw [CookieReply.verify, decide_eq_true_iff]
    rfl
  · intro challenge addr init reply fresh hissued hsolve
    obtain ⟨rfl, hsolved⟩ := CookieReply.solve_spec hsolve
    obtain ⟨htag, hfuture, hage⟩ := hkept.tagHeld hrange hissued fresh
    rw [Accepts, ServerCookies.verifyCookieReply_ok_iff, hkept.difficulty_eq]
    exact ⟨htag, hfuture, hage, hsolved⟩
  · intro c hc
    have htime := hkept.time_le c hc
    exact ⟨CookieHost.recent_of_le hrange htime, fun hrecent => hrecent.lt hrange htime⟩

end CookieRun

/-! ### A challenge that comes back in its sixty-first second -/

namespace CookieSample
open CookieRun

def host : CookieHost := ⟨.transparent fun m => m.foldl (· + ·) 0, .fields, 1700000000 * 10 ^ 9⟩

def addr : SocketAddr := .v4 (Block.replicate 4 9) 4433
def secret : Block 32 := Block.replicate 32 5
def init : HandshakeInit := ⟨⟨.level3, default, default⟩, default, .level3, none⟩

def ops : List CookieOp := [.issue addr default default, .pass (60 * 10 ^ 9 + 5 * 10 ^ 8)]

def final : CookieRun := exec (step host) (start 8 secret) ops

def reply : CookieReply :=
  ⟨(ServerCookies.createCookieRequest host (.new 8 secret) addr 0 default default).2.challenge, 0, init⟩

theorem solve_reply : CookieReply.solve host.primitives reply.challenge 8 init = .ok reply := by
  decide +kernel

theorem ideal_reply : final.Ideal host reply addr default where
  mac := by
    have hsecrets : (final.server.maybeRotateCookieSecret final.now default).cookieSecrets = ⟨secret, none, 0⟩ := by
      decide +kernel
    rw [hsecrets]
    rintro _ (rfl | hprevious) -
    · decide +kernel
    · cases hprevious
  hash := by decide +kernel

theorem late_reply_accepted :
    final.Ideal host reply addr default ∧ final.Accepts host reply addr default ∧
      ∀ c ∈ final.sent, c.time + 60 * 10 ^ 9 < final.now :=
  ⟨ideal_reply, by decide +kernel, by decide +kernel⟩

theorem cookie_accepted_iff_solved :
    host.InRange final.now ∧ final.Issued host reply.challenge addr ∧
      CookieReply.solve host.primitives reply.challenge 8 init = .ok reply ∧
      final.Accepts host reply addr default := by
  have hrange : host.InRange final.now := by decide +kernel
  have hissued : final.Issued host reply.challenge addr := by
    unfold Issued
    decide +kernel
  obtain ⟨-, hsolved, -⟩ := cookie_accepted_iff host 8 secret ops hrange
  exact ⟨hrange, hissued, solve_reply, hsolved _ addr init reply default hissued solve_reply⟩

end CookieSample

end HpnVpn
