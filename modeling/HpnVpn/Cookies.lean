import HpnVpn.LeadingZeros
import HpnVpn.Messages
import HpnVpn.Rotation

/-! Cookie challenges.  A challenge carries its time and a MAC over time, address and difficulty under a secret
replaced every ten minutes; the reply carries it back with a nonce that gives its hash leading zero bits. -/
namespace HpnVpn
open Wire LeadingZeros

/-- An address without the flow label, which its text does not show. -/
def SocketAddr.withoutFlow : SocketAddr → SocketAddr
  | .v4 ip port => .v4 ip port
  | .v6 ip port _ scopeId => .v6 ip port 0 scopeId

/-- `Display` of socket addresses: IP address, port and scope. -/
structure AddrDisplay where
  toText : SocketAddr → Bytes
  toText_eq_iff : ∀ a b, toText a = toText b ↔ a.withoutFlow = b.withoutFlow

/-- The fields one after another tell addresses apart as their text does. -/
def AddrDisplay.fields : AddrDisplay where
  toText
    | .v4 ip port => 4 :: (ip.bytes ++ (be16 port).bytes)
    | .v6 ip port _ scopeId => 6 :: (ip.bytes ++ ((be16 port).bytes ++ (be32 scopeId).bytes))
  toText_eq_iff a b := by
    constructor
    · intro h
      cases a with
      | v4 ip port =>
        cases b with
        | v4 ip' port' =>
          obtain ⟨rfl, htail⟩ := block_append_inj (List.tail_eq_of_cons_eq h)
          rw [be16_injective (Block.ext htail)]
        | v6 => exact absurd (List.head_eq_of_cons_eq h) (by decide)
      | v6 ip port flow scope =>
        cases b with
        | v4 => exact absurd (List.head_eq_of_cons_eq h) (by decide)
        | v6 ip' port' flow' scope' =>
          obtain ⟨rfl, htail⟩ := block_append_inj (List.tail_eq_of_cons_eq h)
          obtain ⟨hport, hscope⟩ := block_append_inj htail
          rw [SocketAddr.withoutFlow, SocketAddr.withoutFlow, be16_injective hport, be32_injective (Block.ext hscope)]
    · intro h
      cases a <;> cases b <;> simp_all [SocketAddr.withoutFlow]

/-- The host: a monotonic clock in nanoseconds, and the wall clock, which advances with it. -/
structure CookieHost where
  primitives : Primitives
  display : AddrDisplay
  wallAtStart : Int

namespace CookieHost

def unixSecs (H : CookieHost) (now : Nat) : UInt64 := UInt64.ofNat ((H.wallAtStart + now).toNat / 10 ^ 9)

def addrHash (H : CookieHost) (addr : SocketAddr) : Block 16 :=
  (H.primitives.sha256 (H.display.toText addr)).slice 0 16 (by decide)

end CookieHost

def defaultCookieMaxAgeSecs : Nat := 60
def cookieSecretRotation : Nat := 600 * 10 ^ 9

/-! ### Challenges -/

/-- `random_nonce[8] || timestamp[8] || hmac_tag[16]`. -/
def cookieChallenge (nonce : Block 8) (timestamp : UInt64) (tag : Block 16) : Block 32 :=
  ⟨nonce.bytes ++ (be64 timestamp).bytes ++ tag.bytes, by simp⟩

def challengeNonce (challenge : Block 32) : Block 8 := challenge.slice 0 8 (by decide)
def challengeTimestamp (challenge : Block 32) : UInt64 := ofBe64 (challenge.slice 8 8 (by decide))
def challengeTag (challenge : Block 32) : Block 16 := challenge.slice 16 16 (by decide)

variable (nonce : Block 8) (timestamp : UInt64) (tag : Block 16)

@[simp] theorem challengeNonce_cookieChallenge :
    challengeNonce (cookieChallenge nonce timestamp tag) = nonce := by
  ext1
  simp [challengeNonce, cookieChallenge, Block.slice]

@[simp] theorem challengeTimestamp_cookieChallenge :
    challengeTimestamp (cookieChallenge nonce timestamp tag) = timestamp := by
  have hslice : (cookieChallenge nonce timestamp tag).slice 8 8 (by decide) = be64 timestamp := by
    ext1
    simp [cookieChallenge, Block.slice]
  rw [challengeTimestamp, hslice, ofBe64_be64]

@[simp] theorem challengeTag_cookieChallenge :
    challengeTag (cookieChallenge nonce timestamp tag) = tag := by
  have hfront : (nonce.bytes ++ (be64 timestamp).bytes).length = 16 := by simp
  ext1
  calc (challengeTag (cookieChallenge nonce timestamp tag)).bytes
      = ((nonce.bytes ++ (be64 timestamp).bytes ++ tag.bytes).drop 16).take 16 := rfl
    _ = tag.bytes.take 16 := by rw [List.drop_left' hfront]
    _ = tag.bytes := List.take_of_length_le tag.length_bytes.le

theorem cookieChallenge_fields (challenge : Block 32) :
    cookieChallenge (challengeNonce challenge) (challengeTimestamp challenge) (challengeTag challenge) = challenge := by
  ext1
  have hlen := challenge.length_bytes
  have hlast : (challenge.bytes.drop 16).take 16 = challenge.bytes.drop 16 :=
    List.take_of_length_le (by rw [List.length_drop]; omega)
  have hmid : challenge.bytes.drop 16 = (challenge.bytes.drop 8).drop 8 := by rw [List.drop_drop]
  calc (cookieChallenge _ _ _).bytes
      = (challenge.bytes.take 8 ++ (challenge.bytes.drop 8).take 8) ++ (challenge.bytes.drop 16).take 16 := by
        simp [cookieChallenge, challengeNonce, challengeTimestamp, challengeTag, Block.slice]
    _ = challenge.bytes.take 8 ++ ((challenge.bytes.drop 8).take 8 ++ (challenge.bytes.drop 8).drop 8) := by
        rw [hlast, hmid, List.append_assoc]
    _ = challenge.bytes := by rw [List.take_append_drop, List.take_append_drop]

structure CookieRequest where
  challenge : Block 32
  difficulty : UInt8
  serverAddrHash : Block 16
  timestamp : UInt64
deriving DecidableEq

/-- The challenge is random bytes until the server fills in its time and tag. -/
def CookieRequest.new (H : CookieHost) (difficulty : UInt8) (clientAddr : SocketAddr) (random : Block 32) (now : Nat) :
    CookieRequest :=
  ⟨random, difficulty, H.addrHash clientAddr, H.unixSecs now⟩

/-! ### Replies -/

structure CookieReply where
  challenge : Block 32
  solutionNonce : UInt64
  handshakeInit : HandshakeInit
deriving DecidableEq

namespace CookieReply

def maxPowIterations : Nat := 2 ^ 26

variable (P : Primitives)

/-- Leading zero bits of `SHA256(challenge || nonce)`. -/
def puzzleZeros (challenge : Block 32) (nonce : UInt64) : Nat :=
  leadingZeros (P.sha256 (challenge.bytes ++ (be64 nonce).bytes)).bytes

def verify (r : CookieReply) (difficulty : UInt8) : Bool :=
  difficulty.toNat ≤ puzzleZeros P r.challenge r.solutionNonce

def searchNonce (P : Primitives) (challenge : Block 32) (requiredZeros : Nat) : Nat → UInt64 → Option UInt64
  | 0, _ => none
  | remaining + 1, nonce =>
    if requiredZeros ≤ puzzleZeros P challenge nonce then some nonce
    else searchNonce P challenge requiredZeros remaining (nonce + 1)

def solve (challenge : Block 32) (difficulty : UInt8) (handshakeInit : HandshakeInit) :
    Except ProtocolError CookieReply := do
  ensure (¬(difficulty = 0 ∨ 32 < difficulty))
    (.handshakeFailed s!"invalid puzzle difficulty: {difficulty} (must be 1-32)")
  let nonce ← okOr (searchNonce P challenge difficulty.toNat maxPowIterations 0)
    (.handshakeFailed "puzzle too difficult (exceeded MAX_POW_ITERATIONS)")
  return ⟨challenge, nonce, handshakeInit⟩

theorem zeros_of_searchNonce {P : Primitives} {challenge : Block 32} {requiredZeros remaining : Nat}
    {start nonce : UInt64} (h : searchNonce P challenge requiredZeros remaining start = some nonce) :
    requiredZeros ≤ puzzleZeros P challenge nonce := by
  induction remaining generalizing start with
  | zero => cases h
  | succ remaining ih =>
    rw [searchNonce] at h
    split at h
    case isTrue henough => exact Option.some.inj h ▸ henough
    case isFalse => exact ih h

theorem solve_spec {P : Primitives} {challenge : Block 32} {difficulty : UInt8} {init : HandshakeInit}
    {r : CookieReply} (h : solve P challenge difficulty init = .ok r) :
    r.challenge = challenge ∧ r.verify P difficulty = true := by
  obtain ⟨-, -, h⟩ := bind_ok_iff.mp h
  obtain ⟨nonce, hnonce, h⟩ := bind_ok_iff.mp h
  cases h
  exact ⟨rfl, decide_eq_true (zeros_of_searchNonce (okOr_eq_ok.mp hnonce))⟩

end CookieReply

/-! ### The server -/

abbrev CookieSecrets := Rotation.Secrets (Block 32)

structure ServerCookies where
  cookieDifficulty : UInt8
  cookieSecrets : CookieSecrets
deriving DecidableEq

def cookieMacInput (nonce : Block 8) (timestamp : UInt64) (addrHash : Block 16) (difficulty : UInt8) : Bytes :=
  nonce.bytes ++ (be64 timestamp).bytes ++ addrHash.bytes ++ [difficulty]

theorem cookieMacInput_inj {nonce nonce' : Block 8} {timestamp timestamp' : UInt64} {addrHash addrHash' : Block 16}
    {difficulty difficulty' : UInt8}
    (h : cookieMacInput nonce timestamp addrHash difficulty = cookieMacInput nonce' timestamp' addrHash' difficulty') :
    nonce = nonce' ∧ timestamp = timestamp' ∧ addrHash = addrHash' ∧ difficulty = difficulty' := by
  simp only [cookieMacInput, List.append_assoc] at h
  obtain ⟨hnonce, h⟩ := block_append_inj h
  obtain ⟨htime, h⟩ := block_append_inj h
  obtain ⟨haddr, h⟩ := block_append_inj h
  exact ⟨hnonce, be64_injective htime, haddr, List.head_eq_of_cons_eq h⟩

def computeCookieHmacWith (P : Primitives) (secret : Block 32) (nonce : Block 8) (timestamp : UInt64)
    (addrHash : Block 16) (difficulty : UInt8) : Block 16 :=
  (P.hmacSha256 secret (cookieMacInput nonce timestamp addrHash difficulty)).slice 0 16 (by decide)

namespace ServerCookies

def new (difficulty : UInt8) (secret : Block 32) : ServerCookies := ⟨difficulty, ⟨secret, none, 0⟩⟩

variable (H : CookieHost) (s : ServerCookies)

/-- `fresh` is the secret that is generated if the one in use is due. -/
def maybeRotateCookieSecret (now : Nat) (fresh : Block 32) : ServerCookies :=
  { s with cookieSecrets := s.cookieSecrets.maybeRotate cookieSecretRotation now fresh }

def createCookieRequest (clientAddr : SocketAddr) (now : Nat)
    (fresh random : Block 32) : ServerCookies × CookieRequest :=
  let s := s.maybeRotateCookieSecret now fresh
  let request := CookieRequest.new H s.cookieDifficulty clientAddr random now
  let nonce := challengeNonce request.challenge
  let hmacTag := computeCookieHmacWith H.primitives s.cookieSecrets.current nonce request.timestamp
    request.serverAddrHash request.difficulty
  (s, { request with challenge := cookieChallenge nonce request.timestamp hmacTag })

def expectedTag (secret challenge : Block 32) (clientAddr : SocketAddr) : Block 16 :=
  computeCookieHmacWith H.primitives secret (challengeNonce challenge) (challengeTimestamp challenge)
    (H.addrHash clientAddr) s.cookieDifficulty

def verifyCookieReply (reply : CookieReply) (clientAddr : SocketAddr) (now : Nat)
    (fresh : Block 32) : ServerCookies × Except ProtocolError Unit :=
  let s := s.maybeRotateCookieSecret now fresh
  let timestamp := challengeTimestamp reply.challenge
  let receivedTag := challengeTag reply.challenge
  let matchesCurrent := receivedTag = s.expectedTag H s.cookieSecrets.current reply.challenge clientAddr
  let matchesPrevious :=
    ∃ prev ∈ s.cookieSecrets.previous, receivedTag = s.expectedTag H prev reply.challenge clientAddr
  let unixNow := H.unixSecs now
  (s, do
    ensure (matchesCurrent ∨ matchesPrevious)
      (.handshakeFailed "invalid cookie: HMAC verification failed (forged or wrong client)")
    ensure (¬timestamp > unixNow + 5) (.handshakeFailed "invalid cookie: timestamp in the future")
    ensure (¬unixNow.toNat - timestamp.toNat > defaultCookieMaxAgeSecs)
      (.handshakeFailed "invalid cookie: challenge expired")
    ensure (reply.verify H.primitives s.cookieDifficulty = true) (.handshakeFailed "invalid cookie solution"))

def TagHeld (challenge : Block 32) (clientAddr : SocketAddr) : Prop :=
  ∃ secret, s.cookieSecrets.Holds secret ∧ challengeTag challenge = s.expectedTag H secret challenge clientAddr

theorem verifyCookieReply_ok_iff {H : CookieHost} {s : ServerCookies} {reply : CookieReply} {addr : SocketAddr}
    {now : Nat} {fresh : Block 32} :
    (s.verifyCookieReply H reply addr now fresh).2 = .ok () ↔
      (s.maybeRotateCookieSecret now fresh).TagHeld H reply.challenge addr ∧
        challengeTimestamp reply.challenge ≤ H.unixSecs now + 5 ∧
        (H.unixSecs now).toNat ≤ (challengeTimestamp reply.challenge).toNat + defaultCookieMaxAgeSecs ∧
        reply.verify H.primitives s.cookieDifficulty = true := by
  have htag : ∀ s : ServerCookies,
      (challengeTag reply.challenge = s.expectedTag H s.cookieSecrets.current reply.challenge addr ∨
        ∃ prev ∈ s.cookieSecrets.previous, challengeTag reply.challenge = s.expectedTag H prev reply.challenge addr) ↔
      s.TagHeld H reply.challenge addr := by
    intro s
    simp only [TagHeld, Rotation.Secrets.Holds, or_and_right, exists_or, exists_eq_left, Option.mem_def]
  have hdifficulty : s.cookieDifficulty = (s.maybeRotateCookieSecret now fresh).cookieDifficulty := rfl
  unfold verifyCookieReply
  rw [hdifficulty]
  simp only [bind_ok_iff, ensure_eq_ok, exists_const, gt_iff_lt, UInt64.not_lt, not_lt, Nat.sub_le_iff_le_add']
  rw [htag]

end ServerCookies

end HpnVpn
