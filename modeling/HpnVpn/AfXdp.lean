import HpnVpn.SessionManager

/-! The AF_XDP data path: a session table of its own with a 64-counter replay window and a token bucket in each entry,
and its worker. -/
namespace HpnVpn
open Wire Tables

inductive AfXdpError
  | invalidRingSize (size : Nat)
  | invalidFrameSize (size min max : Nat)
  | umemExhausted
  | invalidFrameAddress (addr : Nat)
  | config (reason : String)
  | sessionNotFound (sessionId : SessionId)
  | crypto (e : CryptoError)
deriving DecidableEq

def saturatingMul (a b : UInt64) : UInt64 :=
  if a.toNat * b.toNat < 2 ^ 64 then a * b else UInt64.ofNat (2 ^ 64 - 1)

def PrecomputedKey.decrypt (A : Aes256Gcm) (k : PrecomputedKey) (noncePrefix : Block 4) (counter : Counter)
    (aad ciphertext : Bytes) (plaintextLen : Nat) : Except CryptoError Bytes := do
  ensure (tagSize ≤ ciphertext.length) .decryption
  ensure (ciphertext.length ≤ plaintextLen) (.bufferTooSmall ciphertext.length plaintextLen)
  okOr (A.decrypt k.key (buildNonce noncePrefix counter) aad ciphertext) .decryption

/-- One session of the AF_XDP table.  There is one nonce prefix for both directions. -/
structure SessionCrypto where
  sessionId : SessionId
  txKey : PrecomputedKey
  rxKey : PrecomputedKey
  noncePrefix : Block 4
  txCounter : UInt64
  rxWindowBase : UInt64
  rxBitmap : UInt64
  keyId : KeyId
  rateLimitPps : UInt32
  rateLimitBps : UInt64
  packetTokens : UInt64
  byteTokens : UInt64
  lastRefillUs : UInt64
deriving DecidableEq

namespace SessionCrypto

/-- The defaults of this path, not those of the session manager. -/
def defaultSessionRateLimitPps : UInt32 := 2000000
def defaultSessionRateLimitBps : UInt64 := 0

def newWithRateLimit (sessionId : SessionId) (txKey rxKey : Block keySize) (noncePrefix : Block 4)
    (keyId : KeyId) (rateLimitPps : UInt32) (rateLimitBps now : UInt64) : SessionCrypto where
  sessionId := sessionId
  txKey := .new txKey
  rxKey := .new rxKey
  noncePrefix := noncePrefix
  txCounter := 0
  rxWindowBase := 0
  rxBitmap := 0
  keyId := keyId
  rateLimitPps := rateLimitPps
  rateLimitBps := rateLimitBps
  packetTokens := rateLimitPps.toUInt64 * 2
  byteTokens := saturatingMul rateLimitBps 2
  lastRefillUs := now

def new (sessionId : SessionId) (txKey rxKey : Block keySize) (noncePrefix : Block 4) (keyId : KeyId)
    (now : UInt64) : SessionCrypto :=
  newWithRateLimit sessionId txKey rxKey noncePrefix keyId defaultSessionRateLimitPps defaultSessionRateLimitBps now

def jumpBase (counter : Counter) : UInt64 := if 63 ≤ counter then counter - 63 else 0

variable (A : Aes256Gcm) (x : SessionCrypto)

/-- Check a counter and record it.  Sums wrap around, as in the release build. -/
def checkReplay (counter : Counter) : SessionCrypto × Bool :=
  let base := x.rxWindowBase
  if counter < base then (x, false)
  else if counter ≥ base + 64 then
    -- the new bitmap holds this counter alone
    ({ x with rxWindowBase := jumpBase counter, rxBitmap := 1 <<< (counter - jumpBase counter) }, true)
  else
    let bit : UInt64 := 1 <<< (counter - base)
    ({ x with rxBitmap := x.rxBitmap ||| bit }, x.rxBitmap &&& bit == 0)

def refillRateTokens (now : UInt64) : SessionCrypto :=
  let elapsedUs := if x.lastRefillUs ≤ now then now - x.lastRefillUs else 0
  if elapsedUs < 1000 then x
  else
    { x with
      lastRefillUs := now
      packetTokens :=
        if x.rateLimitPps > 0 then
          min (saturatingAdd x.packetTokens (.ofNat (elapsedUs.toNat * x.rateLimitPps.toNat / 1000000)))
            (x.rateLimitPps.toUInt64 * 2)
        else x.packetTokens
      byteTokens :=
        if x.rateLimitBps > 0 then
          min (saturatingAdd x.byteTokens (.ofNat (elapsedUs.toNat * x.rateLimitBps.toNat / 1000000)))
            (saturatingMul x.rateLimitBps 2)
        else x.byteTokens }

def consume (bytes : UInt64) : SessionCrypto × Bool :=
  if x.rateLimitPps > 0 ∧ x.packetTokens = 0 then (x, false)
  -- a packet token taken for a packet with too few byte tokens is put back
  else if x.rateLimitBps > 0 ∧ x.byteTokens < bytes then (x, false)
  else
    ({ x with
       packetTokens := if x.rateLimitPps > 0 then x.packetTokens - 1 else x.packetTokens
       byteTokens := if x.rateLimitBps > 0 then x.byteTokens - bytes else x.byteTokens }, true)

def checkRateLimit (now : UInt64) (bytes : Nat) : SessionCrypto × Bool :=
  if x.rateLimitPps = 0 ∧ x.rateLimitBps = 0 then (x, true)
  else (x.refillRateTokens now).consume (UInt64.ofNat bytes)

def decrypt (A : Aes256Gcm) (x : SessionCrypto) (counter : Counter) (aad ciphertext : Bytes)
    (plaintextLen : Nat) : Except CryptoError Bytes :=
  x.rxKey.decrypt A x.noncePrefix counter aad ciphertext plaintextLen

/-- The data branch of the worker for one session; returns what is handed to the TUN device. -/
def receiveData (header : PacketHeader) (packet : Bytes)
    (bufferLen : Nat) (now : UInt64) : SessionCrypto × Option Bytes :=
  match x.decrypt A header.counter (packet.take header.encodedSize) (packet.drop header.encodedSize)
      bufferLen with
  | .error _ => (x, none)
  | .ok plaintext =>
    match x.checkReplay header.counter with
    | (x, false) => (x, none)
    | (x, true) =>
      match x.checkRateLimit now plaintext.length with
      | (x, false) => (x, none)
      | (x, true) => (x, some plaintext)

end SessionCrypto

/-! ### The replay window -/

variable {k : UInt64}

theorem oneBit_toBitVec (hk : k.toNat < 64) : ((1 : UInt64) <<< k).toBitVec = BitVec.twoPow 64 k.toNat := by
  have hmod : (k.toBitVec % 64).toNat = k.toNat := by
    rw [BitVec.toNat_umod]
    exact Nat.mod_eq_of_lt hk
  rw [UInt64.toBitVec_shiftLeft, BitVec.shiftLeft_eq', hmod, BitVec.twoPow_eq]
  rfl

theorem and_oneBit_eq_zero {b : UInt64} (hk : k.toNat < 64) :
    b &&& 1 <<< k = 0 ↔ b.toBitVec.getLsbD k.toNat = false := by
  rw [← UInt64.toBitVec_inj, UInt64.toBitVec_and, oneBit_toBitVec hk, BitVec.and_twoPow]
  have hne : BitVec.twoPow 64 k.toNat ≠ (0 : UInt64).toBitVec := by
    intro h
    have hbit := congrArg (fun v => v.getLsbD k.toNat) h
    simp [hk] at hbit
  cases b.toBitVec.getLsbD k.toNat with
  | true => simpa using hne
  | false => simp

theorem getLsbD_or_oneBit {b : UInt64} (hk : k.toNat < 64) (i : Nat) :
    (b ||| 1 <<< k).toBitVec.getLsbD i = (b.toBitVec.getLsbD i || decide (i = k.toNat)) := by
  rw [UInt64.toBitVec_or, oneBit_toBitVec hk, BitVec.getLsbD_or, BitVec.getLsbD_twoPow]
  by_cases h : i = k.toNat
  · simp [h, hk]
  · simp [h, Ne.symm h]

namespace SessionCrypto

/-- The counters of a history that are not below the window are marked in it. -/
def Remembers (x : SessionCrypto) (history : List Counter) : Prop :=
  ∀ a ∈ history, x.rxWindowBase ≤ a →
    (a - x.rxWindowBase).toNat < 64 ∧ x.rxBitmap.toBitVec.getLsbD (a - x.rxWindowBase).toNat = true

/-- The counter makes the window jump, and the new window reaches back to a counter of the history, which
it has no mark for. -/
def Forgets (x : SessionCrypto) (history : List Counter) (counter : Counter) : Prop :=
  x.rxWindowBase ≤ counter ∧ x.rxWindowBase + 64 ≤ counter ∧ ∃ a ∈ history, jumpBase counter ≤ a

variable {x x' : SessionCrypto} {history : List Counter} {counter : Counter}

theorem jumpBase_le (counter : Counter) : jumpBase counter ≤ counter ∧ (counter - jumpBase counter).toNat < 64 := by
  have h63 : (63 : UInt64).toNat = 63 := rfl
  unfold jumpBase
  split
  · rename_i h
    rw [UInt64.le_iff_toNat_le] at h
    have hsub := UInt64.toNat_sub_of_le counter 63 (UInt64.le_iff_toNat_le.mpr h)
    have hle : counter - 63 ≤ counter := by
      rw [UInt64.le_iff_toNat_le]
      omega
    refine ⟨hle, ?_⟩
    rw [UInt64.toNat_sub_of_le _ _ hle]
    omega
  · rename_i h
    rw [UInt64.not_le, UInt64.lt_iff_toNat_lt] at h
    refine ⟨UInt64.zero_le, ?_⟩
    rw [UInt64.sub_zero]
    omega

theorem sub_lt_of_lt_add {base counter : UInt64} (hle : base ≤ counter) (hlt : counter < base + 64) :
    (counter - base).toNat < 64 := by
  rw [UInt64.toNat_sub_of_le _ _ hle]
  rw [UInt64.lt_iff_toNat_lt, UInt64.toNat_add] at hlt
  rw [UInt64.le_iff_toNat_le] at hle
  have h64 : (64 : UInt64).toNat = 64 := rfl
  omega

theorem checkReplay_accepted (hrem : x.Remembers history) (hkeeps : ¬x.Forgets history counter)
    (h : x.checkReplay counter = (x', true)) :
    counter ∉ history ∧ x'.Remembers (counter :: history) := by
  unfold checkReplay at h
  dsimp only at h
  split at h
  · cases h
  · rename_i hnew
    rw [UInt64.not_lt] at hnew
    split at h
    · rename_i hjump
      obtain ⟨hle, hlt⟩ := jumpBase_le counter
      have hpast : ∀ a ∈ history, ¬jumpBase counter ≤ a := fun a ha hreach =>
        hkeeps ⟨hnew, hjump, a, ha, hreach⟩
      obtain rfl : _ = x' := congrArg Prod.fst h
      refine ⟨fun hmem => hpast counter hmem hle, ?_⟩
      intro a ha hbase
      rcases List.mem_cons.mp ha with rfl | ha
      · refine ⟨hlt, ?_⟩
        rw [oneBit_toBitVec hlt, BitVec.getLsbD_twoPow]
        simp [hlt]
      · exact absurd hbase (hpast a ha)
    · rename_i hin
      have hlt := sub_lt_of_lt_add hnew (UInt64.not_le.mp hin)
      obtain ⟨rfl, hclear⟩ := Prod.mk.inj h
      rw [beq_iff_eq, and_oneBit_eq_zero hlt] at hclear
      constructor
      · intro hmem
        rw [(hrem counter hmem hnew).2] at hclear
        cases hclear
      · intro a ha hbase
        rw [getLsbD_or_oneBit hlt]
        rcases List.mem_cons.mp ha with rfl | ha
        · exact ⟨hlt, by simp⟩
        · obtain ⟨hwithin, hmarked⟩ := hrem a ha hbase
          exact ⟨hwithin, by rw [hmarked, Bool.true_or]⟩

theorem checkReplay_refused (hrem : x.Remembers history) (h : x.checkReplay counter = (x', false)) :
    x'.Remembers history := by
  unfold checkReplay at h
  dsimp only at h
  split at h
  · cases h
    exact hrem
  · rename_i hnew
    split at h
    · cases h
    · rename_i hin
      have hlt := sub_lt_of_lt_add (UInt64.not_lt.mp hnew) (UInt64.not_le.mp hin)
      obtain rfl : _ = x' := congrArg Prod.fst h
      intro a ha hbase
      obtain ⟨hwithin, hmarked⟩ := hrem a ha hbase
      refine ⟨hwithin, ?_⟩
      rw [getLsbD_or_oneBit hlt, hmarked, Bool.true_or]

end SessionCrypto

abbrev AfXdpTable := Table SessionId SessionCrypto

namespace AfXdpTable

/-- The worker on one frame, when the pool has a buffer; messages other than data change nothing here. -/
def receive (A : Aes256Gcm) (t : AfXdpTable) (packet : Bytes) (bufferLen : Nat) (now : UInt64) :
    AfXdpTable × Option Bytes :=
  if packet.length < headerSize + tagSize then (t, none)
  else
    match PacketHeader.decode packet with
    | .error _ => (t, none)
    | .ok header =>
      if header.msgType = .data then
        onEntry t header.sessionId (fun x => x.receiveData A header packet bufferLen now) none
      else (t, none)

/-- Copy a session of the manager into the table, with fresh counters; the nonce prefix is the one the
server sends under. -/
def syncSession (t : AfXdpTable) (m : SessionManager) (sessionId : SessionId) (now : UInt64) :
    AfXdpTable × Except ServerError Unit :=
  match m.sessions.lookup sessionId with
  | none => (t, .error (.internal s!"Session {sessionId} not found"))
  | some c =>
    let keys := c.session.keys
    (t.insert sessionId (.new sessionId keys.sendKey keys.recvKey keys.sendNoncePrefix c.session.keyId now), .ok ())

theorem lookup_syncSession {t : AfXdpTable} {m : SessionManager} {sessionId : SessionId} {c : ClientSession}
    (h : m.sessions.lookup sessionId = some c) (now : UInt64) :
    (t.syncSession m sessionId now).1.lookup sessionId =
      some (.new sessionId c.session.keys.sendKey c.session.keys.recvKey c.session.keys.sendNoncePrefix
        c.session.keyId now) := by
  rw [syncSession, h]
  exact AList.lookup_insert _

end AfXdpTable

end HpnVpn
