import HpnVpn.AfXdp
import HpnVpn.SessionNonce
import HpnVpn.SessionPair

/-! One session on the AF_XDP path beside the server's own session object: its replay window, its client, and the
nonces of both. -/
namespace HpnVpn
open Wire Tables Runs AuthEnc SessionCrypto PacketHeader Session

/-! ### The replay window over runs -/

namespace SessionCrypto

structure ReplayRun where
  crypto : SessionCrypto
  accepted : List Counter

def replayStep (r : ReplayRun) (counter : Counter) : ReplayRun where
  crypto := (r.crypto.checkReplay counter).1
  accepted := if (r.crypto.checkReplay counter).2 then counter :: r.accepted else r.accepted

/-- The counter does not move the window back over counters it has accepted. -/
def KeepsMarks (r : ReplayRun) (counter : Counter) : Prop := ¬r.crypto.Forgets r.accepted counter

structure AcceptsOnce (r : ReplayRun) : Prop where
  remembers : r.crypto.Remembers r.accepted
  nodup : r.accepted.Nodup

theorem AcceptsOnce.step (r : ReplayRun) (counter : Counter) (h : AcceptsOnce r)
    (hkeeps : KeepsMarks r counter) : AcceptsOnce (replayStep r counter) := by
  unfold replayStep
  cases hcheck : r.crypto.checkReplay counter with
  | mk x' ok =>
    cases ok with
    | false => exact ⟨checkReplay_refused h.remembers hcheck, h.nodup⟩
    | true =>
      obtain ⟨hnew, hrem⟩ := checkReplay_accepted h.remembers hkeeps hcheck
      exact ⟨hrem, List.nodup_cons.mpr ⟨hnew, h.nodup⟩⟩

theorem checkReplay_of_unmarked {x : SessionCrypto} {a : Counter} (hle : x.rxWindowBase ≤ a)
    (hclear : (a - x.rxWindowBase).toNat < 64 → x.rxBitmap.toBitVec.getLsbD (a - x.rxWindowBase).toNat = false) :
    (x.checkReplay a).2 = true := by
  unfold checkReplay
  rw [if_neg (UInt64.not_lt.mpr hle)]
  split
  · rfl
  · rename_i hin
    have hlt := sub_lt_of_lt_add hle (UInt64.not_le.mp hin)
    rw [beq_iff_eq, and_oneBit_eq_zero hlt]
    exact hclear hlt

theorem forgotten_accepted_again {r : ReplayRun} {counter : Counter} (h : r.crypto.Forgets r.accepted counter) :
    ∃ a, ¬(exec replayStep r [counter, a]).accepted.Nodup := by
  obtain ⟨hnew, hjump, a, ha, hreach⟩ := h
  obtain ⟨hle, hlt⟩ := jumpBase_le counter
  have hcheck : r.crypto.checkReplay counter =
      ({ r.crypto with
         rxWindowBase := jumpBase counter
         rxBitmap := 1 <<< (counter - jumpBase counter) }, true) := by
    rw [checkReplay, if_neg (UInt64.not_lt.mpr hnew), if_pos hjump]
  refine ⟨a, fun hnodup => ?_⟩
  have hstep : replayStep r counter = ⟨(r.crypto.checkReplay counter).1, counter :: r.accepted⟩ := by
    rw [replayStep, hcheck]
    rfl
  rw [exec_cons, exec_cons, hstep, hcheck, replayStep] at hnodup
  have haccepted : ¬(a :: counter :: r.accepted).Nodup := fun hn =>
    (List.nodup_cons.mp hn).1 (List.mem_cons_of_mem _ ha)
  by_cases hsame : a = counter
  · -- then this very counter had been accepted before
    subst hsame
    have hdup : ¬(a :: r.accepted).Nodup := fun hn => (List.nodup_cons.mp hn).1 ha
    split at hnodup
    · exact haccepted hnodup
    · exact hdup hnodup
  · have hagain := checkReplay_of_unmarked (x := { r.crypto with
        rxWindowBase := jumpBase counter
        rxBitmap := 1 <<< (counter - jumpBase counter) }) hreach fun hwithin => ?_
    · rw [if_pos hagain] at hnodup
      exact haccepted hnodup
    · rw [oneBit_toBitVec hlt, BitVec.getLsbD_twoPow]
      have hne : (counter - jumpBase counter).toNat ≠ (a - jumpBase counter).toNat := fun heq =>
        hsame (UInt64.sub_left_inj _ |>.mp (UInt64.toNat_inj.mp heq)).symm
      simp [hne]

/-- The window accepts no counter twice if it is never moved back over an accepted one; where it is, two more packets
are enough. -/
theorem checkReplay_accepts_once (sessionId : SessionId) (txKey rxKey : Block keySize)
    (noncePrefix : Block 4) (keyId : KeyId) (pps : UInt32) (bps now : UInt64) (counters : List Counter) :
    let start : ReplayRun := ⟨newWithRateLimit sessionId txKey rxKey noncePrefix keyId pps bps now, []⟩
    (Meets KeepsMarks replayStep start counters → (exec replayStep start counters).accepted.Nodup) ∧
      ∀ counter, ¬KeepsMarks (exec replayStep start counters) counter →
        ∃ a, ¬(exec replayStep start (counters ++ [counter, a])).accepted.Nodup := by
  intro start
  constructor
  · intro hkeeps
    have hstart : AcceptsOnce start := ⟨fun a ha => absurd ha List.not_mem_nil, List.nodup_nil⟩
    exact (exec_invariant_of AcceptsOnce.step counters start hstart hkeeps).nodup
  · intro counter hforgets
    obtain ⟨a, ha⟩ := forgotten_accepted_again (not_not.mp hforgets)
    refine ⟨a, ?_⟩
    rw [exec_append]
    exact ha

def sample : SessionCrypto := .new 42 (Block.replicate 32 1) (Block.replicate 32 2) (Block.replicate 4 3) 0 0

/-- One step past the window forgets its marks, and at the top of the range every packet is a step past
the window. -/
theorem counter_accepted_twice :
    (exec replayStep ⟨sample, []⟩ [1, 64, 1]).accepted = [1, 64, 1] ∧
      (exec replayStep ⟨sample, []⟩ [18446744073709551615, 18446744073709551615]).accepted =
        [18446744073709551615, 18446744073709551615] := by
  decide +kernel

instance (r : ReplayRun) (counter : Counter) : Decidable (KeepsMarks r counter) :=
  inferInstanceAs (Decidable ¬(r.crypto.rxWindowBase ≤ counter ∧ r.crypto.rxWindowBase + 64 ≤ counter ∧
    ∃ a ∈ r.accepted, jumpBase counter ≤ a))

/-- A late packet, a replayed one and a step that leaves all of them behind. -/
theorem checkReplay_accepts_once_step : (exec replayStep ⟨sample, []⟩ [0, 5, 3, 3, 200]).accepted.Nodup := by
  refine (checkReplay_accepts_once 42 (Block.replicate 32 1) (Block.replicate 32 2) (Block.replicate 4 3) 0
    defaultSessionRateLimitPps defaultSessionRateLimitBps 0 [0, 5, 3, 3, 200]).1 ?_
  all_goals decide +kernel

end SessionCrypto

/-! ### Transmitting -/

def PrecomputedKey.encrypt (A : Aes256Gcm) (k : PrecomputedKey) (noncePrefix : Block 4) (counter : Counter)
    (aad plaintext : Bytes) (ciphertextLen : Nat) : List SealCall × Except CryptoError Bytes :=
  if counter ≥ 18446744073709551614 then ([], .error .counterExhausted)
  else if ciphertextLen < plaintext.length + tagSize then
    ([], .error (.bufferTooSmall (plaintext.length + tagSize) ciphertextLen))
  else
    let call : SealCall := ⟨k.key, buildNonce noncePrefix counter, aad, plaintext⟩
    ([call], okOr (call.output A) .encryption)

namespace SessionCrypto

def encrypt (A : Aes256Gcm) (x : SessionCrypto) (counter : Counter) (aad plaintext : Bytes)
    (ciphertextLen : Nat) : List SealCall × Except CryptoError Bytes :=
  x.txKey.encrypt A x.noncePrefix counter aad plaintext ciphertextLen

variable (A : Aes256Gcm) (x : SessionCrypto)

/-- The counter wraps around at the top of its range. -/
def nextTxCounter : SessionCrypto × Counter :=
  ({ x with txCounter := x.txCounter + 1 }, x.txCounter)

/-- `process_tx` once the session is found; `reserved` says whether the socket has a frame for it. -/
def transmit (plaintext : Bytes) (reserved : Bool) :
    SessionCrypto × List SealCall × Except AfXdpError Bytes :=
  let (x, counter) := x.nextTxCounter
  let header := PacketHeader.new .data x.sessionId x.keyId counter
  -- the counter is spent even without a frame
  if reserved = false then (x, [], .error .umemExhausted)
  else
    match x.encrypt A counter header.toBytes plaintext (plaintext.length + tagSize) with
    | (calls, .error e) => (x, calls, .error (.crypto e))
    | (calls, .ok ciphertext) => (x, calls, .ok (header.toBytes ++ ciphertext))

def nextCall (plaintext : Bytes) : SealCall where
  key := x.txKey.key
  nonce := buildNonce x.noncePrefix x.txCounter
  aad := (PacketHeader.new .data x.sessionId x.keyId x.txCounter).toBytes
  plaintext := plaintext

theorem transmit_cases (plaintext : Bytes) (reserved : Bool) :
    (∃ e, x.transmit A plaintext reserved = (x.nextTxCounter.1, [], .error e)) ∨
      (x.txCounter < 18446744073709551614 ∧
        ((∃ e, x.transmit A plaintext reserved = (x.nextTxCounter.1, [x.nextCall plaintext], .error e)) ∨
          ∃ ciphertext, (x.nextCall plaintext).output A = some ciphertext ∧
            x.transmit A plaintext reserved = (x.nextTxCounter.1, [x.nextCall plaintext],
              .ok ((PacketHeader.new .data x.sessionId x.keyId x.txCounter).toBytes ++ ciphertext)))) := by
  unfold transmit encrypt PrecomputedKey.encrypt nextTxCounter
  dsimp only
  cases reserved with
  | false => exact .inl ⟨_, rfl⟩
  | true =>
    rw [if_neg (show ¬true = false from nofun)]
    by_cases hlimit : x.txCounter ≥ 18446744073709551614
    · left
      refine ⟨.crypto .counterExhausted, ?_⟩
      rw [if_pos hlimit]
    · right
      refine ⟨UInt64.not_le.mp hlimit, ?_⟩
      rw [if_neg hlimit, if_neg (lt_irrefl _)]
      cases hout : (x.nextCall plaintext).output A with
      | none =>
        left
        refine ⟨.crypto .encryption, ?_⟩
        rw [nextCall] at hout
        rw [hout]
        rfl
      | some ciphertext =>
        right
        refine ⟨ciphertext, rfl, ?_⟩
        rw [nextCall] at hout
        rw [hout]
        rfl

theorem transmit_carries {A : Aes256Gcm} {x x' : SessionCrypto} {plaintext packet : Bytes} {reserved : Bool}
    {calls : List SealCall} (h : x.transmit A plaintext reserved = (x', calls, .ok packet))
    {keys : SessionKeys} (hkey : x.txKey.key = keys.sendKey) (hnonce : x.noncePrefix = keys.sendNoncePrefix) :
    Session.Carries A x.sessionId x.keyId keys .data x.txCounter plaintext packet := by
  rcases transmit_cases A x plaintext reserved with
    ⟨e, heq⟩ | ⟨-, ⟨e, heq⟩ | ⟨ciphertext, hout, heq⟩⟩
  · cases heq.symm.trans h
  · cases heq.symm.trans h
  · obtain ⟨-, -, hpacket⟩ : _ ∧ _ ∧ _ := by simpa only [Prod.mk.injEq] using heq.symm.trans h
    refine ⟨ciphertext, ?_, (Except.ok.inj hpacket).symm⟩
    rw [← hkey, ← hnonce]
    exact hout

/-- What the worker hands to the TUN device for a data packet, before replay and rate are checked. -/
def Opens (packet : Bytes) (bufferLen : Nat) (payload : Bytes) : Prop :=
  ∃ header, PacketHeader.decode packet = .ok header ∧
    x.decrypt A header.counter (packet.take header.encodedSize) (packet.drop header.encodedSize) bufferLen = .ok payload

theorem opens_iff {A : Aes256Gcm} {x : SessionCrypto} {header : PacketHeader} (hwf : header.WellFormed)
    {ciphertext payload : Bytes} {bufferLen : Nat} (hroom : ciphertext.length ≤ bufferLen) :
    x.Opens A (header.toBytes ++ ciphertext) bufferLen payload ↔
      A.decrypt x.rxKey.key (buildNonce x.noncePrefix header.counter) header.toBytes ciphertext = some payload := by
  have hdrop : (header.toBytes ++ ciphertext).drop header.encodedSize = ciphertext := by
    rw [← toBytes_length, List.drop_left]
  have htake : (header.toBytes ++ ciphertext).take header.encodedSize = header.toBytes := by
    rw [← toBytes_length, List.take_left]
  constructor
  · rintro ⟨header', hdecode, hdecrypt⟩
    cases (decode_toBytes hwf ciphertext).symm.trans hdecode
    rw [hdrop, htake, decrypt] at hdecrypt
    obtain ⟨-, -, hdecrypt⟩ := bind_ok_iff.mp hdecrypt
    obtain ⟨-, -, hdecrypt⟩ := bind_ok_iff.mp hdecrypt
    exact okOr_eq_ok.mp hdecrypt
  · intro hopen
    refine ⟨header, decode_toBytes hwf ciphertext, ?_⟩
    have hlen := A.decrypt_length hopen
    rw [hdrop, htake, decrypt, PrecomputedKey.decrypt, ensure_of (by omega), ensure_of hroom]
    exact okOr_eq_ok.mpr hopen

end SessionCrypto

namespace AfXdpTable

/-- The synced entry opens the client's packets exactly if both directions have one nonce prefix; the client opens
what it sends. -/
theorem synced_entry_talks_iff (A : Aes256Gcm) (hreject : A.RejectsOtherNonces) (t : AfXdpTable)
    (m : SessionManager) (c : ClientSession) (client : Session) (now : UInt64)
    (hlookup : m.sessions.lookup client.sessionId = some c) (hkeyId : c.session.keyId = client.keyId)
    (hkeys : c.session.keys = client.keys.swap) :
    ∃ x, (t.syncSession m client.sessionId now).1.lookup client.sessionId = some x ∧
      (∀ payload outputLen client' calls packet bufferLen,
        client.encryptPacket A .data payload outputLen = (client', calls, .ok packet) →
        packet.length ≤ bufferLen →
        (x.Opens A packet bufferLen payload ↔ client.keys.sendNoncePrefix = client.keys.recvNoncePrefix)) ∧
      ∀ counter payload reserved x' calls packet clientNow outputLen,
        ({ x with txCounter := counter } : SessionCrypto).transmit A payload reserved = (x', calls, .ok packet) →
        client.recvWindow.check counter = true → payload.length + tagSize ≤ outputLen →
        ∃ client' header, client.decryptPacket A clientNow packet outputLen = (client', .ok (header, payload)) := by
  refine ⟨_, lookup_syncSession hlookup now, ?_, ?_⟩
  · intro payload outputLen client' calls packet bufferLen hencrypt hroom
    obtain ⟨ciphertext, hsealed, rfl⟩ := ((encryptPacket_sent hencrypt).2 packet rfl).2.packet_eq
    rw [List.length_append] at hroom
    rw [opens_iff (new_wellFormed _ _ _ _) (by omega)]
    have hkey : (SessionCrypto.new client.sessionId c.session.keys.sendKey c.session.keys.recvKey
        c.session.keys.sendNoncePrefix c.session.keyId now).rxKey.key = client.keys.sendKey := by
      rw [hkeys]
      rfl
    have hnoncePre : (SessionCrypto.new client.sessionId c.session.keys.sendKey c.session.keys.recvKey
        c.session.keys.sendNoncePrefix c.session.keyId now).noncePrefix = client.keys.recvNoncePrefix := by
      rw [hkeys]
      rfl
    rw [hkey, hnoncePre]
    constructor
    · intro hopen
      by_contra hne
      have hnonce : buildNonce client.keys.recvNoncePrefix client.sendCounter ≠
          buildNonce client.keys.sendNoncePrefix client.sendCounter := fun heq =>
        hne (buildNonce_injective heq).1.symm
      cases (hreject hsealed hnonce).symm.trans hopen
    · intro hsame
      rw [← hsame]
      exact A.decrypt_encrypt hsealed
  · intro counter payload reserved x' calls packet clientNow outputLen htransmit hcheck hroom
    have hcarries : Session.Carries A client.sessionId c.session.keyId client.keys.swap .data counter payload
        packet := transmit_carries htransmit (congrArg SessionKeys.sendKey hkeys)
      (congrArg SessionKeys.sendNoncePrefix hkeys)
    rw [hkeyId] at hcarries
    exact ⟨_, _, hcarries.decryptPacket (SessionKeys.swap_swap _).symm hcheck clientNow hroom⟩

end AfXdpTable

def AfXdpTable.processTx (A : Aes256Gcm) (t : AfXdpTable) (sessionId : SessionId) (plaintext : Bytes)
    (reserved : Bool) : AfXdpTable × List SealCall × Except AfXdpError Bytes :=
  onEntry t sessionId (fun x => x.transmit A plaintext reserved) ([], .error (.sessionNotFound sessionId))

/-! ### Two encryptors for one session -/

/-- The server and its AF_XDP table, with the cipher calls that each has made for one session, newest
first. -/
structure SealRun where
  manager : SessionManager
  table : AfXdpTable
  serverCalls : List SealCall
  xdpCalls : List SealCall

inductive SealOp
  | encrypt (msgType : MessageType) (payload : Bytes) (outputLen : Nat)
  | transmit (plaintext : Bytes) (reserved : Bool)
  | sync (now : UInt64)

namespace SealRun

def step (A : Aes256Gcm) (sessionId : SessionId) (r : SealRun) : SealOp → SealRun
  | .encrypt msgType payload outputLen =>
    let sealed := r.manager.onSession sessionId (fun c =>
      ({ c with session := (c.session.encryptPacket A msgType payload outputLen).1 },
        (c.session.encryptPacket A msgType payload outputLen).2.1)) []
    { r with manager := sealed.1, serverCalls := sealed.2 ++ r.serverCalls }
  | .transmit plaintext reserved =>
    let sealed := r.table.processTx A sessionId plaintext reserved
    { r with table := sealed.1, xdpCalls := sealed.2.1 ++ r.xdpCalls }
  | .sync now => { r with table := (r.table.syncSession r.manager sessionId now).1 }

def calls (r : SealRun) : List SealCall := r.xdpCalls ++ r.serverCalls

def CountersBelow (key : Block keySize) (noncePrefix : Block 4) (calls : List SealCall) (n : Counter) : Prop :=
  ∀ call ∈ calls, ∀ counter, call.key = key → call.nonce = buildNonce noncePrefix counter → counter < n

/-- Either encryptor counts above the other, the AF_XDP counter does not wrap around, and no copy that has encrypted
is replaced. -/
def KeepsApart (sessionId : SessionId) (r : SealRun) : SealOp → Prop
  | .encrypt .. => ∀ c, r.manager.sessions.lookup sessionId = some c →
      CountersBelow c.session.keys.sendKey c.session.keys.sendNoncePrefix r.xdpCalls c.session.sendCounter
  | .transmit .. => ∀ x, r.table.lookup sessionId = some x →
      CountersBelow x.txKey.key x.noncePrefix r.serverCalls x.txCounter ∧ x.txCounter ≠ 18446744073709551615
  | .sync _ => r.xdpCalls = []

def used (call : SealCall) : Block keySize × Block nonceSize := (call.key, call.nonce)

/-- A session and its copy encrypt under one key and prefix, and no call of one repeats a call of the
other. -/
structure Apart (s : Session) (serverCalls : List SealCall) (x : SessionCrypto) (xdpCalls : List SealCall) :
    Prop where
  key_eq : x.txKey.key = s.keys.sendKey
  prefix_eq : x.noncePrefix = s.keys.sendNoncePrefix
  server : Session.NonceInv ⟨s, serverCalls⟩
  xdp : ∀ call ∈ xdpCalls, call.key = x.txKey.key ∧ ∃ n, call.nonce = buildNonce x.noncePrefix n ∧ n < x.txCounter
  xdp_nodup : (xdpCalls.map used).Nodup
  disjoint : ∀ call ∈ xdpCalls, ∀ call' ∈ serverCalls, used call ≠ used call'

theorem Apart.nodup {s : Session} {x : SessionCrypto} {serverCalls xdpCalls : List SealCall}
    (h : Apart s serverCalls x xdpCalls) : ((xdpCalls ++ serverCalls).map used).Nodup := by
  rw [List.map_append]
  refine h.xdp_nodup.append h.server.nodup ?_
  rintro pair hx hs
  obtain ⟨call, hcall, rfl⟩ := List.mem_map.mp hx
  obtain ⟨call', hcall', heq⟩ := List.mem_map.mp hs
  exact h.disjoint call hcall call' hcall' heq.symm

section
variable {s : Session} {x : SessionCrypto} {serverCalls xdpCalls : List SealCall}

theorem apart_new (h : Session.NonceInv ⟨s, serverCalls⟩) (sessionId : SessionId) (rxKey : Block keySize)
    (keyId : KeyId) (now : UInt64) :
    Apart s serverCalls (.new sessionId s.keys.sendKey rxKey s.keys.sendNoncePrefix keyId now) [] where
  key_eq := rfl
  prefix_eq := rfl
  server := h
  xdp _ hcall := absurd hcall List.not_mem_nil
  xdp_nodup := List.nodup_nil
  disjoint _ hcall := absurd hcall List.not_mem_nil

theorem Apart.encryptPacket (h : Apart s serverCalls x xdpCalls)
    (hbelow : CountersBelow s.keys.sendKey s.keys.sendNoncePrefix xdpCalls s.sendCounter) (A : Aes256Gcm)
    (msgType : MessageType) (payload : Bytes) (outputLen : Nat) :
    Apart (s.encryptPacket A msgType payload outputLen).1
      ((s.encryptPacket A msgType payload outputLen).2.1 ++ serverCalls) x xdpCalls := by
  have hserver := nonceInv_sendStep A ⟨s, serverCalls⟩ (.encrypt msgType payload outputLen) h.server trivial
  have hsent := (encryptPacket_sent (refl (s.encryptPacket A msgType payload outputLen))).1
  have hcalls : ∀ call ∈ (s.encryptPacket A msgType payload outputLen).2.1, call = s.nextCall msgType payload := by
    rcases encryptPacket_cases A s msgType payload outputLen with
      ⟨-, heq⟩ | ⟨-, -, heq⟩ | ⟨-, -, -, heq⟩ | ⟨-, -, c, -, heq⟩
    · rw [heq]
      exact fun call hcall => absurd hcall List.not_mem_nil
    · rw [heq]
      exact fun call hcall => absurd hcall List.not_mem_nil
    all_goals
      rw [heq]
      exact fun call => List.mem_singleton.mp
  exact
    { key_eq := h.key_eq.trans (congrArg SessionKeys.sendKey hsent.keys_eq.symm)
      prefix_eq := h.prefix_eq.trans (congrArg SessionKeys.sendNoncePrefix hsent.keys_eq.symm)
      server := hserver
      xdp := h.xdp
      xdp_nodup := h.xdp_nodup
      disjoint := by
        intro call hcall call' hcall' heq
        rcases List.mem_append.mp hcall' with hnew | hold
        · rw [hcalls call' hnew] at heq
          obtain ⟨hkey, hnonce⟩ := Prod.mk.inj heq
          exact UInt64.lt_irrefl _ (hbelow call hcall _ hkey hnonce)
        · exact h.disjoint call hcall call' hold heq }

theorem Apart.transmit (h : Apart s serverCalls x xdpCalls)
    (hbelow : CountersBelow x.txKey.key x.noncePrefix serverCalls x.txCounter)
    (hwrap : x.txCounter ≠ 18446744073709551615) (A : Aes256Gcm) (plaintext : Bytes) (reserved : Bool) :
    Apart s serverCalls (x.transmit A plaintext reserved).1 ((x.transmit A plaintext reserved).2.1 ++ xdpCalls) := by
  have hlt : x.txCounter < x.txCounter + 1 := by
    rw [UInt64.lt_iff_toNat_lt]
    have hne : x.txCounter.toNat ≠ 18446744073709551615 := fun heq => hwrap (UInt64.toNat_inj.mp heq)
    have := x.txCounter.toNat_lt
    simp
    omega
  have hspent : ∀ call ∈ xdpCalls, call.key = x.txKey.key ∧
      ∃ n, call.nonce = buildNonce x.noncePrefix n ∧ n < x.txCounter + 1 := by
    intro call hcall
    obtain ⟨hkey, n, hnonce, hn⟩ := h.xdp call hcall
    exact ⟨hkey, n, hnonce, UInt64.lt_trans hn hlt⟩
  have hcall : Apart s serverCalls x.nextTxCounter.1 (x.nextCall plaintext :: xdpCalls) :=
    { key_eq := h.key_eq
      prefix_eq := h.prefix_eq
      server := h.server
      xdp := List.forall_mem_cons.mpr ⟨⟨rfl, x.txCounter, rfl, hlt⟩, hspent⟩
      xdp_nodup := by
        refine List.nodup_cons.mpr ⟨fun hmem => ?_, h.xdp_nodup⟩
        obtain ⟨call, hcall, heq⟩ := List.mem_map.mp hmem
        obtain ⟨-, n, hnonce, hn⟩ := h.xdp call hcall
        have hsame := (buildNonce_injective (hnonce.symm.trans (Prod.mk.inj heq).2)).2
        rw [hsame] at hn
        exact UInt64.lt_irrefl _ hn
      disjoint := by
        refine List.forall_mem_cons.mpr ⟨fun call' hcall' heq => ?_, h.disjoint⟩
        obtain ⟨hkey, hnonce⟩ := Prod.mk.inj heq
        exact UInt64.lt_irrefl _ (hbelow call' hcall' _ hkey.symm hnonce.symm) }
  have hnoCall : Apart s serverCalls x.nextTxCounter.1 xdpCalls :=
    { key_eq := h.key_eq
      prefix_eq := h.prefix_eq
      server := h.server
      xdp := hspent
      xdp_nodup := h.xdp_nodup
      disjoint := h.disjoint }
  rcases transmit_cases A x plaintext reserved with
    ⟨e, heq⟩ | ⟨-, ⟨e, heq⟩ | ⟨ciphertext, -, heq⟩⟩
  · rw [heq]
    exact hnoCall
  all_goals
    rw [heq]
    exact hcall

end

def Safe (sessionId : SessionId) (r : SealRun) : Prop :=
  ∃ c x, r.manager.sessions.lookup sessionId = some c ∧ r.table.lookup sessionId = some x ∧
    Apart c.session r.serverCalls x r.xdpCalls

theorem Safe.step (A : Aes256Gcm) (sessionId : SessionId) (r : SealRun) (op : SealOp) (h : Safe sessionId r)
    (hapart : KeepsApart sessionId r op) : Safe sessionId (r.step A sessionId op) := by
  obtain ⟨c, x, hc, hx, hinv⟩ := h
  cases op with
  | encrypt msgType payload outputLen =>
    refine ⟨_, x, SessionManager.lookup_onSession_self hc, hx, ?_⟩
    rw [SealRun.step, SessionManager.onSession_answer hc]
    exact hinv.encryptPacket (hapart c hc) A msgType payload outputLen
  | transmit plaintext reserved =>
    obtain ⟨hbelow, hwrap⟩ := hapart x hx
    refine ⟨c, _, hc, lookup_onEntry_self hx, ?_⟩
    rw [SealRun.step, AfXdpTable.processTx, onEntry_of_some hx]
    exact hinv.transmit hbelow hwrap A plaintext reserved
  | sync now =>
    refine ⟨c, _, hc, AfXdpTable.lookup_syncSession hc now, ?_⟩
    have hnone : r.xdpCalls = [] := hapart
    rw [SealRun.step, hnone]
    exact apart_new hinv.server ..

end SealRun

/-- After a sync, no key and nonce reach the cipher twice in any run in which the two encryptors keep
their counters apart. -/
theorem SealRun.sealCalls_unique_apart (A : Aes256Gcm) (m : SessionManager) (t : AfXdpTable)
    (sessionId : SessionId) (c : ClientSession) (earlier : List SealCall) (now : UInt64) (ops : List SealOp)
    (hlookup : m.sessions.lookup sessionId = some c) (hearlier : Session.NonceInv ⟨c.session, earlier⟩)
    (hapart : Meets (KeepsApart sessionId) (step A sessionId) ⟨m, (t.syncSession m sessionId now).1, earlier, []⟩ ops) :
    let r := exec (step A sessionId) ⟨m, (t.syncSession m sessionId now).1, earlier, []⟩ ops
    (r.calls.map fun call => (call.key, call.nonce)).Nodup := by
  have hstart : Safe sessionId ⟨m, (t.syncSession m sessionId now).1, earlier, []⟩ :=
    ⟨c, _, hlookup, AfXdpTable.lookup_syncSession hlookup now, apart_new hearlier ..⟩
  obtain ⟨c', x, -, -, hinv⟩ := exec_invariant_of (Safe.step A sessionId) ops _ hstart hapart
  exact hinv.nodup

namespace AfXdpSample

def primitives : Primitives :=
  { Primitives.transparent fun _ => 0 with hkdfSha512 := fun _ _ info n => Block.fit n (info.drop 35) }

def cipher : Aes256Gcm := Cipher.labelled (Block keySize) nonceSize

def derivedKeys : SessionKeys :=
  deriveSessionKeysWithContext primitives (.combine (Block.replicate 32 1) (Block.replicate 32 2)) 42 1700000000

def sharedPrefixKeys : SessionKeys := { derivedKeys with recvNoncePrefix := derivedKeys.sendNoncePrefix }

def addr : SocketAddr := .v4 (Block.replicate 4 9) 4433

def pool : SessionManager := .new (ipv4 10 0 0 0) 24 (ipv4 10 0 0 1) 60000 10

def client (keys : SessionKeys) : Session := Session.new 42 keys 0

def manager (keys : SessionKeys) : SessionManager :=
  (pool.createSessionDualStackWithLevel Picker.least Picker.least (Session.new 42 keys.swap 0) addr .level3 0).1

def stored (keys : SessionKeys) : ClientSession :=
  .withRateLimit (Session.new 42 keys.swap 0) addr (ipv4 10 0 0 2) none .level3 pool.sessionRateLimitPps
    pool.sessionRateLimitBps 0

def synced (keys : SessionKeys) : SessionCrypto :=
  .new 42 keys.recvKey keys.sendKey keys.recvNoncePrefix 0 0

variable (keys : SessionKeys)

theorem lookup_derived : (manager derivedKeys).sessions.lookup 42 = some (stored derivedKeys) := by
  decide +kernel

theorem lookup_synced {keys : SessionKeys} (h : (manager keys).sessions.lookup 42 = some (stored keys)) :
    ((∅ : AfXdpTable).syncSession (manager keys) 42 0).1.lookup 42 = some (synced keys) :=
  AfXdpTable.lookup_syncSession h 0

theorem lookup_shared : (manager sharedPrefixKeys).sessions.lookup 42 = some (stored sharedPrefixKeys) := by
  decide +kernel

def firstPacket (keys : SessionKeys) : Bytes :=
  match ((client keys).encryptPacket cipher .data [1, 2, 3] 100).2.2 with
  | .ok packet => packet
  | .error _ => []

/-- With keys derived by the handshake the synced entry opens nothing of what the client sends. -/
theorem synced_entry_refuses_client :
    (manager derivedKeys).sessions.lookup 42 = some (stored derivedKeys) ∧
      (stored derivedKeys).session.keys = derivedKeys.swap ∧
      ((client derivedKeys).encryptPacket cipher .data [1, 2, 3] 100).2.2 = .ok (firstPacket derivedKeys) ∧
      ((∅ : AfXdpTable).syncSession (manager derivedKeys) 42 0).1.lookup 42 = some (synced derivedKeys) ∧
      ∀ payload, ¬(synced derivedKeys).Opens cipher (firstPacket derivedKeys) 100 payload := by
  refine ⟨lookup_derived, rfl, by decide +kernel, lookup_synced lookup_derived, ?_⟩
  rintro payload ⟨header, hdecode, hdecrypt⟩
  have hheader : PacketHeader.decode (firstPacket derivedKeys) = .ok (.new .data 42 0 0) := by decide +kernel
  cases hheader.symm.trans hdecode
  have hrefused : (synced derivedKeys).decrypt cipher 0 ((firstPacket derivedKeys).take 16)
      ((firstPacket derivedKeys).drop 16) 100 = .error .decryption := by decide +kernel
  cases hrefused.symm.trans hdecrypt

theorem synced_entry_talks_iff_shared :
    ∃ x, ((∅ : AfXdpTable).syncSession (manager sharedPrefixKeys) 42 0).1.lookup 42 = some x ∧
      (∃ client' calls, (client sharedPrefixKeys).encryptPacket cipher .data [1, 2, 3] 100 =
        (client', calls, .ok (firstPacket sharedPrefixKeys))) ∧
      x.Opens cipher (firstPacket sharedPrefixKeys) 100 [1, 2, 3] ∧
      ∃ x' calls packet client' header,
        ({ x with txCounter := 5 } : SessionCrypto).transmit cipher [4, 5] true = (x', calls, .ok packet) ∧
          (client sharedPrefixKeys).decryptPacket cipher 1 packet 100 = (client', .ok (header, [4, 5])) := by
  have hstored : (manager sharedPrefixKeys).sessions.lookup (client sharedPrefixKeys).sessionId =
      some (stored sharedPrefixKeys) := by
    exact lookup_shared
  obtain ⟨x, hx, huplink, hdownlink⟩ := AfXdpTable.synced_entry_talks_iff cipher
    (Cipher.labelled_rejectsOtherNonces nonceSize) ∅ (manager sharedPrefixKeys) (stored sharedPrefixKeys)
    (client sharedPrefixKeys) 0 hstored rfl rfl
  cases hx
  have hencrypt : (client sharedPrefixKeys).encryptPacket cipher .data [1, 2, 3] 100 =
      (_, _, .ok (firstPacket sharedPrefixKeys)) := Prod.ext rfl (Prod.ext rfl (by decide +kernel))
  have htransmit : ({ synced sharedPrefixKeys with txCounter := 5 } : SessionCrypto).transmit cipher [4, 5] true =
      (_, _, .ok _) := rfl
  obtain ⟨client', header, hopened⟩ := hdownlink 5 [4, 5] true _ _ _ 1 100 htransmit (by decide +kernel) (by decide)
  refine ⟨_, lookup_synced lookup_shared, ⟨_, _, hencrypt⟩, ?_, _, _, _, client', header, htransmit, hopened⟩
  exact (huplink _ _ _ _ _ 100 hencrypt (by decide +kernel)).mpr rfl

/-- The server's keepalive reply and the first transmitted packet share their key and nonce. -/
theorem sealCalls_repeat_nonce :
    (manager derivedKeys).sessions.lookup 42 = some (stored derivedKeys) ∧
      Session.NonceInv ⟨(stored derivedKeys).session, []⟩ ∧
      ((exec (SealRun.step cipher 42)
        ⟨manager derivedKeys, ((∅ : AfXdpTable).syncSession (manager derivedKeys) 42 0).1, [], []⟩
        [.encrypt .keepalive [] 100, .transmit [1] true]).calls.map fun call => (call.key, call.nonce)) =
          List.replicate 2 (derivedKeys.recvKey, buildNonce derivedKeys.recvNoncePrefix 0) ∧
      ((exec (SealRun.step cipher 42)
        ⟨manager derivedKeys, ((∅ : AfXdpTable).syncSession (manager derivedKeys) 42 0).1, [], []⟩
        [.transmit [1] true, .sync 1, .transmit [2] true]).calls.map fun call => (call.key, call.nonce)) =
          List.replicate 2 (derivedKeys.recvKey, buildNonce derivedKeys.recvNoncePrefix 0) :=
  ⟨lookup_derived, nonceInv_new 42 derivedKeys.swap 0, by decide +kernel, by decide +kernel⟩

theorem sealCalls_unique_apart_copy :
    ((exec (SealRun.step cipher 42)
      ⟨manager derivedKeys, ((∅ : AfXdpTable).syncSession (manager derivedKeys) 42 0).1, [], []⟩
      [.sync 1, .transmit [1] true, .transmit [2] true]).calls.map fun call =>
        (call.key, call.nonce)).Nodup := by
  refine SealRun.sealCalls_unique_apart cipher (manager derivedKeys) ∅ 42 (stored derivedKeys) [] 0
    [.sync 1, .transmit [1] true, .transmit [2] true] lookup_derived
    (nonceInv_new 42 derivedKeys.swap 0) ⟨rfl, ?_, ?_, trivial⟩
  · have hcounter : ∀ x ∈ (exec (SealRun.step cipher 42) ⟨manager derivedKeys,
        ((∅ : AfXdpTable).syncSession (manager derivedKeys) 42 0).1, [], []⟩ [.sync 1]).table.lookup 42,
        x.txCounter ≠ 18446744073709551615 := by
      decide +kernel
    exact fun x hx => ⟨fun call hcall => absurd hcall List.not_mem_nil, hcounter x hx⟩
  · have hcounter : ∀ x ∈ (exec (SealRun.step cipher 42) ⟨manager derivedKeys,
        ((∅ : AfXdpTable).syncSession (manager derivedKeys) 42 0).1, [], []⟩
        [.sync 1, .transmit [1] true]).table.lookup 42, x.txCounter ≠ 18446744073709551615 := by
      decide +kernel
    exact fun x hx => ⟨fun call hcall => absurd hcall List.not_mem_nil, hcounter x hx⟩

end AfXdpSample

/-! ### Packets from elsewhere -/

namespace SessionCrypto

/-- The data branch of the data path: the window is asked before the packet is opened. -/
def processData (A : Aes256Gcm) (x : SessionCrypto) (header : PacketHeader) (packet : Bytes) :
    SessionCrypto × Option Bytes :=
  match x.checkReplay header.counter with
  | (x, false) => (x, none)
  | (x, true) =>
    let ciphertext := packet.drop header.encodedSize
    (x, (x.decrypt A header.counter (packet.take header.encodedSize) ciphertext ciphertext.length).toOption)

/-- The counter is below the window or marked in it, or, where its end wraps around, the window is the one it would
move to. -/
def Stale (x : SessionCrypto) (counter : Counter) : Prop :=
  counter < x.rxWindowBase ∨
    (counter < x.rxWindowBase + 64 ∧ x.rxBitmap ||| 1 <<< (counter - x.rxWindowBase) = x.rxBitmap) ∨
    (x.rxWindowBase + 64 ≤ counter ∧ jumpBase counter = x.rxWindowBase ∧
      1 <<< (counter - jumpBase counter) = x.rxBitmap)

theorem checkReplay_fst_eq_iff {x : SessionCrypto} {counter : Counter} :
    (x.checkReplay counter).1 = x ↔ x.Stale counter := by
  unfold checkReplay Stale
  dsimp only
  split
  · rename_i hbelow
    exact iff_of_true rfl (.inl hbelow)
  · rename_i hbelow
    split
    · rename_i hjump
      constructor
      · intro h
        exact .inr (.inr ⟨hjump, congrArg rxWindowBase h, congrArg rxBitmap h⟩)
      · rintro (h | ⟨h, -⟩ | ⟨-, hbase, hbitmap⟩)
        · exact absurd h hbelow
        · exact absurd h (UInt64.not_lt.mpr hjump)
        · rw [hbitmap, hbase]
    · rename_i hin
      constructor
      · intro h
        exact .inr (.inl ⟨UInt64.not_le.mp hin, congrArg rxBitmap h⟩)
      · rintro (h | ⟨-, hbitmap⟩ | ⟨h, -⟩)
        · exact absurd h hbelow
        · rw [hbitmap]
        · exact absurd h hin

theorem processData_fst (A : Aes256Gcm) (x : SessionCrypto) (header : PacketHeader) (packet : Bytes) :
    (x.processData A header packet).1 = (x.checkReplay header.counter).1 := by
  unfold processData
  obtain ⟨x', ok⟩ := x.checkReplay header.counter
  cases ok <;> rfl

end SessionCrypto

namespace AfXdpTable

def processRx (A : Aes256Gcm) (t : AfXdpTable) (packet : Bytes) : AfXdpTable × Option (SessionId × Bytes) :=
  if packet.length < headerSize + tagSize then (t, none)
  else
    match PacketHeader.decode packet with
    | .error _ => (t, none)
    | .ok header =>
      if header.msgType = .data then
        let (t, plaintext) := onEntry t header.sessionId (fun x => x.processData A header packet) none
        (t, plaintext.map fun plaintext => (header.sessionId, plaintext))
      else (t, none)

/-- The packet is for no session, or its session's window has nothing to learn from it. -/
def Spent (t : AfXdpTable) (packet : Bytes) : Prop :=
  if packet.length < headerSize + tagSize then True
  else
    match PacketHeader.decode packet with
    | .error _ => True
    | .ok header => header.msgType = .data → ∀ x ∈ t.lookup header.sessionId, x.Stale header.counter

theorem processRx_fst_eq_iff {A : Aes256Gcm} {t : AfXdpTable} {packet : Bytes} :
    (t.processRx A packet).1 = t ↔ t.Spent packet := by
  unfold processRx Spent
  split
  · exact iff_of_true rfl trivial
  · split
    · exact iff_of_true rfl trivial
    · rename_i header _
      split
      · rename_i hdata
        cases hlookup : t.lookup header.sessionId with
        | none =>
          rw [onEntry_of_none hlookup]
          exact iff_of_true rfl fun _ x hx => nomatch hx
        | some x =>
          have hsame : (onEntry t header.sessionId (fun x => x.processData A header packet) none).1 = t ↔ _ :=
            onEntry_eq_self hlookup
          rw [processData_fst, checkReplay_fst_eq_iff] at hsame
          exact hsame.trans ⟨fun h _ y hy => Option.some.inj hy ▸ h, fun h => h hdata x rfl⟩
      · rename_i hother
        exact iff_of_true rfl fun h => absurd h hother

/-- Packets leave the table as it was just if the window has nothing to learn from any of them, whether they can be
opened or not. -/
theorem forged_packets_harmless_iff (A : Aes256Gcm) (t : AfXdpTable) (packets : List Bytes) :
    (∀ n, exec (fun t packet => (processRx A t packet).1) t (packets.take n) = t) ↔
      Meets Spent (fun t packet => (processRx A t packet).1) t packets := by
  refine @exec_always_iff_meets _ _ _ _ (fun _ => True) (· = t) (fun _ _ => True) (fun _ _ h => h) ?_ packets t
    (meets_of_forall (fun _ _ _ => trivial) t) trivial rfl
  rintro _ packet - rfl -
  exact processRx_fst_eq_iff

end AfXdpTable

namespace AfXdpSample

def table : AfXdpTable := (∅ : AfXdpTable).insert 42 (synced sharedPrefixKeys)

def forgedPacket : Bytes := (PacketHeader.new .data 42 0 1000).toBytes ++ List.replicate 16 0

theorem forged_packet_blocks_genuine :
    (table.processRx cipher forgedPacket).2 = none ∧
      (table.processRx cipher (firstPacket sharedPrefixKeys)).2 = some (42, [1, 2, 3]) ∧
      ((table.processRx cipher forgedPacket).1.processRx cipher (firstPacket sharedPrefixKeys)).2 = none := by
  decide +kernel

end AfXdpSample

end HpnVpn
