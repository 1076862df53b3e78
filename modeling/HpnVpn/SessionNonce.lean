import HpnVpn.Session

/-! Nonce uniqueness over runs of encryptions, decryptions and key updates that install unused send keys. -/
namespace HpnVpn.Session
open Wire AuthEnc

inductive SendOp
  | encrypt (msgType : MessageType) (payload : Bytes) (outputLen : Nat)
  | decrypt (now : Nat) (packet : Bytes) (outputLen : Nat)
  | updateKeys (newKeys : SessionKeys)

/-- A session and the AEAD calls it made. -/
structure SendRun where
  session : Session
  calls : List SealCall

variable (A : Aes256Gcm)

def sendStep (r : SendRun) : SendOp → SendRun
  | .encrypt msgType payload outputLen =>
    let (s, calls, _) := r.session.encryptPacket A msgType payload outputLen
    ⟨s, calls ++ r.calls⟩
  | .decrypt now packet outputLen => ⟨(r.session.decryptPacket A now packet outputLen).1, r.calls⟩
  | .updateKeys newKeys => ⟨r.session.updateKeys newKeys, r.calls⟩

/-- A key update installs a send key that no call has used. -/
def InstallsUnusedKey (r : SendRun) : SendOp → Prop
  | .updateKeys newKeys => ∀ call ∈ r.calls, call.key ≠ newKeys.sendKey
  | _ => True

/-- The calls so far, against the session's counter: under the current key only counters below it were
used. -/
structure NonceInv (r : SendRun) : Prop where
  counter_le : r.session.sendCounter ≤ Counter.maxSafe
  nodup : (r.calls.map fun call => (call.key, call.nonce)).Nodup
  below : ∀ call ∈ r.calls, ∃ p c, call.nonce = buildNonce p c ∧ c < Counter.maxSafe
  current : ∀ call ∈ r.calls, call.key = r.session.keys.sendKey →
    ∃ c, call.nonce = buildNonce r.session.keys.sendNoncePrefix c ∧ c < r.session.sendCounter

theorem nonceInv_new (sessionId : SessionId) (keys : SessionKeys) (now : Nat) :
    NonceInv ⟨new sessionId keys now, []⟩ where
  counter_le := by
    show (0 : UInt64) ≤ Counter.maxSafe
    decide
  nodup := List.nodup_nil
  below := nofun
  current := nofun

theorem NonceInv.takeCounter {r : SendRun} (h : NonceInv r) (hlt : r.session.sendCounter < Counter.maxSafe) :
    NonceInv ⟨r.session.takeCounter, r.calls⟩ where
  counter_le := (counter_lt_succ hlt).2
  nodup := h.nodup
  below := h.below
  current := by
    intro call hcall hkey
    obtain ⟨c, hnonce, hc⟩ := h.current call hcall hkey
    exact ⟨c, hnonce, UInt64.lt_trans hc (counter_lt_succ hlt).1⟩

theorem NonceInv.call {r : SendRun} (h : NonceInv r) (hlt : r.session.sendCounter < Counter.maxSafe)
    (msgType : MessageType) (payload : Bytes) :
    NonceInv ⟨r.session.takeCounter, r.session.nextCall msgType payload :: r.calls⟩ where
  counter_le := (counter_lt_succ hlt).2
  nodup := by
    refine List.nodup_cons.mpr ⟨fun hmem => ?_, h.nodup⟩
    obtain ⟨call, hcall, heq⟩ := List.mem_map.mp hmem
    obtain ⟨hkey, hnonce⟩ := Prod.mk.inj heq
    obtain ⟨c, hc, hclt⟩ := h.current call hcall hkey
    have hsame : buildNonce r.session.keys.sendNoncePrefix c =
        buildNonce r.session.keys.sendNoncePrefix r.session.sendCounter := hc.symm.trans hnonce
    rw [(buildNonce_injective hsame).2] at hclt
    exact UInt64.lt_irrefl _ hclt
  below := by
    intro call hcall
    rcases List.mem_cons.mp hcall with rfl | hcall
    · exact ⟨_, _, rfl, hlt⟩
    · exact h.below call hcall
  current := by
    intro call hcall hkey
    rcases List.mem_cons.mp hcall with rfl | hcall
    · exact ⟨r.session.sendCounter, rfl, (counter_lt_succ hlt).1⟩
    · obtain ⟨c, hnonce, hc⟩ := h.current call hcall hkey
      exact ⟨c, hnonce, UInt64.lt_trans hc (counter_lt_succ hlt).1⟩

theorem NonceInv.congr {s s' : Session} {calls : List SealCall} (h : NonceInv ⟨s, calls⟩)
    (hcounter : s'.sendCounter = s.sendCounter) (hkeys : s'.keys = s.keys) : NonceInv ⟨s', calls⟩ where
  counter_le := hcounter ▸ h.counter_le
  nodup := h.nodup
  below := h.below
  current := by
    intro call hcall hkey
    rw [hkeys] at hkey
    rw [hkeys, hcounter]
    exact h.current call hcall hkey

theorem decryptPacket_keeps_sending (s : Session) (now : Nat) (packet : Bytes) (outputLen : Nat) :
    (s.decryptPacket A now packet outputLen).1.sendCounter = s.sendCounter ∧
      (s.decryptPacket A now packet outputLen).1.keys = s.keys := by
  rcases decryptPacket_cases A s now packet outputLen with
    ⟨e, -, heq⟩ | ⟨header, payload, -, -, heq⟩ | ⟨header, payload, -, -, heq⟩ <;>
  · rw [heq]
    exact ⟨rfl, rfl⟩

theorem nonceInv_sendStep (r : SendRun) (op : SendOp) (h : NonceInv r)
    (hkey : InstallsUnusedKey r op) : NonceInv (sendStep A r op) := by
  cases op with
  | encrypt msgType payload outputLen =>
    rw [sendStep]
    rcases encryptPacket_cases A r.session msgType payload outputLen with
      ⟨-, heq⟩ | ⟨hlt, -, heq⟩ | ⟨hlt, -, -, heq⟩ | ⟨hlt, -, c, -, heq⟩
    · rw [heq]
      exact h
    · rw [heq]
      exact h.takeCounter hlt
    · rw [heq]
      exact h.call hlt msgType payload
    · rw [heq]
      exact (h.call hlt msgType payload).congr rfl rfl
  | decrypt now packet outputLen =>
    obtain ⟨hcounter, hkeys⟩ := decryptPacket_keeps_sending A r.session now packet outputLen
    exact NonceInv.congr (s := r.session) h hcounter hkeys
  | updateKeys newKeys =>
    exact
      { counter_le := by
          show (0 : UInt64) ≤ Counter.maxSafe
          decide
        nodup := h.nodup
        below := h.below
        current := fun call hcall hsame => absurd hsame (hkey call hcall) }

/-- No key and nonce reach the cipher twice and no counter from `2 ^ 60` is used. -/
theorem sealCalls_nonce_unique (A : Aes256Gcm) (sessionId : SessionId) (keys : SessionKeys) (now : Nat)
    (ops : List SendOp)
    (hunused : Runs.Meets InstallsUnusedKey (sendStep A) ⟨new sessionId keys now, []⟩ ops) :
    let calls := (Runs.exec (sendStep A) ⟨new sessionId keys now, []⟩ ops).calls
    (calls.map fun call => (call.key, call.nonce)).Nodup ∧
      ∀ call ∈ calls, ∃ p c, call.nonce = buildNonce p c ∧ c.toNat < 2 ^ 60 := by
  have hinv := Runs.exec_invariant_of (nonceInv_sendStep A) ops _ (nonceInv_new sessionId keys now) hunused
  refine ⟨hinv.nodup, fun call hcall => ?_⟩
  obtain ⟨p, c, hnonce, hc⟩ := hinv.below call hcall
  rw [UInt64.lt_iff_toNat_lt, Counter.maxSafe_toNat] at hc
  exact ⟨p, c, hnonce, hc⟩

theorem sealCalls_nonce_unique_rekey :
    let A : Aes256Gcm := Cipher.ofTag fun _ _ _ _ => Block.replicate 16 0
    let keys (b : UInt8) : SessionKeys :=
      ⟨Block.replicate 32 b, Block.replicate 32 b, Block.replicate 4 b, Block.replicate 4 b⟩
    let ops : List SendOp := [.encrypt .data [7] 64, .encrypt .data [7] 10, .updateKeys (keys 2), .encrypt .data [7] 64]
    let calls := (Runs.exec (sendStep A) ⟨new 9 (keys 1) 0, []⟩ ops).calls
    calls.length = 2 ∧ (calls.map fun call => (call.key, call.nonce)).Nodup ∧
      ∀ call ∈ calls, ∃ p c, call.nonce = buildNonce p c ∧ c.toNat < 2 ^ 60 := by
  intro A keys ops calls
  refine ⟨rfl, sealCalls_nonce_unique A 9 (keys 1) 0 ops ⟨trivial, trivial, ?_, trivial, trivial⟩⟩
  show ∀ call ∈ (sendStep A (sendStep A ⟨new 9 (keys 1) 0, []⟩ (.encrypt .data [7] 64))
    (.encrypt .data [7] 10)).calls, call.key ≠ (keys 2).sendKey
  decide

end HpnVpn.Session
