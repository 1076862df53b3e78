import HpnVpn.Session

/-! Two ends of a session under one generation of keys: whatever either seals next is accepted by the other. -/
namespace HpnVpn
open Wire

def AntiReplayWindow.Behind (w : AntiReplayWindow) (n : Counter) : Prop :=
  ∃ accepted, w.Tracks accepted ∧ ∀ c ∈ accepted, c < n

namespace AntiReplayWindow

theorem behind_reset (w : AntiReplayWindow) (n : Counter) : w.reset.Behind n :=
  ⟨[], tracks_reset w, nofun⟩

variable {w : AntiReplayWindow} {n : Counter}

theorem Behind.mono {m : Counter} (h : w.Behind n) (hle : n ≤ m) : w.Behind m := by
  obtain ⟨accepted, htracks, hlt⟩ := h
  exact ⟨accepted, htracks, fun c hc => UInt64.lt_of_lt_of_le (hlt c hc) hle⟩

theorem Behind.check {c : Counter} (h : w.Behind n) (hle : n ≤ c) : w.check c = true := by
  obtain ⟨accepted, htracks, hlt⟩ := h
  rw [check_eq, checkAndUpdate_accepts_iff htracks]
  exact .inl fun a ha => UInt64.lt_of_lt_of_le (hlt a ha) hle

theorem Behind.accept {c : Counter} (h : w.Behind n) (hc : c < n) : (w.checkAndUpdate c).1.Behind n := by
  obtain ⟨accepted, htracks, hlt⟩ := h
  rcases checkAndUpdate_spec htracks c with ⟨-, -, htracks'⟩ | ⟨-, hno⟩
  · exact ⟨c :: accepted, htracks', List.forall_mem_cons.mpr ⟨hc, hlt⟩⟩
  · rw [hno]
    exact ⟨accepted, htracks, hlt⟩

end AntiReplayWindow

namespace Session

/-- `packet` is `payload` sealed under these identifiers and send keys. -/
structure Carries (A : Aes256Gcm) (sessionId : SessionId) (keyId : KeyId) (keys : SessionKeys)
    (msgType : MessageType) (counter : Counter) (payload packet : Bytes) : Prop where
  packet_eq : ∃ ciphertext,
    A.encrypt keys.sendKey (buildNonce keys.sendNoncePrefix counter)
      (PacketHeader.new msgType sessionId keyId counter).toBytes payload = some ciphertext ∧
    packet = (PacketHeader.new msgType sessionId keyId counter).toBytes ++ ciphertext

/-- `s'` is `s` after sending: identifiers, keys and window as before, the counter no lower. -/
structure SentFrom (s s' : Session) : Prop where
  sessionId_eq : s'.sessionId = s.sessionId
  keyId_eq : s'.keyId = s.keyId
  keys_eq : s'.keys = s.keys
  recvWindow_eq : s'.recvWindow = s.recvWindow
  counter_le : s.sendCounter ≤ s'.sendCounter

theorem SentFrom.refl (s : Session) : SentFrom s s := ⟨rfl, rfl, rfl, rfl, UInt64.le_refl _⟩

variable {A : Aes256Gcm} {s s' : Session} {msgType : MessageType} {payload : Bytes} {outputLen : Nat}

theorem encryptPacket_sent
    {calls : List SealCall} {result : Except CryptoError Bytes}
    (h : s.encryptPacket A msgType payload outputLen = (s', calls, result)) :
    SentFrom s s' ∧ ∀ packet, result = .ok packet →
      s.sendCounter < s'.sendCounter ∧ Carries A s.sessionId s.keyId s.keys msgType s.sendCounter payload packet := by
  rcases encryptPacket_cases A s msgType payload outputLen with
    ⟨-, heq⟩ | ⟨hlt, -, heq⟩ | ⟨hlt, -, -, heq⟩ | ⟨hlt, -, ciphertext, hcall, heq⟩
  all_goals
    rw [heq] at h
    obtain ⟨rfl, -, rfl⟩ := h
  · exact ⟨SentFrom.refl s, nofun⟩
  · exact ⟨⟨rfl, rfl, rfl, rfl, UInt64.le_of_lt (counter_lt_succ hlt).1⟩, nofun⟩
  · exact ⟨⟨rfl, rfl, rfl, rfl, UInt64.le_of_lt (counter_lt_succ hlt).1⟩, nofun⟩
  · refine ⟨⟨rfl, rfl, rfl, rfl, UInt64.le_of_lt (counter_lt_succ hlt).1⟩, fun packet hpacket => ?_⟩
    cases hpacket
    exact ⟨(counter_lt_succ hlt).1, ⟨ciphertext, hcall, rfl⟩⟩

variable {counter : Counter} {packet : Bytes}

theorem Carries.payload_le {sessionId : SessionId} {keyId : KeyId} {keys : SessionKeys}
    (h : Carries A sessionId keyId keys msgType counter payload packet) :
    payload.length + tagSize ≤ packet.length := by
  obtain ⟨ciphertext, hcall, rfl⟩ := h.packet_eq
  have hlen := A.encrypt_length hcall
  rw [List.length_append]
  omega

variable {r : Session}

theorem Carries.decryptPacket {keys : SessionKeys}
    (h : Carries A r.sessionId r.keyId keys msgType counter payload packet)
    (hkeys : r.keys = keys.swap) (hcheck : r.recvWindow.check counter = true) (now : Nat)
    (hroom : payload.length + tagSize ≤ outputLen) :
    r.decryptPacket A now packet outputLen =
      (r.acceptPacket now counter packet.length,
        .ok (PacketHeader.new msgType r.sessionId r.keyId counter, payload)) := by
  obtain ⟨ciphertext, hcall, rfl⟩ := h.packet_eq
  have hlen := A.encrypt_length hcall
  refine decryptPacket_eq_ok.mpr ⟨?_, hcheck, rfl⟩
  refine openPacket_eq_ok.mpr ⟨PacketHeader.new_wellFormed _ _ _ _, rfl, rfl, ciphertext, rfl, ?_, ?_⟩
  · exact hlen.trans_le hroom
  · rw [hkeys]
    exact A.decrypt_encrypt hcall

/-- Both ends hold the same generation of keys, and neither window is ahead of the other's counter. -/
structure Linked (s r : Session) : Prop where
  sessionId_eq : r.sessionId = s.sessionId
  keyId_eq : r.keyId = s.keyId
  keys_eq : r.keys = s.keys.swap
  forth : r.recvWindow.Behind s.sendCounter
  back : s.recvWindow.Behind r.sendCounter

theorem Linked.symm (h : Linked s r) : Linked r s where
  sessionId_eq := h.sessionId_eq.symm
  keyId_eq := h.keyId_eq.symm
  keys_eq := by rw [h.keys_eq, SessionKeys.swap_swap]
  forth := h.back
  back := h.forth

theorem Linked.sent (h : Linked s r) (hs : SentFrom s s') : Linked s' r where
  sessionId_eq := h.sessionId_eq.trans hs.sessionId_eq.symm
  keyId_eq := h.keyId_eq.trans hs.keyId_eq.symm
  keys_eq := by rw [hs.keys_eq, h.keys_eq]
  forth := h.forth.mono hs.counter_le
  back := by rw [hs.recvWindow_eq]; exact h.back

theorem Linked.acceptPacket (h : Linked s r)
    (hc : counter < s.sendCounter) (now size : Nat) : Linked s (r.acceptPacket now counter size) where
  sessionId_eq := h.sessionId_eq
  keyId_eq := h.keyId_eq
  keys_eq := h.keys_eq
  forth := h.forth.accept hc
  back := h.back

theorem linked_updateKeys (hid : r.sessionId = s.sessionId) (hkey : r.keyId = s.keyId)
    (newKeys : SessionKeys) : Linked (s.updateKeys newKeys) (r.updateKeys newKeys.swap) where
  sessionId_eq := hid
  keyId_eq := congrArg KeyId.next hkey
  keys_eq := rfl
  forth := AntiReplayWindow.behind_reset r.recvWindow _
  back := AntiReplayWindow.behind_reset s.recvWindow _

theorem Linked.accepts (h : Linked s r)
     {calls : List SealCall}
    (hsend : s.encryptPacket A msgType payload outputLen = (s', calls, .ok packet)) (now : Nat)
    {bufferLen : Nat} (hroom : payload.length + tagSize ≤ bufferLen) :
    ∃ r' header, r.decryptPacket A now packet bufferLen = (r', .ok (header, payload)) := by
  have hcarries := ((encryptPacket_sent hsend).2 packet rfl).2
  rw [← h.sessionId_eq, ← h.keyId_eq] at hcarries
  exact ⟨_, _, hcarries.decryptPacket h.keys_eq (h.forth.check (UInt64.le_refl _)) now hroom⟩

end Session

end HpnVpn
