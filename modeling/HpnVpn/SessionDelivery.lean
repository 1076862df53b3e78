import HpnVpn.SessionNonce
import Mathlib.Data.List.Nodup

/-! Delivery over a hostile network, which hands arbitrary datagrams to the receiving end, as long as none opens that
was not sealed. -/
namespace HpnVpn.Session
open Wire AuthEnc

/-- A packet that was sent and what it carries. -/
structure Carried where
  header : PacketHeader
  payload : Bytes
  packet : Bytes
deriving DecidableEq

structure Sender where
  session : Session
  calls : List SealCall
  sent : List Carried

structure Send where
  msgType : MessageType
  payload : Bytes
  outputLen : Nat

def send (A : Aes256Gcm) (r : Sender) (m : Send) : Sender :=
  match r.session.encryptPacket A m.msgType m.payload m.outputLen with
  | (s, calls, .ok packet) =>
    ⟨s, calls ++ r.calls, ⟨r.session.nextHeader m.msgType, m.payload, packet⟩ :: r.sent⟩
  | (s, calls, .error _) => ⟨s, calls ++ r.calls, r.sent⟩

structure Delivery where
  packet : Bytes
  outputLen : Nat
  now : Nat

structure Receiver where
  session : Session
  accepted : List Carried

def receive (A : Aes256Gcm) (r : Receiver) (d : Delivery) : Receiver :=
  match r.session.decryptPacket A d.now d.packet d.outputLen with
  | (s, .ok (header, payload)) => ⟨s, ⟨header, payload, d.packet⟩ :: r.accepted⟩
  | (s, .error _) => ⟨s, r.accepted⟩

/-! ### The sending end -/

variable {A : Aes256Gcm} {s₀ : Session}

structure Sealed (A : Aes256Gcm) (s₀ : Session) (x : Carried) : Prop where
  wellFormed : x.header.WellFormed
  sessionId_eq : x.header.sessionId = s₀.sessionId
  keyId_eq : x.header.keyId = s₀.keyId
  packet_eq : ∃ ciphertext, x.packet = x.header.toBytes ++ ciphertext ∧
    A.encrypt s₀.keys.sendKey (buildNonce s₀.keys.sendNoncePrefix x.header.counter) x.header.toBytes
      x.payload = some ciphertext

structure SenderInv (A : Aes256Gcm) (s₀ : Session) (r : Sender) : Prop where
  keys_eq : r.session.keys = s₀.keys
  sessionId_eq : r.session.sessionId = s₀.sessionId
  keyId_eq : r.session.keyId = s₀.keyId
  sealed : ∀ x ∈ r.sent, Sealed A s₀ x
  below : ∀ x ∈ r.sent, x.header.counter < r.session.sendCounter
  counters : (r.sent.map (·.header.counter)).Nodup
  calls : ∀ call ∈ r.calls, ∀ ciphertext, call.output A = some ciphertext →
    ∃ x ∈ r.sent, call.aad = x.header.toBytes ∧ call.plaintext = x.payload ∧ x.packet = call.aad ++ ciphertext

theorem senderInv_start : SenderInv A s₀ ⟨s₀, [], []⟩ where
  keys_eq := rfl
  sessionId_eq := rfl
  keyId_eq := rfl
  sealed := nofun
  below := nofun
  counters := List.nodup_nil
  calls := nofun

theorem senderInv_send (r : Sender) (m : Send) (h : SenderInv A s₀ r) : SenderInv A s₀ (send A r m) := by
  have hstep : r.session.sendCounter < Counter.maxSafe →
      r.session.sendCounter < r.session.sendCounter + 1 := fun hlt => (counter_lt_succ hlt).1
  rw [send]
  rcases encryptPacket_cases A r.session m.msgType m.payload m.outputLen with
    ⟨-, heq⟩ | ⟨hlt, -, heq⟩ | ⟨hlt, -, hnone, heq⟩ | ⟨hlt, -, ciphertext, hsome, heq⟩
  · rw [heq]
    exact h
  · rw [heq]
    exact { h with below := fun x hx => UInt64.lt_trans (h.below x hx) (hstep hlt) }
  · rw [heq]
    refine { h with below := fun x hx => UInt64.lt_trans (h.below x hx) (hstep hlt), calls := ?_ }
    intro call hcall ciphertext hout
    rcases List.mem_cons.mp hcall with rfl | hcall
    · rw [hnone] at hout
      cases hout
    · exact h.calls call hcall ciphertext hout
  · rw [heq]
    let x : Carried := ⟨r.session.nextHeader m.msgType, m.payload,
      (r.session.nextHeader m.msgType).toBytes ++ ciphertext⟩
    have hx : Sealed A s₀ x :=
      { wellFormed := PacketHeader.new_wellFormed ..
        sessionId_eq := h.sessionId_eq
        keyId_eq := h.keyId_eq
        packet_eq := ⟨ciphertext, rfl, by
          rw [← h.keys_eq]
          exact hsome⟩ }
    refine
      { keys_eq := h.keys_eq
        sessionId_eq := h.sessionId_eq
        keyId_eq := h.keyId_eq
        sealed := List.forall_mem_cons.mpr ⟨hx, h.sealed⟩
        below := List.forall_mem_cons.mpr ⟨hstep hlt, fun y hy => UInt64.lt_trans (h.below y hy) (hstep hlt)⟩
        counters := List.nodup_cons.mpr ⟨fun hmem => ?_, h.counters⟩
        calls := ?_ }
    · obtain ⟨y, hy, hcounter⟩ := List.mem_map.mp hmem
      have hbelow := h.below y hy
      rw [hcounter] at hbelow
      exact UInt64.lt_irrefl _ hbelow
    · intro call hcall ciphertext' hout
      rcases List.mem_cons.mp hcall with rfl | hcall
      · cases hsome.symm.trans hout
        exact ⟨x, List.mem_cons_self, rfl, rfl, rfl⟩
      · obtain ⟨y, hy, hcarried⟩ := h.calls call hcall ciphertext' hout
        exact ⟨y, List.mem_cons_of_mem _ hy, hcarried⟩

theorem SenderInv.eq_of_counter {r : Sender} (h : SenderInv A s₀ r) {x y : Carried}
    (hx : x ∈ r.sent) (hy : y ∈ r.sent) (hcounter : x.header.counter = y.header.counter) : x = y :=
  List.inj_on_of_nodup_map h.counters hx hy hcounter

/-! ### The receiving end -/

structure ReceiverInv (s₀ : Session) (sent : List Carried) (r : Receiver) : Prop where
  keys_eq : r.session.keys = s₀.keys.swap
  sessionId_eq : r.session.sessionId = s₀.sessionId
  keyId_eq : r.session.keyId = s₀.keyId
  tracks : r.session.recvWindow.Tracks (r.accepted.map (·.header.counter))
  counters : (r.accepted.map (·.header.counter)).Nodup
  sent : ∀ x ∈ r.accepted, x ∈ sent

/-- `r` is the other end of `s`: the same session and key, swapped keys, nothing received yet. -/
structure Peer (s r : Session) : Prop where
  keys_eq : r.keys = s.keys.swap
  sessionId_eq : r.sessionId = s.sessionId
  keyId_eq : r.keyId = s.keyId
  recvWindow_eq : r.recvWindow = AntiReplayWindow.new

theorem peer_new (sessionId : SessionId) (keys : SessionKeys) (t t' : Nat) :
    Peer (new sessionId keys t) (new sessionId keys.swap t') :=
  ⟨rfl, rfl, rfl, rfl⟩

theorem receiverInv_start {r : Session} (hpeer : Peer s₀ r) (sent : List Carried) : ReceiverInv s₀ sent ⟨r, []⟩ where
  keys_eq := hpeer.keys_eq
  sessionId_eq := hpeer.sessionId_eq
  keyId_eq := hpeer.keyId_eq
  tracks := by
    rw [hpeer.recvWindow_eq]
    exact AntiReplayWindow.tracks_new
  counters := List.nodup_nil
  sent := nofun

variable {tx : Sender} {r : Receiver}

theorem ReceiverInv.sent_of_open (htx : SenderInv A s₀ tx)
    (h : ReceiverInv s₀ tx.sent r) {packet : Bytes} {outputLen : Nat}
    (hideal : Unforged A s₀.keys.sendKey tx.calls {packet}) {header : PacketHeader} {payload : Bytes}
    (hopen : r.session.openPacket A packet outputLen = .ok (header, payload)) :
    ⟨header, payload, packet⟩ ∈ tx.sent := by
  obtain ⟨hwf, -, -, ciphertext, rfl, -, hdecrypt⟩ := openPacket_eq_ok.mp hopen
  rw [h.keys_eq] at hdecrypt
  obtain ⟨call, hcall, hkey, hnonce, haad, hout⟩ := hideal _ _ _ _ rfl hdecrypt
  obtain ⟨x, hx, hxaad, hxpayload, hxpacket⟩ := htx.calls call hcall ciphertext hout
  have hheader : x.header = header :=
    (htx.sealed x hx).wellFormed.toBytes_inj hwf (hxaad.symm.trans haad)
  have hplain : A.decrypt s₀.keys.sendKey call.nonce call.aad ciphertext = some call.plaintext := by
    rw [← hkey]
    exact A.decrypt_encrypt hout
  have hpayload : x.payload = payload := by
    rw [← hxpayload]
    rw [hnonce, haad] at hplain
    exact Option.some.inj (hplain.symm.trans hdecrypt)
  have heq : x = ⟨header, payload, header.toBytes ++ ciphertext⟩ := by
    rw [← haad, ← hxpacket, ← hheader, ← hpayload]
  exact heq ▸ hx

theorem receiverInv_receive (htx : SenderInv A s₀ tx) (r : Receiver) (d : Delivery)
    (h : ReceiverInv s₀ tx.sent r)
    (hideal : Unforged A s₀.keys.sendKey tx.calls {d.packet}) :
    ReceiverInv s₀ tx.sent (receive A r d) := by
  rw [receive]
  rcases decryptPacket_cases A r.session d.now d.packet d.outputLen with
    ⟨e, -, heq⟩ | ⟨header, payload, -, -, heq⟩ | ⟨header, payload, hopen, hcheck, heq⟩
  · rw [heq]
    exact h
  · rw [heq]
    exact h
  · rw [heq]
    have hsent := h.sent_of_open htx hideal hopen
    rw [AntiReplayWindow.check_eq] at hcheck
    rcases AntiReplayWindow.checkAndUpdate_spec h.tracks header.counter with
      ⟨hfresh, -, htracks⟩ | ⟨-, hno⟩
    · exact
        { keys_eq := h.keys_eq
          sessionId_eq := h.sessionId_eq
          keyId_eq := h.keyId_eq
          tracks := htracks
          counters := List.nodup_cons.mpr ⟨hfresh.notMem, h.counters⟩
          sent := List.forall_mem_cons.mpr ⟨hsent, h.sent⟩ }
    · rw [hno] at hcheck
      cases hcheck

theorem ReceiverInv.accepts (htx : SenderInv A s₀ tx)
    (h : ReceiverInv s₀ tx.sent r) {x : Carried} (hx : x ∈ tx.sent) (hnew : x ∉ r.accepted)
    (hwithin : ∀ a ∈ r.accepted, a.header.counter.toNat ≤ x.header.counter.toNat + 8191)
    {outputLen : Nat} (hroom : x.packet.length ≤ outputLen + headerSize) (now : Nat) :
    (r.session.decryptPacket A now x.packet outputLen).2 = .ok (x.header, x.payload) := by
  obtain ⟨hwf, hsid, hkid, ciphertext, hpacket, hseal⟩ := htx.sealed x hx
  have hopen : r.session.openPacket A x.packet outputLen = .ok (x.header, x.payload) := by
    refine openPacket_eq_ok.mpr ⟨hwf, hsid.trans h.sessionId_eq.symm, hkid.trans h.keyId_eq.symm,
      ciphertext, hpacket, ?_, ?_⟩
    · have hsize := x.header.headerSize_le_encodedSize
      rw [hpacket, List.length_append, PacketHeader.toBytes_length] at hroom
      omega
    · rw [h.keys_eq]
      exact A.decrypt_encrypt hseal
  have hfresh : AntiReplayWindow.Fresh (r.accepted.map (·.header.counter)) x.header.counter := by
    refine h.tracks.fresh_of_within (fun hmem => ?_) (fun a ha => ?_)
    · obtain ⟨y, hy, hcounter⟩ := List.mem_map.mp hmem
      exact hnew (htx.eq_of_counter (h.sent y hy) hx hcounter ▸ hy)
    · obtain ⟨y, hy, rfl⟩ := List.mem_map.mp ha
      exact hwithin y hy
  have hcheck : r.session.recvWindow.check x.header.counter = true := by
    rw [AntiReplayWindow.check_eq, AntiReplayWindow.checkAndUpdate_accepts_iff h.tracks]
    exact hfresh
  exact congrArg Prod.snd (decryptPacket_eq_ok.mpr ⟨hopen, hcheck, rfl⟩)

/-! ### Both ends -/

theorem accepted_delivered (ds : List Delivery) (r : Receiver) :
    ∀ a ∈ (Runs.exec (receive A) r ds).accepted, a ∈ r.accepted ∨ ∃ d ∈ ds, d.packet = a.packet := by
  induction ds generalizing r with
  | nil => exact fun a ha => .inl ha
  | cons d ds ih =>
    intro a ha
    rcases ih _ a ha with hold | ⟨e, he, heq⟩
    · rw [receive] at hold
      split at hold
      · rcases List.mem_cons.mp hold with rfl | hold
        · exact .inr ⟨d, List.mem_cons_self, rfl⟩
        · exact .inl hold
      · exact .inl hold
    · exact .inr ⟨e, List.mem_cons_of_mem _ he, heq⟩

theorem ReceiverInv.packets_nodup (htx : SenderInv A s₀ tx)
    (h : ReceiverInv s₀ tx.sent r) : (r.accepted.map (·.packet)).Nodup := by
  refine List.Nodup.map_on (fun x hx y hy heq => ?_) (List.Nodup.of_map _ h.counters)
  obtain ⟨hwf, -, -, c, hpacket, -⟩ := htx.sealed x (h.sent x hx)
  obtain ⟨hwf', -, -, c', hpacket', -⟩ := htx.sealed y (h.sent y hy)
  have hheader : x.header = y.header := by
    have hdecode := PacketHeader.decode_toBytes hwf c
    rw [← hpacket, heq, hpacket', PacketHeader.decode_toBytes hwf' c'] at hdecode
    exact (Except.ok.inj hdecode).symm
  exact htx.eq_of_counter (h.sent x hx) (h.sent y hy) (congrArg PacketHeader.counter hheader)

/-- Only packets that were sent are accepted, unaltered and none twice; one that arrives inside the window is
accepted; a rejected datagram changes nothing. -/
theorem decryptPacket_exactly_once (A : Aes256Gcm) (s r : Session) (hpeer : Peer s r) (sends : List Send)
    (delivered : List Delivery)
    (hideal : Unforged A s.keys.sendKey (Runs.exec (send A) ⟨s, [], []⟩ sends).calls
      {p | ∃ d ∈ delivered, d.packet = p}) :
    let sent := (Runs.exec (send A) ⟨s, [], []⟩ sends).sent
    let rx (ds : List Delivery) := Runs.exec (receive A) ⟨r, []⟩ ds
    (∀ a ∈ (rx delivered).accepted, a ∈ sent) ∧
      ((rx delivered).accepted.map (·.packet)).Nodup ∧
      ∀ before d after, delivered = before ++ d :: after →
        (∀ a ∈ (rx before).accepted, ∃ e ∈ before, e.packet = a.packet) ∧
        (∀ x ∈ sent, d.packet = x.packet → x ∉ (rx before).accepted →
          (∀ a ∈ (rx before).accepted, a.header.counter.toNat ≤ x.header.counter.toNat + 8191) →
          x.packet.length ≤ d.outputLen + headerSize →
          ((rx before).session.decryptPacket A d.now d.packet d.outputLen).2 = .ok (x.header, x.payload)) ∧
        (∀ s' e, (rx before).session.decryptPacket A d.now d.packet d.outputLen = (s', .error e) →
          s' = (rx before).session) := by
  intro sent rx
  have htx : SenderInv A s (Runs.exec (send A) ⟨s, [], []⟩ sends) :=
    Runs.exec_invariant senderInv_send sends _ senderInv_start
  have hrx : ∀ ds, (∀ d ∈ ds, d ∈ delivered) → ReceiverInv s sent (rx ds) := by
    intro ds hsub
    refine Runs.exec_invariant_of (fun r d => receiverInv_receive htx r d) ds _ (receiverInv_start hpeer _) ?_
    refine Runs.meets_of_forall (fun d hd _ => hideal.mono ?_) _
    exact Set.singleton_subset_iff.mpr ⟨d, hsub d hd, rfl⟩
  have hall := hrx delivered fun _ hd => hd
  refine ⟨hall.sent, hall.packets_nodup htx, fun before d after hsplit => ⟨fun a ha => ?_, ?_, ?_⟩⟩
  · rcases accepted_delivered before _ a ha with hnil | hmem
    · cases hnil
    · exact hmem
  · intro x hx hpacket hnew hwithin hroom
    have hbefore := hrx before fun e he => by
      rw [hsplit]
      exact List.mem_append_left _ he
    rw [hpacket]
    exact hbefore.accepts htx hx hnew hwithin hroom d.now
  · intro s' e hreject
    exact decryptPacket_rejected hreject

theorem decryptPacket_exactly_once_reordered :
    let A : Aes256Gcm := Cipher.labelled (Block 32) 12
    let keys : SessionKeys :=
      ⟨Block.replicate 32 1, Block.replicate 32 2, Block.replicate 4 3, Block.replicate 4 4⟩
    let tx := Runs.exec (send A) ⟨new 9 keys 0, [], []⟩ [⟨.data, [7], 64⟩, ⟨.data, [8], 64⟩]
    let delivered := (tx.sent.take 1 ++ tx.sent.take 1).map (fun x => ⟨x.packet, 64, 5⟩) ++
      [⟨[1, 2, 3], 64, 6⟩] ++ (tx.sent.drop 1).map (fun x => ⟨x.packet, 64, 7⟩)
    let rx := Runs.exec (receive A) ⟨new 9 keys.swap 0, []⟩ delivered
    rx.accepted.map (·.payload) = [[7], [8]] ∧ (∀ a ∈ rx.accepted, a ∈ tx.sent) ∧
      (rx.accepted.map (·.packet)).Nodup := by
  intro A keys tx delivered rx
  have hideal : Unforged A keys.sendKey tx.calls {p | ∃ d ∈ delivered, d.packet = p} := by
    have hwire : ∀ d ∈ delivered, d.packet.length < 2 ^ 32 ∧ (d.packet.length < 12 + 4 ∨
        ∃ call ∈ tx.calls, call.output A = some (d.packet.drop 24) ∧
          d.packet = call.aad ++ d.packet.drop 24) := by decide +kernel
    have hkey : ∀ call ∈ tx.calls, call.key = keys.sendKey := by decide +kernel
    refine Cipher.labelled_unforged hkey ?_
    rintro w ⟨d, hd, rfl⟩
    obtain ⟨hlong, hshort | ⟨call, hcall, hout⟩⟩ := hwire d hd
    · exact ⟨hlong, .inl hshort⟩
    · exact ⟨hlong, .inr ⟨call, hcall, _, hout⟩⟩
  obtain ⟨hsent, hnodup, -⟩ := decryptPacket_exactly_once A (new 9 keys 0) (new 9 keys.swap 0)
    (peer_new 9 keys 0 0) _ delivered hideal
  exact ⟨by decide +kernel, hsent, hnodup⟩

end HpnVpn.Session
