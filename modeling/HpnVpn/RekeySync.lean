import HpnVpn.Rekey
import HpnVpn.SessionPair

/-! Rekeying over a network that delivers, delays and drops.  The server switches keys when it seals its response, the
client when it arrives. -/
namespace HpnVpn
open Wire

/-! ### One exchange -/

section exchange
variable {P : Primitives}

/-- The server's answer to a client's request is accepted, and gives the client the other view of the new keys. -/
theorem ClientRekey.processResponse_processRekey (level : SecurityLevel) (seed : Block 32)
    (sessionId : SessionId) (coins : HybridKem.KeypairCoins) (clientRandom : Block 32) (keyId : KeyId)
    (draws : ServerHandshake.Draws) :
    let kp := MlDsaKeypair.generateWithLevel P level seed
    let started := (withSecurityLevel kp.publicKey sessionId level).createRequest P coins clientRandom
    ∃ response newKeys,
      (ServerHandshake.mk kp none).processRekey P started.2 keyId sessionId draws = .ok (response, newKeys) ∧
      response.serverCiphertext.securityLevel = level ∧ response.signature.securityLevel = level ∧
      (started.1.processResponse P response).2 = .ok newKeys.swap := by
  intro kp started
  obtain ⟨secret, ct, henc, hlevel, hdec⟩ :=
    HybridKem.decapsulate_encapsulate (P := P) level coins draws.encapsulate
  obtain ⟨sig, hsign, hsigLevel, hverify⟩ := MlDsa.verify_sign (P := P) level seed
    (buildRekeyTranscript sessionId clientRandom draws.serverRandom ct) draws.sign
  refine ⟨_, _, ServerHandshake.processRekey_eq_ok.mpr ⟨secret, ct, sig, henc, hsign, rfl, rfl⟩, hlevel, hsigLevel, ?_⟩
  refine bind_ok_iff.mpr ⟨(), mapError_ok_iff.mpr hverify, ?_⟩
  refine bind_ok_iff.mpr ⟨secret, mapError_ok_iff.mpr hdec, ?_⟩
  exact bind_ok_iff.mpr ⟨(), mapError_ok_iff.mpr (ensure_of rfl), rfl⟩

end exchange

theorem RekeyResponse.toBytes_length_le (r : RekeyResponse) : r.toBytes.length ≤ 6311 := by
  obtain ⟨⟨ctLevel, x, m⟩, ⟨sigLevel, s⟩, -, -, -, -, -⟩ := r
  cases ctLevel <;> cases sigLevel <;>
    simp [toBytes, HybridPair.toBytesRaw, SecurityLevel.mlkemCiphertextSize, SecurityLevel.mldsaSignatureSize]

/-! ### Runs -/

/-- Both ends and the messages under way between them. -/
structure RekeyRun where
  client : VpnClient
  server : ClientSession
  requests : List Bytes
  responses : List Bytes

/-- Nothing is under way. -/
def RekeyRun.Quiet (r : RekeyRun) : Prop := r.requests = [] ∧ r.responses = []

inductive RekeyOp
  | start (coins : HybridKem.KeypairCoins) (clientRandom : Block 32) (now : Nat) (sendOk : Bool)
  | deliverRequest (i : Nat) (addr : SocketAddr) (draws : ServerHandshake.Draws) (now : UInt64) (queueHasRoom : Bool)
  | dropRequest (i : Nat)
  | deliverResponse (i : Nat) (now : Nat)
  | dropResponse (i : Nat)
  | tick (now : Nat)

structure RekeySetup where
  P : Primitives
  settings : RekeySettings
  keypairFor : ServerKeypairs

namespace RekeySetup

variable (w : RekeySetup)

/-- One event of a run.  Any message in flight may be the next to arrive or to be lost. -/
def step (r : RekeyRun) : RekeyOp → RekeyRun
  | .start coins clientRandom now sendOk =>
    match r.client.initiateRekey w.P w.settings coins clientRandom now sendOk with
    | (client, .ok packet) => { r with client, requests := r.requests ++ [packet] }
    | (client, .error _) => { r with client }
  | .deliverRequest i addr draws now queueHasRoom =>
    match r.requests[i]? with
    | none => r
    | some packet =>
      let (server, response) := r.server.handleRekey w.P w.keypairFor packet addr draws now queueHasRoom
      { r with server, requests := r.requests.eraseIdx i, responses := r.responses ++ response.toList }
  | .dropRequest i => { r with requests := r.requests.eraseIdx i }
  | .deliverResponse i now =>
    match r.responses[i]? with
    | none => r
    | some packet =>
      { r with client := r.client.receiveRekeyResponse w.P w.settings now packet
               responses := r.responses.eraseIdx i }
  | .dropResponse i => { r with responses := r.responses.eraseIdx i }
  | .tick now => { r with client := r.client.rekeyTimeoutTick w.settings now }

/-- No response is lost, and the client's timer does not run out while a rekey message is in flight. -/
def NothingLost (r : RekeyRun) : RekeyOp → Prop
  | .deliverRequest _ _ _ _ queueHasRoom => queueHasRoom = true
  | .dropResponse i => r.responses[i]? = none
  | .tick now => r.Quiet ∨ ¬r.client.RekeyTimedOut w.settings now
  | _ => True

/-- The client knows the public key of a keypair that the server generated. -/
structure Configured (w : RekeySetup) : Prop where
  generated : ∃ seed, w.keypairFor w.settings.securityLevel =
    MlDsaKeypair.generateWithLevel w.P w.settings.securityLevel seed
  known : w.settings.serverPublicKey = (w.keypairFor w.settings.securityLevel).publicKey

/-! ### The phases of a run in which nothing is lost -/

def started (sessionId : SessionId) (coins : HybridKem.KeypairCoins)
    (clientRandom : Block 32) : ClientRekey × RekeyMessage :=
  (ClientRekey.withSecurityLevel w.settings.serverPublicKey sessionId w.settings.securityLevel).createRequest
    w.P coins clientRandom

structure Idle (r : RekeyRun) : Prop where
  quiet : r.Quiet
  linked : Session.Linked r.client.session r.server.session

structure RequestOut (w : RekeySetup) (r : RekeyRun) : Prop where
  responses_eq : r.responses = []
  pending : r.client.rekeyInProgress = true
  linked : Session.Linked r.client.session r.server.session
  request : ∃ coins clientRandom counter packet,
    r.requests = [packet] ∧
    r.client.rekeyHandler = some (w.started r.client.session.sessionId coins clientRandom).1 ∧
    Session.Carries w.P.aes256Gcm r.client.session.sessionId r.client.session.keyId r.client.session.keys
      .rekey counter (w.started r.client.session.sessionId coins clientRandom).2.toBytes packet ∧
    r.server.session.recvWindow.Behind counter ∧ counter < r.client.session.sendCounter

/-- A packet with an answer that the client takes, and the keys it leads to. -/
structure Completes (w : RekeySetup) (c : VpnClient) (packet : Bytes) (counter : Counter) (response : RekeyResponse)
    (newKeys : SessionKeys) : Prop where
  accepted : ∃ handler, c.rekeyHandler = some handler ∧ (handler.processResponse w.P response).2 = .ok newKeys
  parsed : RekeyResponse.fromBytesWithLevel response.toBytes w.settings.securityLevel = .ok response
  carries : Session.Carries w.P.aes256Gcm c.session.sessionId c.session.keyId c.session.keys.swap .rekeyResponse
    counter response.toBytes packet
  behind : c.session.recvWindow.Behind counter

structure ResponseOut (w : RekeySetup) (r : RekeyRun) : Prop where
  requests_eq : r.requests = []
  pending : r.client.rekeyInProgress = true
  response : ∃ packet counter response newKeys, r.responses = [packet] ∧
    w.Completes r.client packet counter response newKeys ∧
    Session.Linked (r.client.session.updateKeys newKeys) r.server.session

def Phase (r : RekeyRun) : Prop := Idle r ∨ w.RequestOut r ∨ w.ResponseOut r

section steps
variable {w : RekeySetup} {r : RekeyRun}

theorem initiateRekey_cases {c : VpnClient} (hidle : c.rekeyInProgress = false)
    (coins : HybridKem.KeypairCoins) (clientRandom : Block 32) (now : Nat) (sendOk : Bool) :
    ∃ c' result, c.initiateRekey w.P w.settings coins clientRandom now sendOk = (c', result) ∧
      Session.SentFrom c.session c'.session ∧
      ∀ packet, result = .ok packet →
        c'.rekeyInProgress = true ∧
        c'.rekeyHandler = some (w.started c.session.sessionId coins clientRandom).1 ∧
        c.session.sendCounter < c'.session.sendCounter ∧
        Session.Carries w.P.aes256Gcm c.session.sessionId c.session.keyId c.session.keys .rekey
          c.session.sendCounter (w.started c.session.sessionId coins clientRandom).2.toBytes packet := by
  unfold VpnClient.initiateRekey
  rw [if_neg (by rw [hidle]; exact Bool.false_ne_true)]
  dsimp only
  rw [← started]
  split
  case h_1 session calls e heq =>
      exact ⟨_, _, rfl, (Session.encryptPacket_sent heq).1, nofun⟩
  case h_2 session calls packet heq =>
      obtain ⟨hsent, hok⟩ := Session.encryptPacket_sent heq
      obtain ⟨hlt, hcarries⟩ := hok packet rfl
      cases sendOk with
      | false => exact ⟨_, _, rfl, hsent, nofun⟩
      | true =>
        refine ⟨_, _, rfl, hsent, fun packet' hpacket => ?_⟩
        cases hpacket
        exact ⟨rfl, rfl, hlt, hcarries⟩

theorem phase_start (h : w.Phase r) (coins : HybridKem.KeypairCoins) (clientRandom : Block 32) (now : Nat)
    (sendOk : Bool) : w.Phase (w.step r (.start coins clientRandom now sendOk)) := by
  cases hpending : r.client.rekeyInProgress with
  | true =>
    -- a second start is refused and changes nothing
    have hsame : w.step r (.start coins clientRandom now sendOk) = r := by
      rw [step, VpnClient.initiateRekey, if_pos hpending]
    rw [hsame]
    exact h
  | false =>
    have hidle : Idle r := by
      rcases h with h | h | h
      · exact h
      all_goals nomatch h.pending.symm.trans hpending
    obtain ⟨c', result, heq, hsent, hok⟩ :=
      initiateRekey_cases (w := w) hpending coins clientRandom now sendOk
    rw [step, heq]
    cases result with
    | error e => exact .inl ⟨hidle.quiet, hidle.linked.sent hsent⟩
    | ok packet =>
      obtain ⟨hprogress, hhandler, hlt, hcarries⟩ := hok packet rfl
      refine .inr (.inl
        { responses_eq := hidle.quiet.2
          pending := hprogress
          linked := hidle.linked.sent hsent
          request := ⟨coins, clientRandom, r.client.session.sendCounter, packet, ?_, ?_, ?_, ?_, hlt⟩ })
      · rw [hidle.quiet.1]
        rfl
      · rw [hsent.sessionId_eq]
        exact hhandler
      · rw [hsent.sessionId_eq, hsent.keyId_eq, hsent.keys_eq]
        exact hcarries
      · exact hidle.linked.forth

theorem answerRekey_cases (hw : w.Configured) {c : ClientSession} (coins : HybridKem.KeypairCoins)
    (clientRandom : Block 32) (addr : SocketAddr) (draws : ServerHandshake.Draws) (now : UInt64) :
    ∃ c' response, c.answerRekey w.P w.keypairFor
        (w.started c.session.sessionId coins clientRandom).2.toBytes addr draws now true = (c', response) ∧
      ((response = none ∧ Session.SentFrom c.session c'.session) ∨
        ∃ packet answer newKeys session',
          response = some packet ∧ Session.SentFrom c.session session' ∧
          c'.session = session'.updateKeys newKeys ∧
          answer.serverCiphertext.securityLevel = w.settings.securityLevel ∧
          answer.signature.securityLevel = w.settings.securityLevel ∧
          ((w.started c.session.sessionId coins clientRandom).1.processResponse w.P answer).2 = .ok newKeys.swap ∧
          Session.Carries w.P.aes256Gcm c.session.sessionId c.session.keyId c.session.keys .rekeyResponse
            c.session.sendCounter answer.toBytes packet) := by
  obtain ⟨seed, hseed⟩ := hw.generated
  have hknown := hw.known
  rw [hseed] at hknown
  obtain ⟨answer, newKeys, hprocess, hct, hsig, haccept⟩ :=
    ClientRekey.processResponse_processRekey (P := w.P) w.settings.securityLevel seed c.session.sessionId
      coins clientRandom c.session.keyId draws
  rw [← hknown, ← started] at hprocess haccept
  have hlevel : (w.started c.session.sessionId coins clientRandom).2.clientEphemeralPk.securityLevel =
      w.settings.securityLevel := rfl
  unfold ClientSession.answerRekey
  simp only [RekeyMessage.fromBytes_toBytes, hlevel, hseed, hprocess]
  split
  · exact ⟨_, _, rfl, .inl ⟨rfl, .refl _⟩⟩
  split
  · exact ⟨_, _, rfl, .inl ⟨rfl, .refl _⟩⟩
  split
  case h_1 session calls e heq =>
      exact ⟨_, _, rfl, .inl ⟨rfl, (Session.encryptPacket_sent heq).1⟩⟩
  case h_2 session calls packet heq =>
      obtain ⟨hsent, hok⟩ := Session.encryptPacket_sent heq
      exact ⟨_, _, rfl, .inr ⟨packet, answer, newKeys, session, rfl, hsent, rfl, hct, hsig, haccept,
        (hok packet rfl).2⟩⟩

theorem phase_deliverRequest (hw : w.Configured) (h : w.Phase r) (i : Nat) (addr : SocketAddr)
    (draws : ServerHandshake.Draws) (now : UInt64) :
    w.Phase (w.step r (.deliverRequest i addr draws now true)) := by
  rw [step]
  cases hget : r.requests[i]? with
  | none => exact h
  | some packet =>
    have hout : w.RequestOut r := by
      rcases h with h | h | h
      · rw [h.quiet.1] at hget
        cases hget
      · exact h
      · rw [h.requests_eq] at hget
        cases hget
    obtain ⟨coins, clientRandom, counter, sent, hreq, hhandler, hcarries, hbehind, hlt⟩ := hout.request
    have hi : i = 0 ∧ packet = sent := by
      rw [hreq] at hget
      cases i with
      | zero => exact ⟨rfl, (Option.some.inj hget).symm⟩
      | succ i => cases hget
    obtain ⟨rfl, rfl⟩ := hi
    -- the request opens on the server, which then stands one counter further
    rw [← hout.linked.sessionId_eq, ← hout.linked.keyId_eq] at hcarries
    have hroom := hcarries.payload_le
    have hopen := hcarries.decryptPacket hout.linked.keys_eq (hbehind.check (UInt64.le_refl _)) (millis now) hroom
    have hlinked := hout.linked.acceptPacket hlt (millis now) packet.length
    let server : ClientSession :=
      { r.server with session := r.server.session.acceptPacket (millis now) counter packet.length }
    obtain ⟨c', response, heq, hcases⟩ := answerRekey_cases hw (c := server) coins clientRandom addr draws now
    have hsid : server.session.sessionId = r.client.session.sessionId := hout.linked.sessionId_eq
    have hhandle : r.server.handleRekey w.P w.keypairFor packet addr draws now true = (c', response) := by
      rw [ClientSession.handleRekey, hopen, hout.linked.sessionId_eq]
      exact heq
    dsimp only
    rw [hhandle, hreq, hout.responses_eq]
    rcases hcases with ⟨rfl, hsent⟩ | ⟨reply, answer, newKeys, session', rfl, hsent, hsession, hct, hsig,
      haccept, hreply⟩
    · exact .inl ⟨⟨rfl, rfl⟩, (hlinked.symm.sent hsent).symm⟩
    · refine .inr (.inr
        { requests_eq := rfl
          pending := hout.pending
          response := ⟨reply, server.session.sendCounter, answer, newKeys.swap, rfl, ⟨⟨_, hhandler, ?_⟩,
            RekeyResponse.fromBytesWithLevel_toBytes hct hsig, ?_, hlinked.back⟩, ?_⟩ })
      · rw [← hsid]
        exact haccept
      · rw [← hlinked.sessionId_eq, ← hlinked.keyId_eq, ← hlinked.keys_eq]
        exact hreply
      · rw [hsession]
        exact Session.linked_updateKeys (hsent.sessionId_eq.trans hlinked.sessionId_eq)
          (hsent.keyId_eq.trans hlinked.keyId_eq) newKeys.swap

section Completes

variable {c : VpnClient} {packet : Bytes} {counter : Counter} {response : RekeyResponse} {newKeys : SessionKeys}

theorem Completes.decryptPacket (h : w.Completes c packet counter response newKeys) (now : Nat) :
    c.session.decryptPacket w.P.aes256Gcm now packet maxPacketSize =
      (c.session.acceptPacket now counter packet.length,
        .ok (.new .rekeyResponse c.session.sessionId c.session.keyId counter, response.toBytes)) := by
  have hlen := response.toBytes_length_le
  refine h.carries.decryptPacket (SessionKeys.swap_swap _).symm (h.behind.check (UInt64.le_refl _)) now ?_
  rw [tagSize, maxPacketSize]
  omega

theorem Completes.receiveRekeyResponse (h : w.Completes c packet counter response newKeys) (now : Nat) :
    c.receiveRekeyResponse w.P w.settings now packet =
      ({ c with session := (c.session.acceptPacket now counter packet.length).updateKeys newKeys } :
        VpnClient).clearRekeyState := by
  obtain ⟨handler, hhandler, haccept⟩ := h.accepted
  have hpair : handler.processResponse w.P response = ((handler.processResponse w.P response).1, .ok newKeys) :=
    Prod.ext rfl haccept
  rw [VpnClient.receiveRekeyResponse, h.decryptPacket]
  dsimp only
  rw [VpnClient.processRekeyResponse, h.parsed]
  rw [hhandler]
  dsimp only
  rw [hpair]

end Completes

theorem phase_deliverResponse (h : w.Phase r) (i now : Nat) : w.Phase (w.step r (.deliverResponse i now)) := by
  rw [step]
  cases hget : r.responses[i]? with
  | none => exact h
  | some packet =>
    have hout : w.ResponseOut r := by
      rcases h with h | h | h
      · rw [h.quiet.2] at hget
        cases hget
      · rw [h.responses_eq] at hget
        cases hget
      · exact h
    obtain ⟨sent, counter, response, newKeys, hresp, hcompletes, hlinked⟩ := hout.response
    have hi : i = 0 ∧ packet = sent := by
      rw [hresp] at hget
      cases i with
      | zero => exact ⟨rfl, (Option.some.inj hget).symm⟩
      | succ i => cases hget
    obtain ⟨rfl, rfl⟩ := hi
    dsimp only
    rw [hcompletes.receiveRekeyResponse, hresp]
    exact .inl ⟨⟨hout.requests_eq, rfl⟩, hlinked.sessionId_eq, hlinked.keyId_eq, hlinked.keys_eq, hlinked.forth,
      hlinked.back⟩

theorem phase_dropRequest (h : w.Phase r) (i : Nat) : w.Phase (w.step r (.dropRequest i)) := by
  rw [step]
  rcases h with h | h | h
  · refine .inl ⟨⟨?_, h.quiet.2⟩, h.linked⟩
    rw [h.quiet.1]
    rfl
  · obtain ⟨coins, clientRandom, counter, packet, hreq, hrest⟩ := h.request
    cases i with
    | zero =>
      refine .inl ⟨⟨?_, h.responses_eq⟩, h.linked⟩
      rw [hreq]
      rfl
    | succ i =>
      refine .inr (.inl ⟨h.responses_eq, h.pending, h.linked, coins, clientRandom, counter, packet, ?_, hrest⟩)
      rw [hreq]
      rfl
  · refine .inr (.inr ⟨?_, h.pending, h.response⟩)
    rw [h.requests_eq]
    rfl

theorem phase_dropResponse (h : w.Phase r) {i : Nat} (hnone : r.responses[i]? = none) :
    w.Phase (w.step r (.dropResponse i)) := by
  have hsame : r.responses.eraseIdx i = r.responses :=
    List.eraseIdx_of_length_le (List.getElem?_eq_none_iff.mp hnone)
  rw [step, hsame]
  exact h

theorem phase_tick (h : w.Phase r) {now : Nat} (hlost : r.Quiet ∨ ¬r.client.RekeyTimedOut w.settings now) :
    w.Phase (w.step r (.tick now)) := by
  rw [step, VpnClient.rekeyTimeoutTick]
  split
  case isFalse => exact h
  case isTrue hout =>
      -- giving up is harmless only when no message travels
      have hquiet := hlost.resolve_right (fun hno => hno hout)
      rcases h with h | h | h
      · exact .inl ⟨hquiet, h.linked⟩
      · obtain ⟨-, -, -, packet, hreq, -⟩ := h.request
        exact absurd (hquiet.1.symm.trans hreq) (List.cons_ne_nil _ _).symm
      · obtain ⟨packet, -, -, -, hresp, -⟩ := h.response
        exact absurd (hquiet.2.symm.trans hresp) (List.cons_ne_nil _ _).symm

theorem phase_step (hw : w.Configured) (r : RekeyRun) (op : RekeyOp) (h : w.Phase r)
    (hlost : w.NothingLost r op) : w.Phase (w.step r op) := by
  cases op with
  | start coins clientRandom now sendOk => exact phase_start h coins clientRandom now sendOk
  | deliverRequest i addr draws now queueHasRoom =>
    obtain rfl : queueHasRoom = true := hlost
    exact phase_deliverRequest hw h i addr draws now
  | dropRequest i => exact phase_dropRequest h i
  | deliverResponse i now => exact phase_deliverResponse h i now
  | dropResponse i => exact phase_dropResponse h hlost
  | tick now => exact phase_tick h hlost

end steps

/-- In runs that lose no response and give up only on an idle network, the ends hold matching keys and take each
other's packets whenever no rekey message is in flight. -/
theorem rekey_keeps_keys_matched (w : RekeySetup) (hw : w.Configured) (start : RekeyRun)
    (hquiet : start.Quiet) (hlinked : Session.Linked start.client.session start.server.session)
    (ops : List RekeyOp) (hlost : Runs.Meets w.NothingLost w.step start ops) :
    let r := Runs.exec w.step start ops
    r.Quiet →
      r.client.session.keyId = r.server.session.keyId ∧
      r.client.session.keys.sendKey = r.server.session.keys.recvKey ∧
      r.client.session.keys.recvKey = r.server.session.keys.sendKey ∧
      (∀ payload outputLen s' calls packet bufferLen now, payload.length + tagSize ≤ bufferLen →
        r.client.session.encryptPacket w.P.aes256Gcm .data payload outputLen = (s', calls, .ok packet) →
        ∃ s'' header,
          r.server.session.decryptPacket w.P.aes256Gcm now packet bufferLen = (s'', .ok (header, payload))) ∧
      (∀ payload outputLen s' calls packet bufferLen now, payload.length + tagSize ≤ bufferLen →
        r.server.session.encryptPacket w.P.aes256Gcm .data payload outputLen = (s', calls, .ok packet) →
        ∃ s'' header,
          r.client.session.decryptPacket w.P.aes256Gcm now packet bufferLen = (s'', .ok (header, payload))) := by
  intro r hr
  have hphase : w.Phase r :=
    Runs.exec_invariant_of (fun r op h hl => phase_step hw r op h hl) ops start (.inl ⟨hquiet, hlinked⟩) hlost
  have hfinal : Session.Linked r.client.session r.server.session := by
    rcases hphase with h | h | h
    · exact h.linked
    · exact h.linked
    · obtain ⟨packet, -, -, -, hresp, -⟩ := h.response
      exact absurd (hr.2.symm.trans hresp) (List.cons_ne_nil _ _).symm
  refine ⟨hfinal.keyId_eq.symm, ?_, ?_, ?_, ?_⟩
  · rw [hfinal.keys_eq]
    rfl
  · rw [hfinal.keys_eq]
    rfl
  · intro payload outputLen s' calls packet bufferLen now hroom hsend
    exact hfinal.accepts hsend now hroom
  · intro payload outputLen s' calls packet bufferLen now hroom hsend
    exact hfinal.symm.accepts hsend now hroom

end RekeySetup

/-! One rekey over a network that loses its response, and over one that does not. -/

namespace RekeySample

def primitives : Primitives := .transparent fun _ => 0

def keypairFor (level : SecurityLevel) : MlDsaKeypair :=
  MlDsaKeypair.generateWithLevel primitives level (Block.replicate 32 7)

def setup : RekeySetup := ⟨primitives, ⟨(keypairFor .level3).publicKey, .level3, 10000⟩, keypairFor⟩

def keys : SessionKeys :=
  ⟨Block.replicate 32 1, Block.replicate 32 2, Block.replicate 4 3, Block.replicate 4 4⟩

def addr : SocketAddr := .v4 (Block.replicate 4 9) 4433

def start : RekeyRun where
  client := ⟨Session.new 42 keys 0, none, false, none⟩
  server := .withRateLimit (Session.new 42 keys.swap 0) addr (Block.replicate 4 10) none .level3 0 0 0
  requests := []
  responses := []

def draws : ServerHandshake.Draws :=
  ⟨Block.replicate 32 4, ⟨Block.replicate 32 5, Block.replicate 32 6⟩, Block.replicate 32 8, 1700000000⟩

def answered : List RekeyOp :=
  [.start ⟨Block.replicate 32 1, Block.replicate 64 2⟩ (Block.replicate 32 3) 0 true,
    .deliverRequest 0 addr draws 1000 true]

def dataPasses (r : RekeyRun) : Bool :=
  match (r.client.session.encryptPacket primitives.aes256Gcm .data [1, 2, 3] 100).2.2 with
  | .ok packet => (r.server.session.decryptPacket primitives.aes256Gcm 2 packet 100).2.isOk
  | .error _ => false

theorem linked : Session.Linked start.client.session start.server.session :=
  ⟨rfl, rfl, rfl, ⟨[], AntiReplayWindow.tracks_new, nofun⟩, ⟨[], AntiReplayWindow.tracks_new, nofun⟩⟩

/-- A lost response leaves the server on new keys and the client on old ones, with nothing in flight. -/
theorem rekey_response_lost :
    let r := Runs.exec setup.step start (answered ++ [.dropResponse 0])
    Session.Linked start.client.session start.server.session ∧ start.requests = [] ∧ start.responses = [] ∧
      r.requests = [] ∧ r.responses = [] ∧ r.client.session.keyId = 0 ∧ r.server.session.keyId = 1 ∧
      r.client.session.keys.sendKey ≠ r.server.session.keys.recvKey ∧ dataPasses r = false := by
  refine ⟨linked, rfl, rfl, ?_⟩
  decide +kernel

def completed : List RekeyOp := answered ++ [.deliverResponse 0 1]

theorem completed_nothingLost : Runs.Meets setup.NothingLost setup.step start completed := by
  simp only [completed, answered, List.cons_append, List.nil_append, Runs.Meets, RekeySetup.NothingLost, and_self]

theorem completed_quiet : (Runs.exec setup.step start completed).Quiet := by
  unfold RekeyRun.Quiet
  decide +kernel

theorem rekey_keeps_keys_matched_delivered :
    (Runs.exec setup.step start completed).client.session.keyId =
      (Runs.exec setup.step start completed).server.session.keyId :=
  (RekeySetup.rekey_keeps_keys_matched setup ⟨⟨Block.replicate 32 7, rfl⟩, rfl⟩ start ⟨rfl, rfl⟩ linked
    completed completed_nothingLost completed_quiet).1

end RekeySample

end HpnVpn
