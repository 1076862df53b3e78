import HpnVpn.ClientTasks
import HpnVpn.ServerAuth

/-! Rebinds and their acknowledgements.  The flag is set after the send, only an acknowledgement clears it, and one is
taken whether or not it was asked for. -/
namespace HpnVpn
open Wire Runs

namespace SignedRebindAckPayload

def Fresh (timestamp now : UInt64) : Prop :=
  (timestamp ≤ now ∨ timestamp - now ≤ maxRebindAckFutureSkewSecs) ∧
    (now < timestamp ∨ now - timestamp ≤ maxRebindAckAgeSecs)

theorem verify_eq_ok {P : Primitives} {p : SignedRebindAckPayload} {pk : MlDsaPublicKey} {sid : SessionId}
    {now : UInt64} : p.verify P pk sid now = .ok () ↔ Fresh p.timestamp now ∧
      MlDsa.verify P pk (buildRebindAckTranscript sid p.timestamp p.endpoint) p.signature p.securityLevel = .ok () := by
  simp only [verify, bind_ok_iff, ensure_eq_ok, mapError_ok_iff, exists_and_left, exists_const, Fresh, and_assoc]

theorem buildRebindAckTranscript_congr {sid : SessionId} {timestamp : UInt64} {a b : SocketAddr} (hip : a.ip = b.ip)
    (hport : a.port = b.port) : buildRebindAckTranscript sid timestamp a = buildRebindAckTranscript sid timestamp b := by
  cases a <;> cases b <;> cases hip <;> cases hport <;> rfl

/-- What the server signed arrives and verifies while it is fresh; whatever verifies was signed, for this session,
time and endpoint. -/
theorem signed_rebind_ack (P : Primitives) :
    (∀ level seed sid endpoint timestamp coins, ∃ p q,
      sign P (MlDsaKeypair.generateWithLevel P level seed) sid endpoint timestamp coins = .ok p ∧
      fromBytes p.toBytes = .ok q ∧ q.endpoint.ip = endpoint.ip ∧ q.endpoint.port = endpoint.port ∧
      ∀ now, Fresh timestamp now →
        q.verify P (MlDsaKeypair.generateWithLevel P level seed).publicKey sid now = .ok ()) ∧
    ∀ (pk : MlDsaPublicKey) (signed : Set (SessionId × UInt64 × SocketAddr)) (p : SignedRebindAckPayload),
      (∀ m level, MlDsa.verify P pk m p.signature level = .ok () →
        ∃ s ∈ signed, m = buildRebindAckTranscript s.1 s.2.1 s.2.2) →
      ∀ sid now, p.verify P pk sid now = .ok () →
        ∃ s ∈ signed, s.1 = sid ∧ s.2.1 = p.timestamp ∧ s.2.2.ip = p.endpoint.ip ∧ s.2.2.port = p.endpoint.port := by
  constructor
  · intro level seed sid endpoint timestamp coins
    obtain ⟨sig, hsign, hlevel, hverify⟩ :=
      MlDsa.verify_sign (P := P) level seed (buildRebindAckTranscript sid timestamp endpoint) coins
    obtain ⟨endpoint', hip, hport, hread⟩ := fromBytes_toBytes ⟨level, timestamp, endpoint, sig⟩ hlevel
    refine ⟨_, _, ?_, hread, hip, hport, ?_⟩
    · exact bind_ok_iff.mpr ⟨sig, mapError_ok_iff.mpr hsign, rfl⟩
    · intro now hfresh
      refine verify_eq_ok.mpr ⟨hfresh, ?_⟩
      rw [buildRebindAckTranscript_congr hip hport]
      exact hverify
  · intro pk signed p hideal sid now hverify
    obtain ⟨s, hmem, htranscript⟩ := hideal _ _ (verify_eq_ok.mp hverify).2
    obtain ⟨hsid, htimestamp, hip, hport⟩ := buildRebindAckTranscript_inj htranscript
    exact ⟨s, hmem, hsid.symm, htimestamp.symm, hip.symm, hport.symm⟩

end SignedRebindAckPayload

theorem Session.encryptPacket_sessionId {A : Aes256Gcm} {s : Session} {msgType : MessageType} {payload : Bytes}
    {outputLen : Nat} : (s.encryptPacket A msgType payload outputLen).1.sessionId = s.sessionId := by
  rcases encryptPacket_cases A s msgType payload outputLen with
    ⟨-, heq⟩ | ⟨-, -, heq⟩ | ⟨-, -, -, heq⟩ | ⟨-, -, _, -, heq⟩
  all_goals rw [heq]
  all_goals rfl

namespace Client
variable {P : Primitives} {D : AddrDisplay} {settings : ClientSettings} {c : Client}

/-- The control message acknowledges a rebind of the session. -/
def acknowledges (P : Primitives) (settings : ClientSettings) (sessionId : SessionId) (wallClock : UInt64)
    (payload : Bytes) : Bool :=
  match ControlMessage.fromBytes payload with
  | .error _ => false
  | .ok control =>
    control.controlType = .rebindAck &&
      match control.signedPayload with
      | some signed => (signed.verify P settings.serverPublicKey sessionId wallClock).isOk
      | none => !settings.requireSignedRebindAck

def accepts (P : Primitives) (settings : ClientSettings) (c : Client) (wallClock : UInt64) (payload : Bytes) : Bool :=
  c.session.any fun session => acknowledges P settings session.sessionId wallClock payload

theorem accepts_congr {c' : Client} (h : c'.session.map Session.sessionId = c.session.map Session.sessionId)
    (wallClock : UInt64) (payload : Bytes) :
    c'.accepts P settings wallClock payload = c.accepts P settings wallClock payload := by
  have hany : ∀ c : Client, c.accepts P settings wallClock payload =
      (c.session.map Session.sessionId).any fun id => acknowledges P settings id wallClock payload := by
    intro c
    rw [accepts, Option.any_map]
  rw [hany, hany, h]

theorem processRebindAck_spec {wallClock : UInt64} {payload : Bytes} {control : ControlMessage}
    (hcontrol : ControlMessage.fromBytes payload = .ok control) (htype : control.controlType = .rebindAck) :
    let r := c.processRebindAck P settings wallClock control.signedPayload
    r.1.rebindPending = (c.rebindPending && !c.accepts P settings wallClock payload) ∧
      r.1.session = c.session ∧
      (.rebindAcknowledged ∈ r.2 ↔ c.accepts P settings wallClock payload = true) := by
  unfold processRebindAck accepts acknowledges
  rw [hcontrol]
  cases hsession : c.session with
  | none => simp [hsession]
  | some session =>
    dsimp only [Option.any_some]
    rw [htype]
    cases control.signedPayload with
    | some signed =>
      dsimp only
      cases hverify : signed.verify P settings.serverPublicKey session.sessionId wallClock with
      | ok _ => simp [Except.isOk, Except.toBool]
      | error e => simp [Except.isOk, Except.toBool, hsession]
    | none =>
      cases settings.requireSignedRebindAck with
      | true => simp [hsession]
      | false => simp

theorem processControlMessage_rebind (wallClock : UInt64) (payload : Bytes) :
    let r := c.processControlMessage P settings wallClock payload
    r.1.rebindPending = (c.rebindPending && !c.accepts P settings wallClock payload) ∧
      r.1.session = c.session ∧
      (.rebindAcknowledged ∈ r.2.1 ↔ c.accepts P settings wallClock payload = true) := by
  have hother : (∀ control, ControlMessage.fromBytes payload = .ok control → control.controlType ≠ .rebindAck) →
      c.accepts P settings wallClock payload = false := by
    intro hne
    unfold accepts acknowledges
    cases hcontrol : ControlMessage.fromBytes payload with
    | error e => cases c.session <;> rfl
    | ok control =>
      dsimp only
      rw [decide_eq_false (hne control hcontrol)]
      cases c.session <;> rfl
  unfold processControlMessage
  cases hcontrol : ControlMessage.fromBytes payload with
  | error e =>
    rw [hother (by rw [hcontrol]; nofun)]
    simp
  | ok control =>
    dsimp only
    cases htype : control.controlType with
    | rebindAck =>
      obtain ⟨hpending, hsession, hevent⟩ := @processRebindAck_spec P settings c wallClock payload control
        hcontrol htype
      refine ⟨hpending, hsession, ?_⟩
      rw [← hevent]
      simp
    | close =>
      rw [hother (by rw [hcontrol]; rintro _ ⟨⟩; rw [htype]; nofun)]
      dsimp only
      unfold setState
      split
      all_goals simp
    | error | rebind | config =>
      rw [hother (by rw [hcontrol]; rintro _ ⟨⟩; rw [htype]; nofun)]
      simp

theorem sendPacket_spec (msgType : MessageType) (payload : Bytes) (outputLen : Nat) :
    let r := c.sendPacket P msgType payload outputLen
    r.1.rebindPending = c.rebindPending ∧ r.1.session.map Session.sessionId = c.session.map Session.sessionId := by
  unfold sendPacket
  cases hsession : c.session with
  | none => simp [hsession]
  | some session =>
    have hid := @Session.encryptPacket_sessionId P.aes256Gcm session msgType payload outputLen
    dsimp only
    generalize session.encryptPacket P.aes256Gcm msgType payload outputLen = result at hid ⊢
    obtain ⟨session', calls, e | packet⟩ := result
    all_goals exact ⟨rfl, congrArg some hid⟩

theorem sealRebind_spec (newEndpoint : SocketAddr) :
    let r := c.sealRebind P D newEndpoint
    r.1.rebindPending = c.rebindPending ∧
      r.1.session.map Session.sessionId = c.session.map Session.sessionId ∧
      (c.rebindPending = true → r = (c, .error (.invalidState "rebind already pending"))) := by
  unfold sealRebind
  split
  · exact ⟨rfl, rfl, fun _ => rfl⟩
  · rename_i hfree
    obtain ⟨hpending, hid⟩ := @sendPacket_spec P c .control
      (ControlMessage.toBytes ⟨.rebind, none, some (D.toText newEndpoint), none⟩)
      (headerSize + (ControlMessage.toBytes ⟨.rebind, none, some (D.toText newEndpoint), none⟩).length + tagSize + 32)
    exact ⟨hpending, hid, fun hset => absurd hset hfree⟩

/-- The client once an attempt to reconnect has succeeded: keep-alives and rekey are reset, the session is new. -/
def reconnected (c : Client) (session : Session) : Client :=
  { c.resetForReconnect with session := some session, state := .connected }

theorem setState_eq (state : ClientState) : (c.setState state).1 = { c with state } := by
  unfold setState
  split
  · rename_i heq
    rw [← heq]
  · rfl

end Client

/-! ### Runs -/

/-- The client, the endpoints of the calls that wait for their send, and the acknowledgements under way; `asked` is
the endpoint of the last rebind. -/
structure Rebinding where
  client : Client
  sending : List SocketAddr
  underWay : List Bytes
  asked : Option SocketAddr

/-- A rebind is sent, with what the server will answer; its send is over; an answer arrives or is lost; a control
message arrives; the client has reconnected. -/
inductive RebindStep
  | send (newEndpoint : SocketAddr) (answer : Option Bytes)
  | sent (i : Nat) (sendOk : Bool)
  | arrive (j : Nat) (wallClock : UInt64)
  | lose (j : Nat)
  | control (wallClock : UInt64) (payload : Bytes)
  | reconnect (sessionId : SessionId) (keys : SessionKeys) (now : Nat)

namespace Rebinding
variable {P : Primitives} {D : AddrDisplay} {settings : ClientSettings} {r : Rebinding}

def start (session : Session) : Rebinding where
  client := { ClientWorld.new.client with state := .connected, session := some session }
  sending := []
  underWay := []
  asked := none

def process (P : Primitives) (settings : ClientSettings) (r : Rebinding) (wallClock : UInt64) (payload : Bytes) :
    Rebinding :=
  { r with client := (r.client.processControlMessage P settings wallClock payload).1 }

def step (P : Primitives) (D : AddrDisplay) (settings : ClientSettings) (r : Rebinding) : RebindStep → Rebinding
  | .send newEndpoint answer =>
    match r.client.sealRebind P D newEndpoint with
    | (client, .error _) => { r with client }
    | (client, .ok _) =>
      { r with client, sending := r.sending ++ [newEndpoint], underWay := r.underWay ++ answer.toList }
  | .sent i sendOk =>
    match r.sending[i]? with
    | none => r
    | some newEndpoint =>
      let r := { r with sending := r.sending.eraseIdx i }
      if sendOk then { r with client := (r.client.markRebind newEndpoint).1, asked := some newEndpoint } else r
  | .arrive j wallClock =>
    match r.underWay[j]? with
    | none => r
    | some payload =>
      ({ r with underWay := r.underWay.eraseIdx j } : Rebinding).process P settings wallClock payload
  | .lose j => { r with underWay := r.underWay.eraseIdx j }
  | .control wallClock payload => r.process P settings wallClock payload
  -- What is under way was sealed for the session before, and the new one does not open it.
  | .reconnect sessionId keys now =>
    { r with client := r.client.reconnected (Session.new sessionId keys now), underWay := [] }

/-! ### A flag that can be cleared -/

/-- No rebind is pending. -/
def Free (r : Rebinding) : Prop := r.client.rebindPending = false

def Awaits (P : Primitives) (settings : ClientSettings) (c : Client) (underWay : List Bytes) : Prop :=
  ∃ payload ∈ underWay, ∃ wallClock, c.accepts P settings wallClock payload = true

def Expected : RebindStep → Prop
  | .control .. => False
  | _ => True

/-- The client can still get to where it may send a rebind, with nothing but what is under way. -/
def CanRebind (P : Primitives) (D : AddrDisplay) (settings : ClientSettings) : Rebinding → Prop :=
  CanReach Expected (step P D settings) Free

theorem Awaits.of_subset {c c' : Client} {underWay underWay' : List Bytes} (h : Awaits P settings c underWay)
    (hsub : underWay ⊆ underWay') (hid : c'.session.map Session.sessionId = c.session.map Session.sessionId) :
    Awaits P settings c' underWay' := by
  obtain ⟨payload, hmem, wallClock, haccepts⟩ := h
  exact ⟨payload, hsub hmem, wallClock, (Client.accepts_congr hid wallClock payload).trans haccepts⟩

theorem process_pending (wallClock : UInt64) (payload : Bytes) :
    (r.process P settings wallClock payload).client.rebindPending =
      (r.client.rebindPending && !r.client.accepts P settings wallClock payload) :=
  (Client.processControlMessage_rebind wallClock payload).1

theorem process_session (wallClock : UInt64) (payload : Bytes) :
    (r.process P settings wallClock payload).client.session = r.client.session :=
  (Client.processControlMessage_rebind wallClock payload).2.1

theorem step_stuck {i : RebindStep} (hi : Expected i) (h : ¬(r.Free ∨ Awaits P settings r.client r.underWay)) :
    ¬((r.step P D settings i).Free ∨
      Awaits P settings (r.step P D settings i).client (r.step P D settings i).underWay) := by
  obtain ⟨hset, hnone⟩ := not_or.mp h
  have hpending : r.client.rebindPending = true := Bool.eq_true_of_not_eq_false hset
  cases i with
  | send newEndpoint answer =>
    have hrefused : r.client.sealRebind P D newEndpoint = (r.client, .error (.invalidState "rebind already pending")) :=
      (Client.sealRebind_spec newEndpoint).2.2 hpending
    rw [step, hrefused]
    exact h
  | sent i sendOk =>
    rw [step]
    split
    · exact h
    · split
      · exact not_or.mpr ⟨nofun, fun hawaits => hnone (hawaits.of_subset (fun _ hm => hm) rfl)⟩
      · exact h
  | arrive j wallClock =>
    rw [step]
    split
    · exact h
    · rename_i payload hpayload
      have hrejected : r.client.accepts P settings wallClock payload = false := by
        apply Bool.eq_false_of_not_eq_true
        intro haccepts
        exact hnone ⟨payload, List.mem_of_getElem? hpayload, wallClock, haccepts⟩
      refine not_or.mpr ⟨?_, ?_⟩
      · unfold Free
        rw [process_pending]
        rw [hpending, hrejected]
        nofun
      · intro hawaits
        refine hnone (hawaits.of_subset (List.eraseIdx_subset) ?_)
        rw [process_session]
  | lose j => exact not_or.mpr ⟨hset, fun hawaits => hnone (hawaits.of_subset List.eraseIdx_subset rfl)⟩
  | control wallClock payload => cases hi
  | reconnect sessionId keys now =>
    refine not_or.mpr ⟨hset, ?_⟩
    rintro ⟨payload, hmem, -⟩
    cases hmem

theorem canRebind_iff : r.CanRebind P D settings ↔ r.Free ∨ Awaits P settings r.client r.underWay := by
  have hhope : ∀ r : Rebinding, Awaits P settings r.client r.underWay →
      ∃ i, Expected i ∧ (r.step P D settings i).Free := by
    rintro r ⟨payload, hmem, wallClock, haccepts⟩
    obtain ⟨j, hj⟩ := List.mem_iff_getElem?.mp hmem
    refine ⟨.arrive j wallClock, trivial, ?_⟩
    rw [step, hj]
    unfold Free
    rw [process_pending]
    rw [haccepts, Bool.not_true, Bool.and_false]
  exact canReach_iff hhope (fun _ _ => step_stuck) r

/-- The flag keeps an acknowledgement to wait for: one is under way when it is set, and while it is set the last one
is not lost or rejected. -/
def Answerable (P : Primitives) (settings : ClientSettings) (r : Rebinding) : RebindStep → Prop
  | .sent i sendOk => r.sending[i]?.isSome = true → sendOk = true → Awaits P settings r.client r.underWay
  | .arrive j wallClock => r.client.rebindPending = true →
      (∃ payload, r.underWay[j]? = some payload ∧ r.client.accepts P settings wallClock payload = true) ∨
        Awaits P settings r.client (r.underWay.eraseIdx j)
  | .lose j => r.client.rebindPending = true → Awaits P settings r.client (r.underWay.eraseIdx j)
  | .reconnect .. => r.client.rebindPending = false
  | _ => True

theorem free_or_awaits_send (h : r.Free ∨ Awaits P settings r.client r.underWay) (newEndpoint : SocketAddr)
    (answer : Option Bytes) :
    let r' := r.step P D settings (.send newEndpoint answer)
    r'.Free ∨ Awaits P settings r'.client r'.underWay := by
  obtain ⟨hpending, -, hrefused⟩ := @Client.sealRebind_spec P D r.client newEndpoint
  rw [step]
  cases hflag : r.client.rebindPending with
  | true =>
    rw [hrefused hflag]
    exact h
  | false =>
    rw [hflag] at hpending
    generalize r.client.sealRebind P D newEndpoint = result at hpending ⊢
    obtain ⟨client, e | packet⟩ := result
    all_goals exact .inl hpending

theorem free_or_awaits_arrive_iff (h : r.Free ∨ Awaits P settings r.client r.underWay) (j : Nat) (wallClock : UInt64) :
    let r' := r.step P D settings (.arrive j wallClock)
    (r'.Free ∨ Awaits P settings r'.client r'.underWay) ↔ r.Answerable P settings (.arrive j wallClock) := by
  rw [step, Answerable]
  cases hpayload : r.underWay[j]? with
  | none =>
    have hsame : r.underWay.eraseIdx j = r.underWay :=
      List.eraseIdx_of_length_le (List.getElem?_eq_none_iff.mp hpayload)
    refine iff_of_true h ?_
    intro hset
    rw [hsame]
    exact .inr (h.resolve_left (fun hfree => Bool.false_ne_true (hfree.symm.trans hset)))
  | some payload =>
    have hawaits : ∀ underWay, Awaits P settings (r.process P settings wallClock payload).client underWay ↔
        Awaits P settings r.client underWay := by
      intro underWay
      have hid := congrArg (Option.map Session.sessionId) (@process_session P settings r wallClock payload)
      exact ⟨fun h => h.of_subset (fun _ hm => hm) hid.symm, fun h => h.of_subset (fun _ hm => hm) hid⟩
    dsimp only
    unfold Free
    rw [process_pending]
    refine (or_congr_right (hawaits (r.underWay.eraseIdx j))).trans ?_
    cases r.client.rebindPending <;> cases haccepts : r.client.accepts P settings wallClock payload <;> simp [haccepts]

theorem free_or_awaits_step_iff (h : r.Free ∨ Awaits P settings r.client r.underWay) (i : RebindStep) :
    ((r.step P D settings i).Free ∨
      Awaits P settings (r.step P D settings i).client (r.step P D settings i).underWay) ↔
        r.Answerable P settings i := by
  have hkept : r.client.rebindPending = true → Awaits P settings r.client r.underWay :=
    fun hset => h.resolve_left (fun hfree => Bool.false_ne_true (hfree.symm.trans hset))
  cases i with
  | send newEndpoint answer => exact iff_of_true (free_or_awaits_send h newEndpoint answer) trivial
  | sent i sendOk =>
    rw [step, Answerable]
    cases r.sending[i]? with
    | none => exact iff_of_true h nofun
    | some newEndpoint =>
      cases sendOk with
      | false => exact iff_of_true h nofun
      | true =>
        constructor
        · rintro (hfree | hawaits) - -
          · cases hfree
          · exact hawaits.of_subset (fun _ hm => hm) rfl
        · intro hcond
          exact .inr ((hcond rfl rfl).of_subset (fun _ hm => hm) rfl)
  | arrive j wallClock => exact free_or_awaits_arrive_iff h j wallClock
  | lose j =>
    constructor
    · rintro (hfree | hawaits) hset
      · exact absurd (hfree.symm.trans hset) Bool.false_ne_true
      · exact hawaits
    · intro hcond
      cases hflag : r.client.rebindPending with
      | false => exact .inl hflag
      | true => exact .inr (hcond hflag)
  | control wallClock payload =>
    refine iff_of_true ?_ trivial
    rw [step]
    cases hflag : r.client.rebindPending with
    | false =>
      refine .inl ?_
      unfold Free
      rw [process_pending, hflag, Bool.false_and]
    | true =>
      have hid := congrArg (Option.map Session.sessionId) (@process_session P settings r wallClock payload)
      exact .inr ((hkept hflag).of_subset (fun _ hm => hm) hid)
  | reconnect sessionId keys now =>
    constructor
    · rintro (hfree | ⟨payload, hmem, -⟩)
      · exact hfree
      · cases hmem
    · exact .inl

/-- Along every run the client can always come to send another rebind just if every step is answerable. -/
theorem rebinding_never_stuck_iff (P : Primitives) (D : AddrDisplay) (settings : ClientSettings)
    (session : Session) (steps : List RebindStep) :
    ((∀ n, (exec (step P D settings) (start session) (steps.take n)).CanRebind P D settings) ∧
      ∀ before sessionId keys now after, steps = before ++ .reconnect sessionId keys now :: after →
        (exec (step P D settings) (start session) (before ++ [.reconnect sessionId keys now])).Free) ↔
      Meets (Answerable P settings) (step P D settings) (start session) steps := by
  have hgood : ∀ (r : Rebinding) i, True → r.CanRebind P D settings → True →
      ((r.step P D settings i).CanRebind P D settings ↔ r.Answerable P settings i) := by
    intro r i _ h _
    rw [canRebind_iff] at h ⊢
    exact free_or_awaits_step_iff h i
  have hmeets := exec_always_iff_meets (fun _ _ _ => trivial) hgood steps (start session)
    (meets_of_forall (fun _ _ _ => trivial) (start session)) trivial (canRebind_iff.mpr (.inl rfl))
  rw [hmeets]
  refine and_iff_left_of_imp ?_
  intro h before sessionId keys now after hsplit
  rw [exec_append]
  exact meets_iff_forall_split.mp h before (.reconnect sessionId keys now) after hsplit

/-! ### What an acknowledgement confirms -/

def message (r : Rebinding) : RebindStep → Option (UInt64 × Bytes)
  | .arrive j wallClock => r.underWay[j]?.map fun payload => (wallClock, payload)
  | .control wallClock payload => some (wallClock, payload)
  | _ => none

def reports (P : Primitives) (settings : ClientSettings) (r : Rebinding) (i : RebindStep) : List ClientEvent :=
  match r.message i with
  | none => []
  | some (wallClock, payload) => (r.client.processControlMessage P settings wallClock payload).2.1

def Asks (r : Rebinding) (endpoint : SocketAddr) : Prop :=
  r.client.rebindPending = true ∧ ∃ asked, r.asked = some asked ∧ endpoint.ip = asked.ip ∧ endpoint.port = asked.port

/-- If the step reports an acknowledgement, then it has brought one that names the endpoint of the pending rebind. -/
def ConfirmsAsked (P : Primitives) (settings : ClientSettings) (r : Rebinding) (i : RebindStep) : Prop :=
  .rebindAcknowledged ∈ r.reports P settings i → ∃ wallClock payload control signed,
    r.message i = some (wallClock, payload) ∧ ControlMessage.fromBytes payload = .ok control ∧
      control.signedPayload = some signed ∧ r.Asks signed.endpoint

/-- Every signed acknowledgement that verifies for the session is for the endpoint of the pending rebind. -/
def AnswersAsked (P : Primitives) (settings : ClientSettings) (r : Rebinding) (i : RebindStep) : Prop :=
  ∀ wallClock payload control signed session, r.message i = some (wallClock, payload) →
    ControlMessage.fromBytes payload = .ok control → control.controlType = .rebindAck →
    control.signedPayload = some signed → r.client.session = some session →
    signed.verify P settings.serverPublicKey session.sessionId wallClock = .ok () → r.Asks signed.endpoint

end Rebinding

theorem Client.accepts_iff_signed {P : Primitives} {settings : ClientSettings} {c : Client} {wallClock : UInt64}
    {payload : Bytes} (hsigned : settings.requireSignedRebindAck = true) :
    c.accepts P settings wallClock payload = true ↔ ∃ control signed session,
      ControlMessage.fromBytes payload = .ok control ∧ control.controlType = .rebindAck ∧
        control.signedPayload = some signed ∧ c.session = some session ∧
          signed.verify P settings.serverPublicKey session.sessionId wallClock = .ok () := by
  unfold accepts acknowledges
  cases ControlMessage.fromBytes payload with
  | error e => simp
  | ok control =>
    cases hsession : c.session with
    | none => simp
    | some session =>
      cases hpayload : control.signedPayload with
      | none => simp [hpayload, hsigned]
      | some signed =>
        have hok : (signed.verify P settings.serverPublicKey session.sessionId wallClock).isOk = true ↔
            signed.verify P settings.serverPublicKey session.sessionId wallClock = .ok () := by
          cases signed.verify P settings.serverPublicKey session.sessionId wallClock with
          | ok u => exact iff_of_true rfl rfl
          | error e => exact iff_of_false nofun nofun
        simp [hpayload, hok]

namespace Rebinding

theorem confirmsAsked_iff {P : Primitives} {settings : ClientSettings}
    (hsigned : settings.requireSignedRebindAck = true) (r : Rebinding) (i : RebindStep) :
    r.ConfirmsAsked P settings i ↔ r.AnswersAsked P settings i := by
  unfold ConfirmsAsked AnswersAsked reports
  cases r.message i with
  | none =>
    refine iff_of_true ?_ ?_
    · intro hmem
      cases hmem
    · intro _ _ _ _ _ heq
      cases heq
  | some arrived =>
    obtain ⟨wallClock, payload⟩ := arrived
    rw [(Client.processControlMessage_rebind wallClock payload).2.2, Client.accepts_iff_signed hsigned]
    constructor
    · intro h wallClock' payload' control signed session heq hcontrol htype hpayload hsession hverify
      cases Option.some.inj heq
      obtain ⟨_, _, control', signed', heq', hcontrol', hpayload', hasks⟩ :=
        h ⟨control, signed, session, hcontrol, htype, hpayload, hsession, hverify⟩
      cases Option.some.inj heq'
      cases hcontrol.symm.trans hcontrol'
      cases hpayload.symm.trans hpayload'
      exact hasks
    · rintro h ⟨control, signed, session, hcontrol, htype, hpayload, hsession, hverify⟩
      exact ⟨wallClock, payload, control, signed, rfl, hcontrol, hpayload,
        h wallClock payload control signed session rfl hcontrol htype hpayload hsession hverify⟩

/-- Along every run the client reports acknowledgements of the pending rebind only just if every signed one that
verifies is for it. -/
theorem rebind_ack_confirms_asked_iff (P : Primitives) (D : AddrDisplay) (settings : ClientSettings)
    (hsigned : settings.requireSignedRebindAck = true) (session : Session) (steps : List RebindStep) :
    Meets (ConfirmsAsked P settings) (step P D settings) (start session) steps ↔
      Meets (AnswersAsked P settings) (step P D settings) (start session) steps := by
  have hiff : ∀ (r : Rebinding) i, True → (r.ConfirmsAsked P settings i ↔ r.AnswersAsked P settings i) :=
    fun r i _ => confirmsAsked_iff hsigned r i
  exact meets_congr (fun _ _ _ => trivial) hiff steps (start session) trivial

end Rebinding

namespace RebindSample
open Rebinding ForgedSample

def home : SocketAddr := .v4 (ipv4 203 0 113 7) 40000
def away : SocketAddr := .v4 (ipv4 198 51 100 9) 40001

def signedFor (endpoint : SocketAddr) : SignedRebindAckPayload :=
  ⟨.level3, 1700000000, endpoint, ⟨.level3, Block.replicate _ 0⟩⟩

def ack (endpoint : SocketAddr) : Bytes := (ControlMessage.rebindAckSigned (signedFor endpoint)).toBytes

def run (steps : List RebindStep) : Rebinding := exec (step primitives .fields settings) (start session) steps

theorem not_canRebind {r : Rebinding} (hset : r.client.rebindPending = true) (hnone : r.underWay = []) :
    ¬r.CanRebind primitives .fields settings := by
  rw [canRebind_iff]
  rintro (hfree | ⟨payload, hmem, -⟩)
  · exact Bool.false_ne_true (hfree.symm.trans hset)
  · rw [hnone] at hmem
    cases hmem

/-- The acknowledgement comes before the flag is set, or is lost, or the client reconnects meanwhile: the flag
stays for good. -/
theorem rebind_flag_stays :
    SignedRebindAckPayload.sign primitives keypair 42 home 1700000000 (Block.replicate 32 0) = .ok (signedFor home) ∧
      ¬(run [.send home (some (ack home)), .arrive 0 1700000000, .sent 0 true]).CanRebind primitives .fields settings ∧
      ¬(run [.send home (some (ack home)), .sent 0 true, .lose 0]).CanRebind primitives .fields settings ∧
      ¬(run [.send home (some (ack home)), .sent 0 true, .reconnect 43 session.keys 5]).CanRebind primitives .fields
        settings := by
  refine ⟨by decide +kernel, not_canRebind ?_ ?_, not_canRebind ?_ ?_, not_canRebind ?_ ?_⟩
  all_goals decide +kernel

def overlapping : List RebindStep :=
  [.send home (some (ack home)), .send away (some (ack away)), .sent 0 true, .sent 0 true]

/-- An acknowledgement is reported before its rebind is pending, and one for the first of two rebinds for the second.
-/
theorem other_rebind_acknowledged :
    ¬Meets (ConfirmsAsked primitives settings) (step primitives .fields settings) (start session)
        [.send home (some (ack home)), .arrive 0 1700000000] ∧
      ¬Meets (ConfirmsAsked primitives settings) (step primitives .fields settings) (start session)
        (overlapping ++ [.arrive 0 1700000000]) := by
  have hdecode : ControlMessage.fromBytes (ack home) = .ok (.rebindAckSigned (signedFor home)) := by decide +kernel
  constructor
  · rintro ⟨-, hconfirms, -⟩
    obtain ⟨_, _, _, _, -, -, -, hpending, -⟩ := hconfirms (by decide +kernel)
    exact absurd hpending (by decide +kernel)
  · rintro ⟨-, -, -, -, hconfirms, -⟩
    obtain ⟨_, payload, control, signed, hmessage, hcontrol, hsigned, -, asked, hasked, hip, -⟩ :=
      hconfirms (by decide +kernel)
    have hfirst : (run overlapping).message (.arrive 0 1700000000) = some (1700000000, ack home) := by
      decide +kernel
    cases Option.some.inj (hfirst.symm.trans hmessage)
    cases hdecode.symm.trans hcontrol
    cases hsigned
    have hlast : (run overlapping).asked = some away := by decide +kernel
    cases hlast.symm.trans hasked
    exact absurd hip (by decide)

theorem rebind_ack_confirms_asked :
    Meets (ConfirmsAsked primitives settings) (step primitives .fields settings) (start session)
      [.send home (some (ack home)), .sent 0 true, .arrive 0 1700000000] := by
  refine (rebind_ack_confirms_asked_iff primitives .fields settings rfl session _).mpr ⟨?_, ?_, ?_, trivial⟩
  · intro _ _ _ _ _ heq
    cases heq
  · intro _ _ _ _ _ heq
    cases heq
  · intro wallClock payload control signed _ hmessage hcontrol _ hsigned _ _
    have hdecode : ControlMessage.fromBytes (ack home) = .ok (.rebindAckSigned (signedFor home)) := by
      decide +kernel
    have hfirst : some (1700000000, ack home) = some (wallClock, payload) := hmessage
    obtain rfl := (Prod.mk.inj (Option.some.inj hfirst)).2
    cases hdecode.symm.trans hcontrol
    cases hsigned
    exact ⟨by decide +kernel, home, by decide +kernel, rfl, rfl⟩

def transcript : Bytes := buildRebindAckTranscript 42 1700000000 home

/-- Primitives whose signatures show whether this transcript was signed. -/
def stamped : Primitives := .transparent fun m => if m = transcript then 1 else 0

def stampedAck : SignedRebindAckPayload := ⟨.level3, 1700000000, home, .level3, Block.replicate _ 1⟩

theorem eq_transcript_of_verify {pk : MlDsaPublicKey} {m : Bytes} {level : SecurityLevel}
    (h : MlDsa.verify stamped pk m stampedAck.signature level = .ok ()) : m = transcript := by
  obtain ⟨pkBlock, sigBlock, -, hsig, hverify⟩ := MlDsa.verify_eq_ok.mp h
  have hblock : sigBlock = Block.replicate _ (if m = transcript then 1 else 0) := of_decide_eq_true hverify
  have hbytes : List.replicate SecurityLevel.level3.mldsaSignatureSize (1 : UInt8) =
      List.replicate level.mldsaSignatureSize (if m = transcript then 1 else 0) := by
    rw [hblock] at hsig
    exact hsig
  by_contra hne
  rw [if_neg hne] at hbytes
  exact absurd ((List.replicate_inj.mp hbytes).2.resolve_left (by decide)) (by decide)

theorem signed_rebind_ack_home :
    let pk := (MlDsaKeypair.generateWithLevel stamped .level3 default).publicKey
    stampedAck.verify stamped pk 42 1700000100 = .ok () ∧ home.ip = stampedAck.endpoint.ip := by
  obtain ⟨sig, hsign, -, hverify⟩ := MlDsa.verify_sign (P := stamped) .level3 default transcript default
  have hone : MlDsa.sign stamped (MlDsaKeypair.generateWithLevel stamped .level3 default).secretKey transcript .level3
      default = .ok stampedAck.signature := by
    have hmark : (if transcript = transcript then 1 else 0 : UInt8) = 1 := if_pos rfl
    rw [stampedAck, ← hmark]
    exact MlDsa.sign_generated .level3 default transcript default
  cases hone.symm.trans hsign
  have hfresh : SignedRebindAckPayload.Fresh 1700000000 1700000100 := ⟨.inl (by decide), .inr (by decide)⟩
  have hok := SignedRebindAckPayload.verify_eq_ok (p := stampedAck).mpr ⟨hfresh, hverify⟩
  obtain ⟨s, rfl, -, -, hip, -⟩ := (SignedRebindAckPayload.signed_rebind_ack stamped).2 _
    {(42, 1700000000, home)} stampedAck (fun m level h => ⟨_, rfl, eq_transcript_of_verify h⟩)
    42 1700000100 hok
  exact ⟨hok, hip⟩

end RebindSample

end HpnVpn
