import HpnVpn.ClientTasks

/-! What a disconnected client still does: without a session it seals nothing.  It has none unless a close message
takes effect or an attempt to connect fails over a session. -/
namespace HpnVpn
open Wire Runs

namespace Client
variable {P : Primitives} {settings : ClientSettings} {c : Client}

structure SameStanding (c c' : Client) : Prop where
  state : c'.state = c.state
  session : c'.session = none ↔ c.session = none

theorem SameStanding.refl (c : Client) : SameStanding c c := ⟨rfl, Iff.rfl⟩

theorem SameStanding.trans {c c' c'' : Client} (h : SameStanding c c') (h' : SameStanding c' c'') :
    SameStanding c c'' := ⟨h'.state.trans h.state, h'.session.trans h.session⟩

theorem SameStanding.of_some {c' : Client} {session session' : Session} (hstate : c'.state = c.state)
    (h : c.session = some session) (h' : c'.session = some session') : SameStanding c c' := by
  refine ⟨hstate, ?_⟩
  rw [h, h']
  exact ⟨nofun, nofun⟩

/-! ### Calls -/

theorem sendPacket_standing (msgType : MessageType) (payload : Bytes) (outputLen : Nat) :
    SameStanding c (c.sendPacket P msgType payload outputLen).1 := by
  unfold sendPacket
  split
  · exact .refl c
  · rename_i session hsession
    split
    all_goals exact .of_some rfl hsession rfl

theorem sendPacket_of_none (h : c.session = none) (msgType : MessageType) (payload : Bytes) (outputLen : Nat) :
    c.sendPacket P msgType payload outputLen = (c, .error .notConnected) := by
  rw [sendPacket, h]

variable (wallClock : UInt64) (now : Nat) (coins : HybridKem.KeypairCoins) (payload : Bytes)

theorem sendData_standing (sendOk : Bool) : SameStanding c (c.sendData P payload sendOk).1 := by
  have hsent := @sendPacket_standing P c .data payload maxPacketSize
  unfold sendData
  split
  all_goals
    rename_i heq
    rw [heq] at hsent
    exact hsent

theorem sendData_of_none (h : c.session = none) (payload : Bytes) (sendOk : Bool) :
    (c.sendData P payload sendOk).2 = .error .notConnected := by
  rw [sendData, sendPacket_of_none h]

theorem sendKeepalive_standing (sendOk : Bool) : SameStanding c (c.sendKeepalive P now sendOk).1 := by
  have hcounted : SameStanding c
      (if c.pendingKeepaliveSeq.isSome then { c with missedKeepalives := c.missedKeepalives + 1 } else c) := by
    split
    · exact ⟨rfl, Iff.rfl⟩
    · exact .refl c
  unfold sendKeepalive
  dsimp only
  generalize (if c.pendingKeepaliveSeq.isSome then { c with missedKeepalives := c.missedKeepalives + 1 } else c) =
    counted at *
  split
  · exact hcounted.trans ⟨rfl, Iff.rfl⟩
  · rename_i session hsession
    split
    · exact hcounted.trans (.of_some rfl hsession rfl)
    · split
      all_goals exact hcounted.trans (.of_some rfl hsession rfl)

theorem sendKeepalive_of_none (h : c.session = none) (now : Nat) (sendOk : Bool) :
    (c.sendKeepalive P now sendOk).2 = .error .notConnected := by
  have hcounted : (if c.pendingKeepaliveSeq.isSome then { c with missedKeepalives := c.missedKeepalives + 1 }
      else c).session = none := by
    split
    all_goals exact h
  rw [sendKeepalive]
  rw [hcounted]

theorem initiateRekey_standing (clientRandom : Block 32) (now : Nat) (sendOk : Bool) :
    SameStanding c (c.initiateRekey P settings.toRekeySettings coins clientRandom now sendOk).1 := by
  unfold initiateRekey
  split
  · exact .refl c
  · rename_i session hsession
    exact .of_some rfl hsession rfl

theorem initiateRekey_of_none (h : c.session = none) (coins : HybridKem.KeypairCoins) (clientRandom : Block 32)
    (now : Nat) (sendOk : Bool) :
    ∃ e, (c.initiateRekey P settings.toRekeySettings coins clientRandom now sendOk).2 = .error e := by
  rw [initiateRekey, h]
  exact ⟨_, rfl⟩

theorem sendRebind_standing (D : AddrDisplay) (newEndpoint : SocketAddr) (sendOk : Bool) :
    SameStanding c (c.sendRebind P D newEndpoint sendOk).1 := by
  have hsealed : SameStanding c (c.sealRebind P D newEndpoint).1 := by
    unfold sealRebind
    split
    · exact .refl c
    · exact sendPacket_standing ..
  unfold sendRebind
  split
  all_goals
    rename_i heq
    rw [heq] at hsealed
  · exact hsealed
  · split
    · exact hsealed.trans ⟨rfl, Iff.rfl⟩
    · exact hsealed

theorem sendRebind_of_none (h : c.session = none) (D : AddrDisplay) (newEndpoint : SocketAddr) (sendOk : Bool) :
    ∃ e, (c.sendRebind P D newEndpoint sendOk).2.2 = .error e := by
  have hsealed : ∃ e, c.sealRebind P D newEndpoint = (c, .error e) := by
    unfold sealRebind
    split
    · exact ⟨_, rfl⟩
    · exact ⟨_, sendPacket_of_none h ..⟩
  obtain ⟨e, hsealed⟩ := hsealed
  rw [sendRebind, hsealed]
  exact ⟨e, rfl⟩

/-! ### The loop -/

def Closes (P : Primitives) (c : Client) (now : Nat) (data : Bytes) : Prop :=
  inboundMsgType data = some .control ∧ ∃ session opened control, c.session = some session ∧
    (session.decryptPacket P.aes256Gcm now data maxPacketSize).2 = .ok opened ∧
      ControlMessage.fromBytes opened.2 = .ok control ∧ control.controlType = .close

structure Closed (c' : Client) : Prop where
  state : c'.state = .disconnected
  session : c'.session ≠ none

theorem processKeepaliveReply_standing :
    SameStanding c (c.processKeepaliveReply now payload).1 := by
  unfold processKeepaliveReply
  split
  · exact .refl c
  · exact ⟨rfl, Iff.rfl⟩

theorem processRekeyResponse_standing :
    SameStanding c (c.processRekeyResponse P settings payload).1 := by
  unfold processRekeyResponse
  split
  · exact .refl c
  split
  · exact .refl c
  split
  · exact ⟨rfl, Iff.rfl⟩
  split
  · exact ⟨rfl, Iff.rfl⟩
  · rename_i session hsession
    exact .of_some rfl hsession rfl

theorem processRebindAck_standing (signedPayload : Option SignedRebindAckPayload) :
    SameStanding c (c.processRebindAck P settings wallClock signedPayload).1 := by
  unfold processRebindAck
  split
  · exact .refl c
  split
  · split
    · exact ⟨rfl, Iff.rfl⟩
    · exact .refl c
  · split
    · exact .refl c
    · exact ⟨rfl, Iff.rfl⟩

theorem setState_state (state : ClientState) : (c.setState state).1.state = state := by
  unfold setState
  split
  · assumption
  · rfl

theorem setState_session (state : ClientState) : (c.setState state).1.session = c.session := by
  unfold setState
  split
  · rfl
  · rfl

theorem processControlMessage_standing :
    (∃ control, ControlMessage.fromBytes payload = .ok control ∧ control.controlType = .close) ∧
        (c.processControlMessage P settings wallClock payload).1 = (c.setState .disconnected).1 ∨
      (¬∃ control, ControlMessage.fromBytes payload = .ok control ∧ control.controlType = .close) ∧
        SameStanding c (c.processControlMessage P settings wallClock payload).1 := by
  unfold processControlMessage
  cases hcontrol : ControlMessage.fromBytes payload with
  | error e =>
    refine .inr ⟨?_, .refl c⟩
    rintro ⟨_, h, -⟩
    cases h
  | ok control =>
    have hother : control.controlType ≠ .close →
        ¬∃ control', Except.ok (ε := ProtocolError) control = .ok control' ∧ control'.controlType = .close := by
      rintro hne ⟨_, heq, htype⟩
      cases heq
      exact hne htype
    cases htype : control.controlType with
    | close => exact .inl ⟨⟨control, rfl, htype⟩, by simp only [htype]⟩
    | rebindAck =>
      refine .inr ⟨hother (by rw [htype]; nofun), ?_⟩
      simp only [htype]
      exact processRebindAck_standing ..
    | error | rebind | config =>
      refine .inr ⟨hother (by rw [htype]; nofun), ?_⟩
      simp only [htype]
      exact .refl c

theorem processPacket_standing {now : Nat} {wallClock : UInt64} {data : Bytes} :
    let c' := (c.processPacket P settings now wallClock data).1
    c.Closes P now data ∧ Closed c' ∨ ¬c.Closes P now data ∧ SameStanding c c' := by
  have houtcome := @processPacket_outcome P settings c now wallClock data
  generalize c.processPacket P settings now wallClock data = handled at houtcome ⊢
  obtain ⟨c', events, result⟩ := handled
  dsimp only at houtcome ⊢
  cases houtcome with
  | ignored hnot =>
    refine .inr ⟨?_, .refl c⟩
    rintro ⟨htype, session, opened', -, hlive, hdecrypt, -⟩
    have hopened : c.opened P.aes256Gcm now data = true :=
      @opened_of_processed P settings c now wallClock data .control _ session _ opened' htype rfl hlive
        (Prod.ext rfl hdecrypt)
    exact Bool.false_ne_true (hnot.symm.trans hopened)
  | @processed msgType _ session session' header payload htype hprocess hlive hdecrypt =>
    have hopened : SameStanding c { c with session := some session' } := .of_some rfl hlive rfl
    have hother : msgType ≠ .control → ¬c.Closes P now data :=
      fun hne h => hne (Option.some.inj (htype.symm.trans h.1))
    cases msgType with
    | data =>
      cases hprocess
      exact .inr ⟨hother nofun, hopened⟩
    | keepaliveReply =>
      cases hprocess
      exact .inr ⟨hother nofun, hopened.trans (processKeepaliveReply_standing now payload)⟩
    | rekeyResponse =>
      cases hprocess
      exact .inr ⟨hother nofun, hopened.trans (processRekeyResponse_standing payload)⟩
    | control =>
      cases hprocess
      rcases @processControlMessage_standing P settings { c with session := some session' } wallClock payload
        with ⟨⟨control, hcontrol, hclose⟩, heq⟩ | ⟨hstays, hstanding⟩
      · refine .inl ⟨⟨htype, session, (header, payload), control, hlive, by rw [hdecrypt], hcontrol, hclose⟩, ?_, ?_⟩
        · rw [heq, setState_state]
        · rw [heq, setState_session]
          nofun
      · refine .inr ⟨?_, hopened.trans hstanding⟩
        rintro ⟨-, session₁, opened', control, hlive₁, hdecrypt₁, hcontrol, hclose⟩
        cases hlive.symm.trans hlive₁
        rw [hdecrypt] at hdecrypt₁
        cases hdecrypt₁
        exact hstays ⟨control, hcontrol, hclose⟩
    | _ => cases hprocess

theorem clearStuckRekey_standing : SameStanding c (c.clearStuckRekey settings now) := by
  unfold clearStuckRekey
  split
  · exact .refl c
  split
  · exact ⟨rfl, Iff.rfl⟩
  · exact .refl c

theorem onTimeoutTick_standing : SameStanding c (c.onTimeoutTick settings now).client := by
  unfold onTimeoutTick
  split
  · exact clearStuckRekey_standing now
  · dsimp only
    split
    · exact .refl c
    · exact clearStuckRekey_standing now

theorem onRekeyTick_standing (clientRandom : Block 32)
    (sendOk : Bool) : SameStanding c (c.onRekeyTick P settings now coins clientRandom sendOk).client := by
  unfold onRekeyTick
  split
  · split
    · exact .refl c
    · rename_i session hsession
      exact .of_some rfl hsession rfl
  · exact .refl c

theorem onDatagram_standing {now : Nat} {wallClock : UInt64} {data : Bytes} {outbound : TrySend} :
    let c' := (c.onDatagram P settings now wallClock data outbound).client
    c.Closes P now data ∧ Closed c' ∨ ¬c.Closes P now data ∧ SameStanding c c' := by
  have hpacket := @processPacket_standing P settings c now wallClock data
  -- Whatever the packet gives, the client is the one that processing it has left, its rekey apart.
  have hsame : ∃ c', c' = (c.processPacket P settings now wallClock data).1 ∧
      ((c.onDatagram P settings now wallClock data outbound).client = c' ∨
        (c.onDatagram P settings now wallClock data outbound).client = c'.clearRekeyState) := by
    refine ⟨_, rfl, ?_⟩
    unfold onDatagram
    by_cases hnil : data = []
    · subst hnil
      exact .inl rfl
    · rw [if_neg hnil]
      generalize c.processPacket P settings now wallClock data = processed
      split
      · split
        · exact .inl rfl
        · split <;> exact .inl rfl
      · exact .inl rfl
      · split
        · exact .inr rfl
        · exact .inl rfl
  obtain ⟨c', rfl, heq⟩ := hsame
  rcases hpacket with ⟨hcloses, hclosed⟩ | ⟨hopen, hstanding⟩
  · refine .inl ⟨hcloses, ?_⟩
    rcases heq with heq | heq
    · rw [heq]
      exact hclosed
    · rw [heq]
      exact ⟨hclosed.state, hclosed.session⟩
  · refine .inr ⟨hopen, ?_⟩
    rcases heq with heq | heq
    · rw [heq]
      exact hstanding
    · rw [heq]
      exact ⟨hstanding.state, hstanding.session⟩

theorem branch_sent_of_none (h : c.session = none) (now : Nat) (wallClock : UInt64) (event : LoopEvent) :
    (c.branch P settings now wallClock event).sent = none := by
  cases event with
  | received data outbound =>
    rw [branch, onDatagram]
    split
    · rfl
    split
    · split
      · rfl
      · split <;> rfl
    · rfl
    · split <;> rfl
  | receiveFailed => rfl
  | keepaliveTick sendOk =>
    rw [branch]
    split
    · dsimp only
      rw [sendKeepalive_of_none h]
      rfl
    · rfl
  | timeoutTick =>
    rw [branch, onTimeoutTick]
    split
    · rfl
    · dsimp only
      split <;> rfl
  | rekeyTick coins clientRandom sendOk =>
    have hidle : c.needsRekey settings now = false := by
      rw [needsRekey, h, Bool.and_false]
    rw [branch, onRekeyTick, hidle]
    rfl

end Client

namespace ClientWorld
variable {P : Primitives} {D : AddrDisplay} {settings : ConnectSettings} {w : ClientWorld}

@[simp] theorem setState_state (state : ClientState) : (w.setState state).client.state = state :=
  Client.setState_state state

@[simp] theorem setState_session (state : ClientState) : (w.setState state).client.session = w.client.session :=
  Client.setState_session state

@[simp] theorem emit_client (event : ClientEvent) : (w.emit event).client = w.client := rfl

variable (now : Nat) (outcome : HandshakeOutcome) (call : WaitingCall)

@[simp] theorem wait_client : (w.wait call).client = w.client := rfl

def Dropped (w : ClientWorld) : Prop := w.client.state = .disconnected → w.client.session = none

theorem Dropped.of_state (h : w.client.state ≠ .disconnected) : w.Dropped := fun hstate => absurd hstate h

theorem Dropped.of_session (h : w.client.session = none) : w.Dropped := fun _ => h

theorem Dropped.of_standing {w' : ClientWorld} (h : w.Dropped) (hsame : Client.SameStanding w.client w'.client) :
    w'.Dropped := by
  intro hstate
  rw [hsame.state] at hstate
  exact hsame.session.mpr (h hstate)

/-! ### Steps -/

def connectRefused (w : ClientWorld) : Prop :=
  if w.client.state = .connected then w.tunnelInfo = none else w.connectInProgress = true

/-- No close message takes effect, and no session is held when a handshake fails or the last reconnect is refused. -/
def DropsFirst (P : Primitives) (settings : ConnectSettings) (w : ClientWorld) : ClientCall → Prop
  | .loop now _ (.received data _) => ¬w.client.Closes P now data
  | .resume i _ outcome =>
    match w.waiting[i]? with
    | some (.handshake _) => outcome.isOk = true ∨ w.client.session = none
    | some (.transportRebind _) =>
      w.connectRefused → w.shouldReconnect settings = true ∨ w.client.session = none
    | _ => True
  | _ => True

theorem dropped_connect (h : w.Dropped) (credentials : Option Credentials) (attempt : Option UInt32) :
    (w.connectWithCredentials credentials attempt).1.Dropped := by
  unfold connectWithCredentials
  split
  · exact h
  split
  · exact h
  split
  · exact h
  · exact .of_state (by simp)

theorem dropped_finishDisconnect : w.finishDisconnect.Dropped := by
  apply Dropped.of_session
  unfold finishDisconnect
  simp

theorem dropped_disconnect (h : w.Dropped) : (w.disconnect P).Dropped := by
  unfold disconnect
  split
  · exact h
  · have hsent := @Client.sendPacket_standing P (w.setState .disconnecting).client .control
      ControlMessage.close.toBytes (headerSize + ControlMessage.close.toBytes.length + tagSize + 32)
    dsimp only
    split
    · refine .of_state ?_
      rw [wait_client]
      rw [hsent.state, setState_state]
      nofun
    · exact dropped_finishDisconnect

theorem dropped_nextAttempt (h : w.Dropped) : (w.nextAttempt settings).Dropped := h

theorem dropped_beginAttempt (h : w.Dropped) (attempt : UInt32) : (w.beginAttempt attempt).1.Dropped := by
  unfold beginAttempt
  split
  · exact h
  · exact .of_session rfl

theorem dropped_endAttempt_iff (h : w.Dropped) (attempt : UInt32) (result : Except ClientError TunnelConfig) :
    (w.endAttempt settings attempt result).1.Dropped ↔
      (result.isOk = false → w.shouldReconnect settings = true ∨ w.client.session = none) := by
  cases result with
  | ok tunnelInfo => exact iff_of_true h nofun
  | error e =>
    rw [endAttempt]
    split
    · rename_i hmore
      exact iff_of_true (dropped_nextAttempt h) fun _ => .inl hmore
    · rename_i hlast
      constructor
      · intro hdropped _
        have hnone := hdropped (by simp)
        rw [emit_client, setState_session] at hnone
        exact .inr hnone
      · intro hcond
        obtain hmore | hnone := hcond rfl
        · exact absurd hmore hlast
        · exact .of_session (by simpa using hnone)

theorem dropped_reconnect_iff (h : w.Dropped) (attempt : UInt32) :
    (w.reconnect settings attempt).1.Dropped ↔
      (w.connectRefused → w.shouldReconnect settings = true ∨ w.client.session = none) := by
  unfold reconnect connectWithCredentials connectRefused
  by_cases hconnected : w.client.state = .connected
  · rw [if_pos hconnected, if_pos hconnected]
    rw [dropped_endAttempt_iff h]
    cases w.tunnelInfo with
    | none => exact ⟨fun hcond _ => hcond rfl, fun hcond _ => hcond rfl⟩
    | some tunnelInfo => exact iff_of_true nofun nofun
  · rw [if_neg hconnected, if_neg hconnected]
    cases hprogress : w.connectInProgress with
    | true =>
      rw [if_pos rfl]
      rw [dropped_endAttempt_iff h]
      exact ⟨fun hcond _ => hcond rfl, fun hcond _ => hcond rfl⟩
    | false =>
      rw [if_neg Bool.false_ne_true]
      exact iff_of_true (.of_state (by simp)) nofun

theorem finishConnect_error (e : ClientError) :
    (w.finishConnect now (.error e)).1.client.state = .disconnected ∧
      (w.finishConnect now (.error e)).1.client.session = w.client.session ∧
      (w.finishConnect now (.error e)).2 = .error e := by
  unfold finishConnect
  dsimp only
  split <;> simp

theorem endAttempt_error (hstate : w.client.state = .disconnected) (attempt : UInt32) (e : ClientError) :
    (w.endAttempt settings attempt (.error e)).1.client.state = .disconnected ∧
      (w.endAttempt settings attempt (.error e)).1.client.session = w.client.session := by
  rw [endAttempt]
  split
  · exact ⟨hstate, rfl⟩
  · exact ⟨setState_state .disconnected, setState_session .disconnected⟩

theorem dropped_handshake_iff {now : Nat} {outcome : HandshakeOutcome} (attempt : Option UInt32) :
    (w.resume settings now outcome (.handshake attempt)).1.Dropped ↔ outcome.isOk = true ∨ w.client.session = none := by
  unfold resume
  cases outcome with
  | ok result =>
    have hconnected : (w.finishConnect now (.ok result)).1.client.state ≠ .disconnected := by
      simp [finishConnect]
    refine iff_of_true ?_ (.inl rfl)
    cases attempt with
    | none => exact .of_state hconnected
    | some attempt => exact .of_state hconnected
  | error e =>
    obtain ⟨hstate, hsession, hresult⟩ := @finishConnect_error w now e
    have hend : ∀ w' : ClientWorld, w'.client.state = .disconnected → w'.client.session = w.client.session →
        (w'.Dropped ↔ w.client.session = none) := by
      intro w' hstate' hsession'
      rw [← hsession']
      exact ⟨fun hdropped => hdropped hstate', .of_session⟩
    rw [or_iff_right (by nofun : ¬(Except.error e : HandshakeOutcome).isOk = true)]
    cases attempt with
    | none => exact hend _ hstate hsession
    | some attempt =>
      dsimp only
      rw [hresult]
      obtain ⟨hstate', hsession'⟩ := @endAttempt_error settings _ hstate attempt e
      exact hend _ hstate' (hsession'.trans hsession)

theorem dropped_step_iff (h : w.Dropped) (call : ClientCall) :
    (w.step P D settings call).Dropped ↔ w.DropsFirst P settings call := by
  cases call with
  | connect credentials => exact iff_of_true (dropped_connect h credentials none) trivial
  | disconnect => exact iff_of_true (dropped_disconnect h) trivial
  | attemptReconnect =>
    refine iff_of_true ?_ trivial
    rw [step, attemptReconnect]
    split
    · exact dropped_nextAttempt (.of_state (by simp))
    · exact h
  | shutdown => exact iff_of_true (h.of_standing ⟨rfl, Iff.rfl⟩) trivial
  | sendData payload sendOk => exact iff_of_true (h.of_standing (Client.sendData_standing ..)) trivial
  | sendKeepalive now sendOk => exact iff_of_true (h.of_standing (Client.sendKeepalive_standing ..)) trivial
  | initiateRekey coins clientRandom now sendOk =>
    exact iff_of_true (h.of_standing (Client.initiateRekey_standing ..)) trivial
  | sendRebind newEndpoint sendOk => exact iff_of_true (h.of_standing (Client.sendRebind_standing ..)) trivial
  | loop now wallClock event =>
    cases event with
    | received data outbound =>
      rcases @Client.onDatagram_standing P settings.toClientSettings w.client now wallClock data outbound with
        ⟨hcloses, hclosed⟩ | ⟨hopen, hsame⟩
      · exact iff_of_false (fun hdropped => hclosed.session (hdropped hclosed.state)) (not_not_intro hcloses)
      · exact iff_of_true (h.of_standing hsame) hopen
    | receiveFailed => exact iff_of_true h trivial
    | keepaliveTick sendOk =>
      refine iff_of_true (h.of_standing ?_) trivial
      rw [step, Client.branch]
      split
      · exact Client.sendKeepalive_standing ..
      · exact .refl _
    | timeoutTick => exact iff_of_true (h.of_standing (Client.onTimeoutTick_standing ..)) trivial
    | rekeyTick coins clientRandom sendOk =>
      exact iff_of_true (h.of_standing (Client.onRekeyTick_standing ..)) trivial
  | resume i now outcome =>
    rw [step, DropsFirst]
    cases hcall : w.waiting[i]? with
    | none => exact iff_of_true h trivial
    | some call =>
      -- The calls that are left play no part.
      have h' : ({ w with waiting := w.waiting.eraseIdx i } : ClientWorld).Dropped := h
      cases call with
      | handshake attempt => exact dropped_handshake_iff attempt
      | backoff attempt => exact iff_of_true (dropped_beginAttempt h' attempt) trivial
      | transportRebind attempt => exact dropped_reconnect_iff h' attempt
      | closing => exact iff_of_true dropped_finishDisconnect trivial

/-! ### Silence -/

/-- A disconnected client holds no session, refuses what is asked of one, and the next step seals and sends nothing.
-/
structure Silent (P : Primitives) (D : AddrDisplay) (settings : ConnectSettings) (w : ClientWorld) : Prop where
  session : w.client.session = none
  sendData : ∀ payload sendOk, ∃ e, (w.client.sendData P payload sendOk).2 = .error e
  sendKeepalive : ∀ now sendOk, ∃ e, (w.client.sendKeepalive P now sendOk).2 = .error e
  initiateRekey : ∀ coins clientRandom now sendOk, ∃ e,
    (w.client.initiateRekey P settings.toRekeySettings coins clientRandom now sendOk).2 = .error e
  sendRebind : ∀ newEndpoint sendOk, ∃ e, (w.client.sendRebind P D newEndpoint sendOk).2.2 = .error e
  sent : ∀ call, (w.step P D settings call).sent = w.sent

theorem endAttempt_sent (attempt : UInt32) (result : Except ClientError TunnelConfig) :
    (w.endAttempt settings attempt result).1.sent = w.sent := by
  unfold endAttempt
  split
  · rfl
  split
  · rfl
  · rfl

theorem finishConnect_sent :
    (w.finishConnect now outcome).1.sent = w.sent := by
  unfold finishConnect
  split
  · rfl
  · split <;> rfl

theorem connectWithCredentials_sent (credentials : Option Credentials) (attempt : Option UInt32) :
    (w.connectWithCredentials credentials attempt).1.sent = w.sent := by
  unfold connectWithCredentials
  split
  · rfl
  split
  · rfl
  split
  · rfl
  · rfl

theorem resume_sent :
    (w.resume settings now outcome call).1.sent = w.sent := by
  cases call with
  | handshake attempt =>
    have hconnect := @finishConnect_sent w now outcome
    cases attempt with
    | none => exact hconnect
    | some attempt => exact (endAttempt_sent attempt _).trans hconnect
  | backoff attempt =>
    rw [resume, beginAttempt]
    split <;> rfl
  | transportRebind attempt =>
    have hconnect := @connectWithCredentials_sent w none (some attempt)
    rw [resume, reconnect]
    generalize w.connectWithCredentials none (some attempt) = called at hconnect ⊢
    obtain ⟨w', _ | result⟩ := called
    · exact hconnect
    · exact (endAttempt_sent attempt result).trans hconnect
  | closing => rfl

theorem carry_sent_of_error {r : Client × Except ClientError Bytes} (h : ∃ e, r.2 = .error e) :
    (w.carry r).sent = w.sent := by
  obtain ⟨e, he⟩ := h
  rw [carry, he]
  exact List.append_nil _

theorem silent_of_session (hstate : w.client.state = .disconnected) (h : w.client.session = none) :
    w.Silent P D settings where
  session := h
  sendData payload sendOk := ⟨_, Client.sendData_of_none h payload sendOk⟩
  sendKeepalive now sendOk := ⟨_, Client.sendKeepalive_of_none h now sendOk⟩
  initiateRekey coins clientRandom now sendOk :=
    @Client.initiateRekey_of_none P settings.toClientSettings w.client h coins clientRandom now sendOk
  sendRebind newEndpoint sendOk := Client.sendRebind_of_none h D newEndpoint sendOk
  sent call := by
    cases call with
    | connect credentials => exact connectWithCredentials_sent credentials none
    | disconnect => rw [step, disconnect, if_pos hstate]
    | attemptReconnect =>
      rw [step, attemptReconnect]
      split <;> rfl
    | shutdown => rfl
    | sendData payload sendOk => exact carry_sent_of_error ⟨_, Client.sendData_of_none h payload sendOk⟩
    | sendKeepalive now sendOk => exact carry_sent_of_error ⟨_, Client.sendKeepalive_of_none h now sendOk⟩
    | initiateRekey coins clientRandom now sendOk =>
      exact carry_sent_of_error
        (@Client.initiateRekey_of_none P settings.toClientSettings w.client h coins clientRandom now sendOk)
    | sendRebind newEndpoint sendOk => exact carry_sent_of_error (Client.sendRebind_of_none h D newEndpoint sendOk)
    | loop now wallClock event =>
      have hquiet := @Client.branch_sent_of_none P settings.toClientSettings w.client h now wallClock event
      rw [step, hquiet]
      exact List.append_nil _
    | resume i now outcome =>
      rw [step]
      split
      · rfl
      · exact resume_sent ..

/-- Along every run of a client, disconnected means silent just if the session is always dropped first. -/
theorem disconnected_silent_iff (P : Primitives) (D : AddrDisplay) (settings : ConnectSettings)
    (calls : List ClientCall) :
    (∀ n, let w := exec (step P D settings) new (calls.take n)
        w.client.state = .disconnected → w.Silent P D settings) ↔
      Meets (DropsFirst P settings) (step P D settings) new calls := by
  have hsilent : ∀ w : ClientWorld, (w.client.state = .disconnected → w.Silent P D settings) ↔ w.Dropped :=
    fun w => ⟨fun h hstate => (h hstate).session, fun h hstate => silent_of_session hstate (h hstate)⟩
  have hgood : ∀ (w : ClientWorld) call, True → w.Dropped → True →
      ((w.step P D settings call).Dropped ↔ w.DropsFirst P settings call) :=
    fun w call _ h _ => dropped_step_iff h call
  have hmeets := exec_always_iff_meets (fun _ _ _ => trivial) hgood calls new
    (meets_of_forall (fun _ _ _ => trivial) new) trivial (.of_session rfl)
  rw [← hmeets]
  exact forall_congr' fun n => hsilent _

end ClientWorld

namespace SilenceSample
open ClientWorld ForgedSample

def connectSettings : ConnectSettings := ⟨settings, true, 0⟩

def tunnel : TunnelConfig :=
  ⟨(ipv4 10 0 0 2), (ipv4 255 255 255 0), (ipv4 10 0 0 1), [], none, none, none, [], 1420⟩

def closePacket : Bytes :=
  ((Session.new 42 session.keys.swap 0).encryptPacket primitives.aes256Gcm .control ControlMessage.close.toBytes
    maxPacketSize).2.2.toOption.getD []

def closedByServer : List ClientCall :=
  [.connect none, .resume 0 0 (.ok (42, session.keys, tunnel)), .loop 1 1700000000 (.received closePacket .sent)]

/-- The client is disconnected, but it holds its session still and sends data with it. -/
theorem closed_client_still_sends :
    let w := exec (step primitives .fields connectSettings) new closedByServer
    w.client.state = .disconnected ∧ w.client.session.isSome = true ∧ w.sent = [] ∧
      (w.client.sendData primitives [1, 2, 3] true).2.isOk = true ∧
      (w.step primitives .fields connectSettings (.sendData [1, 2, 3] true)).sent.length = 1 := by
  decide +kernel

end SilenceSample

end HpnVpn
