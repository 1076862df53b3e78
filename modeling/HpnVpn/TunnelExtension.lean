import HpnVpn.Rebinding

/-! The tunnel extension: tasks that receive, send, and keep the connection alive and start rekeys.  None of them
gives up a rekey. -/
namespace HpnVpn
open Wire Runs

/-! ### Responses and the pending rekey -/

def ClientRekey.takes (P : Primitives) (level : SecurityLevel) (h : ClientRekey) (payload : Bytes) : Bool :=
  match RekeyResponse.fromBytesWithLevel payload level with
  | .error _ => false
  | .ok response => (h.processResponse P response).2.isOk

theorem ClientRekey.takes_processResponse {P : Primitives} {level : SecurityLevel} {h : ClientRekey} (r : RekeyResponse)
    (payload : Bytes) : (h.processResponse P r).1.takes P level payload = false := by
  have hspent : (h.processResponse P r).1.clientKeypair = none := by
    unfold processResponse
    cases hkeypair : h.clientKeypair with
    | none => exact hkeypair
    | some keypair => cases h.clientRandom <;> rfl
  unfold takes
  cases RekeyResponse.fromBytesWithLevel payload level with
  | error e => rfl
  | ok response =>
    dsimp only
    rw [processResponse, hspent]
    rfl

namespace Client
variable {P : Primitives} {settings : ClientSettings} {c c' : Client}

def takes (P : Primitives) (settings : ClientSettings) (c : Client) (payload : Bytes) : Bool :=
  c.rekeyHandler.any fun handler => handler.takes P settings.securityLevel payload

def readable (settings : ClientSettings) (payload : Bytes) : Bool :=
  (RekeyResponse.fromBytesWithLevel payload settings.securityLevel).isOk

theorem readable_of_takes {payload : Bytes} (h : c.takes P settings payload = true) :
    readable settings payload = true := by
  unfold takes at h
  cases hhandler : c.rekeyHandler with
  | none =>
    rw [hhandler] at h
    cases h
  | some handler =>
    rw [hhandler, Option.any_some, ClientRekey.takes] at h
    rw [readable]
    cases hparse : RekeyResponse.fromBytesWithLevel payload settings.securityLevel with
    | error e =>
      rw [hparse] at h
      cases h
    | ok response => rfl

structure SameRekey (c c' : Client) : Prop where
  handler : c'.rekeyHandler = c.rekeyHandler
  inProgress : c'.rekeyInProgress = c.rekeyInProgress
  session : c'.session.isSome = c.session.isSome

theorem SameRekey.refl (c : Client) : c.SameRekey c := ⟨rfl, rfl, rfl⟩

theorem SameRekey.takes_eq (h : c.SameRekey c') (payload : Bytes) :
    c'.takes P settings payload = c.takes P settings payload := by
  rw [takes, takes, h.handler]

/-- What becomes of a response: it completes the rekey, cannot be read, or uses up the request. -/
inductive ResponseOutcome (P : Primitives) (settings : ClientSettings) (c : Client) (payload : Bytes) (c' : Client)
    (events : List ClientEvent) : Prop
  | completed (htakes : c.takes P settings payload = true) (hdone : c'.rekeyInProgress = false)
      (hsession : c'.session.isSome = true) (hrekeyed : rekeyed events = true)
  | unread (hunreadable : readable settings payload = false) (hsame : c.SameRekey c') (hnot : rekeyed events = false)
  | spent (hreadable : readable settings payload = true) (hrefused : c.takes P settings payload = false)
      (hpending : c'.rekeyInProgress = c.rekeyInProgress) (hsession : c'.session.isSome = true)
      (hspent : ∀ p, c'.takes P settings p = false) (hnot : rekeyed events = false)

theorem processRekeyResponse_outcome (hlive : c.session.isSome = true) (payload : Bytes) :
    ResponseOutcome P settings c payload (c.processRekeyResponse P settings payload).1
      (c.processRekeyResponse P settings payload).2.1 := by
  obtain ⟨session, hsession⟩ := Option.isSome_iff_exists.mp hlive
  unfold processRekeyResponse
  cases hparse : RekeyResponse.fromBytesWithLevel payload settings.securityLevel with
  | error e =>
    refine .unread ?_ (.refl c) rfl
    rw [readable, hparse]
    rfl
  | ok response =>
    have hreadable : readable settings payload = true := by
      rw [readable, hparse]
      rfl
    cases hhandler : c.rekeyHandler with
    | none =>
      have hnone : ∀ p, c.takes P settings p = false := by
        intro p
        rw [takes, hhandler]
        rfl
      exact .spent hreadable (hnone payload) rfl hlive hnone rfl
    | some handler =>
      have htakes : c.takes P settings payload = (handler.processResponse P response).2.isOk := by
        rw [takes, hhandler, Option.any_some, ClientRekey.takes, hparse]
      have hspent := fun p => @ClientRekey.takes_processResponse P settings.securityLevel handler response p
      dsimp only
      generalize handler.processResponse P response = result at htakes hspent
      obtain ⟨handler', e | newKeys⟩ := result
      · exact .spent hreadable htakes rfl hlive hspent rfl
      · rw [hsession]
        exact .completed htakes rfl rfl rfl

/-! ### Packets -/

theorem SameRekey.of_some {session session' : Session} (hlive : c.session = some session)
    (hlive' : c'.session = some session') (hhandler : c'.rekeyHandler = c.rekeyHandler)
    (hpending : c'.rekeyInProgress = c.rekeyInProgress) : c.SameRekey c' :=
  ⟨hhandler, hpending, by rw [hlive, hlive', Option.isSome_some, Option.isSome_some]⟩

theorem SameRekey.trans {c'' : Client} (h : c.SameRekey c') (h' : c'.SameRekey c'') : c.SameRekey c'' :=
  ⟨h'.handler.trans h.handler, h'.inProgress.trans h.inProgress, h'.session.trans h.session⟩

theorem sameRekey_processKeepaliveReply (c : Client) (now : Nat) (payload : Bytes) :
    c.SameRekey (c.processKeepaliveReply now payload).1 := by
  unfold processKeepaliveReply
  split
  · exact .refl c
  · exact ⟨rfl, rfl, rfl⟩

theorem sameRekey_processControlMessage (c : Client) (wallClock : UInt64) (payload : Bytes) :
    c.SameRekey (c.processControlMessage P settings wallClock payload).1 := by
  unfold processControlMessage
  split
  · exact .refl c
  dsimp only
  split
  · rw [setState_eq]
    exact ⟨rfl, rfl, rfl⟩
  · exact .refl c
  · unfold processRebindAck
    split
    · exact .refl c
    split
    · split
      · exact ⟨rfl, rfl, rfl⟩
      · exact .refl c
    · split
      · exact .refl c
      · exact ⟨rfl, rfl, rfl⟩
  all_goals exact .refl c

theorem SameRekey.outcome {payload : Bytes} {c'' : Client} {events : List ClientEvent} (h : c.SameRekey c')
    (houtcome : ResponseOutcome P settings c' payload c'' events) : ResponseOutcome P settings c payload c'' events := by
  have htakes := @SameRekey.takes_eq P settings c c' h payload
  cases houtcome with
  | completed haccepted hdone hsession hrekeyed => exact .completed (htakes.symm.trans haccepted) hdone hsession hrekeyed
  | unread hunreadable hsame hnot => exact .unread hunreadable (h.trans hsame) hnot
  | spent hreadable hrefused hpending hsession hspent hnot =>
    exact .spent hreadable (htakes.symm.trans hrefused) (hpending.trans h.inProgress) hsession hspent hnot

def opensResponse (A : Aes256Gcm) (c : Client) (now : Nat) (data : Bytes) : Option Bytes :=
  if inboundMsgType data = some .rekeyResponse then
    c.session.bind fun session => (session.decryptPacket A now data maxPacketSize).2.toOption.map Prod.snd
  else none

theorem processPacket_rekey (now : Nat) (wallClock : UInt64) (data : Bytes) :
    let r := c.processPacket P settings now wallClock data
    (c.opensResponse P.aes256Gcm now data = none ∧ c.SameRekey r.1 ∧ rekeyed r.2.1 = false) ∨
      ∃ payload, c.opensResponse P.aes256Gcm now data = some payload ∧
        ResponseOutcome P settings c payload r.1 r.2.1 := by
  have houtcome := @processPacket_outcome P settings c now wallClock data
  generalize c.processPacket P settings now wallClock data = handled at houtcome ⊢
  obtain ⟨c', events, result⟩ := handled
  dsimp only at houtcome ⊢
  cases houtcome with
  | ignored hnot =>
    refine .inl ⟨?_, .refl c, rfl⟩
    unfold opensResponse
    split
    · rename_i htype
      rw [opened, htype] at hnot
      cases hlive : c.session with
      | none => rfl
      | some session =>
        rw [hlive, Option.any_some] at hnot
        rw [Option.bind_some]
        generalize (session.decryptPacket P.aes256Gcm now data maxPacketSize).2 = opened at hnot
        cases opened with
        | error e => rfl
        | ok _ => cases hnot
    · rfl
  | @processed msgType _ session session' header payload htype hprocess hlive hdecrypt =>
    have hcounted : c.SameRekey { c with session := some session' } := .of_some hlive rfl rfl rfl
    have hother : msgType ≠ .rekeyResponse → c.opensResponse P.aes256Gcm now data = none := by
      intro hne
      rw [opensResponse, htype, if_neg (fun heq => hne (Option.some.inj heq))]
    cases msgType with
    | data =>
      cases hprocess
      exact .inl ⟨hother (by decide), hcounted, rfl⟩
    | keepaliveReply =>
      cases hprocess
      exact .inl ⟨hother (by decide), hcounted.trans (sameRekey_processKeepaliveReply _ now payload),
        (rekeyed_keepaliveReply _ now payload).2⟩
    | control =>
      cases hprocess
      exact .inl ⟨hother (by decide), hcounted.trans (sameRekey_processControlMessage _ wallClock payload),
        (rekeyed_controlMessage P settings _ wallClock payload).2⟩
    | rekeyResponse =>
      cases hprocess
      refine .inr ⟨payload, ?_, ?_⟩
      · rw [opensResponse, htype, if_pos rfl, hlive, Option.bind_some, hdecrypt]
        rfl
      · exact hcounted.outcome (processRekeyResponse_outcome rfl payload)
    | _ => cases hprocess

theorem sameRekey_sendPacket (c : Client) (msgType : MessageType) (payload : Bytes) (outputLen : Nat) :
    c.SameRekey (c.sendPacket P msgType payload outputLen).1 := by
  unfold sendPacket
  split
  · exact .refl c
  · rename_i session hlive
    split
    all_goals exact .of_some hlive rfl rfl rfl

theorem sameRekey_sendData (c : Client) (payload : Bytes) (sendOk : Bool) :
    c.SameRekey (c.sendData P payload sendOk).1 := by
  have hsame := @sameRekey_sendPacket P c .data payload maxPacketSize
  unfold sendData
  generalize c.sendPacket P .data payload maxPacketSize = result at hsame
  obtain ⟨c', e | packet⟩ := result
  all_goals exact hsame

theorem sameRekey_sendKeepalive (c : Client) (now : Nat) (sendOk : Bool) :
    c.SameRekey (c.sendKeepalive P now sendOk).1 := by
  have hcounted : c.SameRekey
      (if c.pendingKeepaliveSeq.isSome then { c with missedKeepalives := c.missedKeepalives + 1 } else c) := by
    split
    · exact ⟨rfl, rfl, rfl⟩
    · exact .refl c
  unfold sendKeepalive
  dsimp only
  split
  · exact hcounted.trans ⟨rfl, rfl, rfl⟩
  · rename_i session hlive
    split
    · exact hcounted.trans (.of_some hlive rfl rfl rfl)
    · split
      all_goals exact hcounted.trans (.of_some hlive rfl rfl rfl)

/-! ### Attempts -/

/-- The request an attempt makes, and what it keeps to check the response with. -/
def rekeyRequest (P : Primitives) (settings : RekeySettings) (session : Session) (coins : HybridKem.KeypairCoins)
    (clientRandom : Block 32) : ClientRekey × RekeyMessage :=
  (ClientRekey.withSecurityLevel settings.serverPublicKey session.sessionId settings.securityLevel).createRequest P coins
    clientRandom

def sealsRequest (P : Primitives) (session : Session) (request : RekeyMessage) : Bool :=
  (session.encryptPacket P.aes256Gcm .rekey request.toBytes
    (headerSize + request.toBytes.length + tagSize + 32)).2.2.isOk

inductive AttemptOutcome (P : Primitives) (settings : RekeySettings) (c : Client) (coins : HybridKem.KeypairCoins)
    (clientRandom : Block 32) (sendOk : Bool) : Client → Except ClientError Bytes → Prop
  | refused (hpending : c.rekeyInProgress = true) :
      AttemptOutcome P settings c coins clientRandom sendOk c (.error (.invalidState "rekey already in progress"))
  | noSession (hfree : c.rekeyInProgress = false) (hnone : c.session = none) :
      AttemptOutcome P settings c coins clientRandom sendOk c (.error .notConnected)
  | failed {session : Session} {c' : Client} {e : ClientError} (hfree : c.rekeyInProgress = false)
      (hlive : c.session = some session)
      (hnot : (sealsRequest P session (rekeyRequest P settings session coins clientRandom).2 && sendOk) = false)
      (hfree' : c'.rekeyInProgress = false) (hlive' : c'.session.isSome = true)
      (hreason : e ≠ .invalidState "rekey already in progress") :
      AttemptOutcome P settings c coins clientRandom sendOk c' (.error e)
  | started {session : Session} {c' : Client} {packet : Bytes} (hfree : c.rekeyInProgress = false)
      (hlive : c.session = some session)
      (hsealed : sealsRequest P session (rekeyRequest P settings session coins clientRandom).2 = true)
      (hsent : sendOk = true) (hpending : c'.rekeyInProgress = true)
      (hhandler : c'.rekeyHandler = some (rekeyRequest P settings session coins clientRandom).1)
      (hlive' : c'.session.isSome = true) :
      AttemptOutcome P settings c coins clientRandom sendOk c' (.ok packet)

theorem initiateRekey_outcome (settings : RekeySettings) (coins : HybridKem.KeypairCoins) (clientRandom : Block 32)
    (now : Nat) (sendOk : Bool) :
    AttemptOutcome P settings c coins clientRandom sendOk
      (c.initiateRekey P settings coins clientRandom now sendOk).1
      (c.initiateRekey P settings coins clientRandom now sendOk).2 := by
  unfold initiateRekey
  cases hlive : c.session with
  | none =>
    cases hpending : c.rekeyInProgress with
    | true => exact .refused hpending
    | false => exact .noSession hpending hlive
  | some session =>
    have hsame : c.setConnected (c.connected session) = c := by
      simp only [setConnected, connected, ← hlive]
    dsimp only
    unfold VpnClient.initiateRekey
    cases hpending : c.rekeyInProgress with
    | true =>
      rw [if_pos (show (c.connected session).rekeyInProgress = true from hpending)]
      rw [hsame]
      exact .refused hpending
    | false =>
      rw [if_neg (show ¬(c.connected session).rekeyInProgress = true from fun h =>
        Bool.false_ne_true (hpending.symm.trans h))]
      dsimp only [connected]
      rw [← rekeyRequest]
      split
      case h_1 session' calls e heq =>
          refine .failed hpending hlive ?_ hpending rfl nofun
          rw [sealsRequest, heq]
          rfl
      case h_2 session' calls packet heq =>
          have hseals : sealsRequest P session (rekeyRequest P settings session coins clientRandom).2 = true := by
            rw [sealsRequest, heq]
            rfl
          cases sendOk with
          | false => exact .failed hpending hlive (Bool.and_false _) rfl rfl nofun
          | true => exact .started hpending hlive hseals rfl rfl rfl rfl

theorem initiateRekey_refused (hpending : c.rekeyInProgress = true) (settings : RekeySettings)
    (coins : HybridKem.KeypairCoins) (clientRandom : Block 32) (now : Nat) (sendOk : Bool) :
    (c.initiateRekey P settings coins clientRandom now sendOk).2 =
      .error (.invalidState "rekey already in progress") := by
  have houtcome := @initiateRekey_outcome P c settings coins clientRandom now sendOk
  generalize c.initiateRekey P settings coins clientRandom now sendOk = r at houtcome ⊢
  obtain ⟨c', result⟩ := r
  cases houtcome with
  | refused => rfl
  | noSession hfree | failed hfree | started hfree => cases hpending.symm.trans hfree

end Client

/-! ### The tasks -/

/-- The age of the session in whole seconds against the interval. -/
def Client.shouldRekey (settings : ClientSettings) (c : Client) (now : Nat) : Bool :=
  c.session.any fun session => settings.rekeyInterval / 1000 ≤ (now - session.createdAt) / 1000

/-- Where the keep-alive loop is: before its tick, or in a pass. -/
inductive LoopPhase
  | tick
  | timeout
  | due
  | forced
  | ended
deriving DecidableEq

/-- The client, the loop, the flags of the extension, and the rekey responses that may still arrive, by what they open
to. -/
structure TunnelExtension where
  client : Client
  phase : LoopPhase
  shutdown : Bool
  rekeyRequested : Bool
  underWay : List Bytes

/-- What a stretch of the loop finds: the time, whether its sends succeed, the session of a reconnect, randomness and
the answer under way. -/
structure LoopInputs where
  now : Nat
  keepaliveOk : Bool
  reconnected : Option (SessionId × SessionKeys)
  coins : HybridKem.KeypairCoins
  clientRandom : Block 32
  sendOk : Bool
  answer : Option Bytes

/-- The loop goes on; a response arrives or is lost; another datagram arrives; a packet is sent; a rekey is asked for;
the tunnel is stopped. -/
inductive ExtensionStep
  | loop (x : LoopInputs)
  | arrive (j : Nat)
  | lose (j : Nat)
  | receive (now : Nat) (wallClock : UInt64) (data : Bytes)
  | sendData (payload : Bytes) (sendOk : Bool)
  | forceRekey
  | beginStop
  | stop

namespace TunnelExtension
variable {P : Primitives} {settings : ConnectSettings} {e : TunnelExtension}

def start (session : Session) : TunnelExtension where
  client := { ClientWorld.new.client with state := .connected, session := some session }
  phase := .tick
  shutdown := false
  rekeyRequested := false
  underWay := []

def attempt (P : Primitives) (settings : ConnectSettings) (e : TunnelExtension) (x : LoopInputs) : TunnelExtension :=
  match e.client.initiateRekey P settings.toRekeySettings x.coins x.clientRandom x.now x.sendOk with
  | (client, .ok _) => { e with client, underWay := e.underWay ++ x.answer.toList }
  | (client, .error _) => { e with client }

/-- The connection is dead: reconnect or give up.  What is under way does not open under a new session. -/
def onDead (settings : ConnectSettings) (e : TunnelExtension) (x : LoopInputs) : TunnelExtension :=
  if settings.autoReconnect then
    match x.reconnected with
    | some (sessionId, keys) =>
      { e with client := e.client.reconnected (Session.new sessionId keys x.now), phase := .due, underWay := [] }
    | none =>
      { e with client := { e.client.resetForReconnect with session := none, state := .disconnected }, phase := .ended }
  else { e with phase := .ended }

def loop (P : Primitives) (settings : ConnectSettings) (e : TunnelExtension) (x : LoopInputs) : TunnelExtension :=
  match e.phase with
  | .tick =>
    if e.shutdown then { e with phase := .ended }
    else if e.client.shouldSendKeepalive settings.toClientSettings x.now then
      { e with client := (e.client.sendKeepalive P x.now x.keepaliveOk).1, phase := .timeout }
    else { e with phase := .timeout }
  | .timeout =>
    if (e.client.checkKeepaliveTimeout settings.toClientSettings x.now).isSome &&
        e.client.isConnectionDead settings.toClientSettings then e.onDead settings x
    else { e with phase := .due }
  | .due =>
    if e.client.shouldRekey settings.toClientSettings x.now then { e with phase := .forced }.attempt P settings x
    else { e with phase := .forced }
  | .forced =>
    if e.rekeyRequested then { e with phase := .tick, rekeyRequested := false }.attempt P settings x
    else { e with phase := .tick }
  | .ended => e

def step (P : Primitives) (settings : ConnectSettings) (e : TunnelExtension) : ExtensionStep → TunnelExtension
  | .loop x => e.loop P settings x
  | .arrive j =>
    match e.underWay[j]?, e.client.session with
    | some payload, some _ =>
      let (client, events, _) := e.client.processRekeyResponse P settings.toClientSettings payload
      -- New keys do not open what was sealed under the old ones.
      { e with client, underWay := if Client.rekeyed events then [] else e.underWay.eraseIdx j }
    | _, _ => { e with underWay := e.underWay.eraseIdx j }
  | .lose j => { e with underWay := e.underWay.eraseIdx j }
  | .receive now wallClock data =>
    let (client, events, _) := e.client.processPacket P settings.toClientSettings now wallClock data
    { e with client, underWay := if Client.rekeyed events then [] else e.underWay }
  | .sendData payload sendOk => { e with client := (e.client.sendData P payload sendOk).1 }
  | .forceRekey => { e with rekeyRequested := true }
  | .beginStop => { e with shutdown := true }
  | .stop =>
    { e with client := { e.client.clearRekeyState with session := none, state := .disconnected }, phase := .ended }

/-! ### A rekey that can be started -/

/-- The extension has not ended and has a session. -/
def Live (e : TunnelExtension) : Prop := e.phase ≠ .ended ∧ e.client.session.isSome = true

/-- No attempt is refused because of a rekey in progress. -/
def Ready (P : Primitives) (settings : ConnectSettings) (e : TunnelExtension) : Prop :=
  e.Live ∧ ∀ coins clientRandom now sendOk,
    (e.client.initiateRekey P settings.toRekeySettings coins clientRandom now sendOk).2 ≠
      .error (.invalidState "rekey already in progress")

/-- No step but a datagram that nobody asked for, or a new session in place of this one. -/
def Expected (settings : ConnectSettings) : ExtensionStep → Prop
  | .receive .. => False
  | .loop x => settings.autoReconnect = true → x.reconnected = none
  | _ => True

/-- The session can still get to where a rekey is started, with nothing but what is under way. -/
def CanRekey (P : Primitives) (settings : ConnectSettings) : TunnelExtension → Prop :=
  CanReach (Expected settings) (step P settings) (Ready P settings)

def Awaits (P : Primitives) (settings : ConnectSettings) (c : Client) (underWay : List Bytes) : Prop :=
  ∃ payload ∈ underWay, c.takes P settings.toClientSettings payload = true

theorem ready_iff : e.Ready P settings ↔ e.Live ∧ e.client.rekeyInProgress = false := by
  refine and_congr_right fun hlive => ?_
  constructor
  · intro h
    refine Bool.eq_false_of_not_eq_true fun hpending => ?_
    exact h ⟨default, default⟩ default 0 true (Client.initiateRekey_refused hpending ..)
  · intro hfree coins clientRandom now sendOk
    have houtcome := @Client.initiateRekey_outcome P e.client settings.toRekeySettings coins clientRandom now sendOk
    generalize e.client.initiateRekey P settings.toRekeySettings coins clientRandom now sendOk = r at *
    obtain ⟨c', result⟩ := r
    cases houtcome with
    | refused hpending => cases hpending.symm.trans hfree
    | noSession => nofun
    | failed _ _ _ _ _ hreason => exact fun heq => hreason (Except.error.inj heq)
    | started => nofun

def Hopeful (P : Primitives) (settings : ConnectSettings) (e : TunnelExtension) : Prop :=
  e.Live → e.client.rekeyInProgress = false ∨ Awaits P settings e.client e.underWay

def Stuck (P : Primitives) (settings : ConnectSettings) (e : TunnelExtension) : Prop :=
  e.Live → e.client.rekeyInProgress = true ∧ ¬Awaits P settings e.client e.underWay

theorem Awaits.of_subset {c c' : Client} {underWay underWay' : List Bytes} (h : Awaits P settings c underWay)
    (hsub : underWay ⊆ underWay') (hsame : c.SameRekey c') : Awaits P settings c' underWay' := by
  obtain ⟨payload, hmem, htakes⟩ := h
  exact ⟨payload, hsub hmem, (hsame.takes_eq payload).trans htakes⟩

theorem Hopeful.of_same {e' : TunnelExtension} (h : e.Hopeful P settings) (hlive : e'.Live → e.Live)
    (hsame : e.client.SameRekey e'.client) (hsub : e.underWay ⊆ e'.underWay) : e'.Hopeful P settings := by
  intro hlive'
  refine (h (hlive hlive')).imp ?_ ?_
  · exact hsame.inProgress.trans
  · exact fun hawaits => hawaits.of_subset hsub hsame

theorem Stuck.of_same {e' : TunnelExtension} (h : e.Stuck P settings) (hlive : e'.Live → e.Live)
    (hsame : e.client.SameRekey e'.client) (hsub : e'.underWay ⊆ e.underWay) : e'.Stuck P settings := by
  intro hlive'
  obtain ⟨hpending, hnone⟩ := h (hlive hlive')
  have hback : e'.client.SameRekey e.client := ⟨hsame.handler.symm, hsame.inProgress.symm, hsame.session.symm⟩
  exact ⟨hsame.inProgress.trans hpending, fun hawaits => hnone (hawaits.of_subset hsub hback)⟩

/-! ### What the loop does -/

def attempts (settings : ConnectSettings) (e : TunnelExtension) (x : LoopInputs) : Bool :=
  match e.phase with
  | .due => e.client.shouldRekey settings.toClientSettings x.now
  | .forced => e.rekeyRequested
  | _ => false

/-- What a stretch of the loop has to do with the rekey: nothing, the session is replaced or gone, or an attempt. -/
inductive LoopOutcome (P : Primitives) (settings : ConnectSettings) (e : TunnelExtension) (x : LoopInputs)
    (e' : TunnelExtension) : Prop
  | kept (hnot : e.attempts settings x = false) (hlive : e'.Live → e.Live) (hsame : e.client.SameRekey e'.client)
      (hunderWay : e'.underWay = e.underWay)
  | replaced (hnot : e.attempts settings x = false) (hauto : settings.autoReconnect = true)
      (hgiven : x.reconnected ≠ none) (hfree : e'.client.rekeyInProgress = false)
  | gone (hnot : e.attempts settings x = false) (hdead : ¬e'.Live)
  | attempted {result : Except ClientError Bytes} (hattempts : e.attempts settings x = true)
      (hphase : e.phase ≠ .ended) (hphase' : e'.phase ≠ .ended)
      (houtcome : Client.AttemptOutcome P settings.toRekeySettings e.client x.coins x.clientRandom x.sendOk e'.client
        result)
      (hunderWay : e'.underWay = e.underWay ++ if result.isOk then x.answer.toList else [])

variable (x : LoopInputs)

theorem attempt_outcome (hattempts : e.attempts settings x = true) (hphase : e.phase ≠ .ended)
    {waiting : TunnelExtension} (hclient : waiting.client = e.client) (hunderWay : waiting.underWay = e.underWay)
    (hphase' : waiting.phase ≠ .ended) : LoopOutcome P settings e x (waiting.attempt P settings x) := by
  have houtcome := @Client.initiateRekey_outcome P e.client settings.toRekeySettings x.coins x.clientRandom x.now x.sendOk
  unfold attempt
  rw [hclient]
  generalize e.client.initiateRekey P settings.toRekeySettings x.coins x.clientRandom x.now x.sendOk = r at houtcome ⊢
  obtain ⟨c', err | packet⟩ := r
  · refine .attempted hattempts hphase hphase' houtcome ?_
    rw [hunderWay]
    exact (List.append_nil _).symm
  · refine .attempted hattempts hphase hphase' houtcome ?_
    rw [hunderWay]
    rfl

theorem onDead_outcome (hnot : e.attempts settings x = false) :
    LoopOutcome P settings e x (e.onDead settings x) := by
  unfold onDead
  split
  · rename_i hauto
    split
    · rename_i sessionId keys hgiven
      exact .replaced hnot hauto (by rw [hgiven]; nofun) rfl
    · exact .gone hnot fun hlive => hlive.1 rfl
  · exact .gone hnot fun hlive => hlive.1 rfl

theorem loop_outcome : LoopOutcome P settings e x (e.loop P settings x) := by
  unfold loop
  cases hphase : e.phase with
  | tick =>
    have hnot : e.attempts settings x = false := by rw [attempts, hphase]
    have hrunning : e.phase ≠ .ended := by rw [hphase]; nofun
    dsimp only
    split
    · exact .gone hnot fun hlive => hlive.1 rfl
    split
    · have hsame := @Client.sameRekey_sendKeepalive P e.client x.now x.keepaliveOk
      exact .kept hnot (fun hlive => ⟨hrunning, hsame.session.symm.trans hlive.2⟩) hsame rfl
    · exact .kept hnot (fun hlive => ⟨hrunning, hlive.2⟩) (.refl _) rfl
  | timeout =>
    have hnot : e.attempts settings x = false := by rw [attempts, hphase]
    dsimp only
    split
    · exact onDead_outcome x hnot
    · exact .kept hnot (fun hlive => ⟨by rw [hphase]; nofun, hlive.2⟩) (.refl _) rfl
  | due =>
    have hrunning : e.phase ≠ .ended := by rw [hphase]; nofun
    dsimp only
    split
    · rename_i hdue
      exact attempt_outcome x (by rw [attempts, hphase]; exact hdue) hrunning rfl rfl nofun
    · rename_i hnot
      refine .kept ?_ (fun hlive => ⟨hrunning, hlive.2⟩) (.refl _) rfl
      rw [attempts, hphase]
      exact Bool.eq_false_of_not_eq_true hnot
  | forced =>
    have hrunning : e.phase ≠ .ended := by rw [hphase]; nofun
    dsimp only
    split
    · rename_i hasked
      exact attempt_outcome x (by rw [attempts, hphase]; exact hasked) hrunning rfl rfl nofun
    · rename_i hnot
      refine .kept ?_ (fun hlive => ⟨hrunning, hlive.2⟩) (.refl _) rfl
      rw [attempts, hphase]
      exact Bool.eq_false_of_not_eq_true hnot
  | ended => exact .gone (by rw [attempts, hphase]) fun hlive => hlive.1 hphase

/-! ### Stuck for good -/

theorem stuck_loop (h : e.Stuck P settings) {x : LoopInputs}
    (hexpected : settings.autoReconnect = true → x.reconnected = none) : (e.loop P settings x).Stuck P settings := by
  have houtcome := @loop_outcome P settings e x
  generalize e.loop P settings x = e' at houtcome ⊢
  obtain ⟨client', phase', shutdown', rekeyRequested', underWay'⟩ := e'
  cases houtcome with
  | kept _ hlive hsame hunderWay => exact h.of_same hlive hsame (hunderWay ▸ List.Subset.refl _)
  | replaced _ hauto hgiven => exact absurd (hexpected hauto) hgiven
  | gone _ hdead => exact fun hlive => absurd hlive hdead
  | attempted _ hphase hphase' hattempt hunderWay =>
    -- With a session the attempt is refused.
    have hrefused : ∀ {session}, e.client.session = some session → e.client.rekeyInProgress = false → False := by
      intro session hsession hfree
      have hlive : e.Live := ⟨hphase, by rw [hsession]; rfl⟩
      exact Bool.false_ne_true (hfree.symm.trans (h hlive).1)
    cases hattempt with
    | refused hpending =>
      refine h.of_same (fun hlive => ⟨hphase, hlive.2⟩) (.refl _) ?_
      rw [hunderWay]
      exact List.append_subset.mpr ⟨List.Subset.refl _, List.nil_subset _⟩
    | noSession _ hnone =>
      rintro ⟨-, hsession⟩
      rw [hnone] at hsession
      cases hsession
    | failed hfree hlive => exact (hrefused hlive hfree).elim
    | started hfree hlive => exact (hrefused hlive hfree).elim

theorem stuck_step (h : e.Stuck P settings) {i : ExtensionStep} (hi : Expected settings i) :
    (e.step P settings i).Stuck P settings := by
  cases i with
  | loop x => exact stuck_loop h hi
  | arrive j =>
    have hlost : ({ e with underWay := e.underWay.eraseIdx j } : TunnelExtension).Stuck P settings :=
      h.of_same (fun hlive => hlive) (.refl _) List.eraseIdx_subset
    rw [step]
    split
    · rename_i payload session hpayload hsession
      have hsome : e.client.session.isSome = true := by rw [hsession]; rfl
      have houtcome := @Client.processRekeyResponse_outcome P settings.toClientSettings e.client hsome payload
      generalize e.client.processRekeyResponse P settings.toClientSettings payload = r at houtcome ⊢
      intro hlive
      have hbefore : e.Live := ⟨hlive.1, hsome⟩
      obtain ⟨hpending, hnone⟩ := h hbefore
      cases houtcome with
      | completed htakes => exact absurd ⟨payload, List.mem_of_getElem? hpayload, htakes⟩ hnone
      | unread _ hsame hnot =>
        refine h.of_same (fun _ => hbefore) hsame ?_ hlive
        dsimp only
        rw [hnot]
        exact List.eraseIdx_subset
      | spent _ _ hkept _ hspent _ =>
        refine ⟨hkept.trans hpending, ?_⟩
        rintro ⟨p, -, htakes⟩
        exact Bool.false_ne_true ((hspent p).symm.trans htakes)
    · exact hlost
  | lose j => exact h.of_same (fun hlive => hlive) (.refl _) List.eraseIdx_subset
  | receive => cases hi
  | sendData payload sendOk =>
    have hsame := @Client.sameRekey_sendData P e.client payload sendOk
    exact h.of_same (fun hlive => ⟨hlive.1, hsame.session.symm.trans hlive.2⟩) hsame (List.Subset.refl _)
  | forceRekey | beginStop => exact h.of_same (fun hlive => hlive) (.refl _) (List.Subset.refl _)
  | stop => exact fun hlive => absurd rfl hlive.1

theorem stuck_iff : e.Stuck P settings ↔ ¬(e.Ready P settings ∨ e.Live ∧ Awaits P settings e.client e.underWay) := by
  rw [ready_iff]
  constructor
  · rintro h (⟨hlive, hfree⟩ | ⟨hlive, hawaits⟩)
    · exact Bool.false_ne_true (hfree.symm.trans (h hlive).1)
    · exact (h hlive).2 hawaits
  · intro h hlive
    refine ⟨Bool.eq_true_of_not_eq_false fun hfree => h (.inl ⟨hlive, hfree⟩), ?_⟩
    exact fun hawaits => h (.inr ⟨hlive, hawaits⟩)

theorem canRekey_iff (hlive : e.Live) : e.CanRekey P settings ↔ e.Hopeful P settings := by
  have hhope : ∀ e : TunnelExtension, e.Live ∧ Awaits P settings e.client e.underWay →
      ∃ i, Expected settings i ∧ (e.step P settings i).Ready P settings := by
    rintro e ⟨⟨hphase, hsome⟩, payload, hmem, htakes⟩
    obtain ⟨j, hj⟩ := List.mem_iff_getElem?.mp hmem
    obtain ⟨session, hsession⟩ := Option.isSome_iff_exists.mp hsome
    refine ⟨.arrive j, trivial, ready_iff.mpr ?_⟩
    have houtcome := @Client.processRekeyResponse_outcome P settings.toClientSettings e.client hsome payload
    rw [step, hj, hsession]
    dsimp only
    generalize e.client.processRekeyResponse P settings.toClientSettings payload = r at houtcome ⊢
    cases houtcome with
    | completed _ hdone hsession' => exact ⟨⟨hphase, hsession'⟩, hdone⟩
    | unread hunreadable =>
      exact absurd (hunreadable.symm.trans (Client.readable_of_takes htakes)) Bool.false_ne_true
    | spent _ hrefused => exact absurd (hrefused.symm.trans htakes) Bool.false_ne_true
  have hlost : ∀ (e : TunnelExtension) i, Expected settings i →
      ¬(e.Ready P settings ∨ e.Live ∧ Awaits P settings e.client e.underWay) →
        ¬((e.step P settings i).Ready P settings ∨
          (e.step P settings i).Live ∧ Awaits P settings (e.step P settings i).client (e.step P settings i).underWay) := by
    intro e i hi h
    exact stuck_iff.mp (stuck_step (stuck_iff.mpr h) hi)
  refine (canReach_iff hhope hlost e).trans ?_
  rw [ready_iff]
  constructor
  · rintro (⟨-, hfree⟩ | ⟨-, hawaits⟩) -
    · exact .inl hfree
    · exact .inr hawaits
  · intro h
    exact (h hlive).imp (fun hfree => ⟨hlive, hfree⟩) fun hawaits => ⟨hlive, hawaits⟩

/-! ### Runs -/

/-- A rekey keeps a response to wait for: one is under way when a request is sent, the last one is not lost, and none
is refused. -/
def Answerable (P : Primitives) (settings : ConnectSettings) (e : TunnelExtension) : ExtensionStep → Prop
  | .loop x => e.attempts settings x = true → e.client.rekeyInProgress = false → x.sendOk = true →
      ∀ session, e.client.session = some session →
        let request := Client.rekeyRequest P settings.toRekeySettings session x.coins x.clientRandom
        Client.sealsRequest P session request.2 = true →
          ∃ payload ∈ e.underWay ++ x.answer.toList, request.1.takes P settings.securityLevel payload = true
  | .arrive j => e.Live → e.client.rekeyInProgress = true → ∀ payload, e.underWay[j]? = some payload →
      e.client.takes P settings.toClientSettings payload = true ∨
        Client.readable settings.toClientSettings payload = false ∧ Awaits P settings e.client (e.underWay.eraseIdx j)
  | .lose j => e.Live → e.client.rekeyInProgress = true → Awaits P settings e.client (e.underWay.eraseIdx j)
  | .receive now _ data => e.Live → e.client.rekeyInProgress = true → ∀ payload,
      e.client.opensResponse P.aes256Gcm now data = some payload →
        e.client.takes P settings.toClientSettings payload = true ∨
          Client.readable settings.toClientSettings payload = false
  | _ => True

theorem hopeful_loop_iff (h : e.Hopeful P settings) (x : LoopInputs) :
    (e.loop P settings x).Hopeful P settings ↔ e.Answerable P settings (.loop x) := by
  have houtcome := @loop_outcome P settings e x
  generalize e.loop P settings x = e' at houtcome ⊢
  obtain ⟨client', phase', shutdown', rekeyRequested', underWay'⟩ := e'
  have hnone : e.attempts settings x = false → e.Answerable P settings (.loop x) :=
    fun hnot hattempts => absurd (hnot.symm.trans hattempts) Bool.false_ne_true
  cases houtcome with
  | kept hnot hlive hsame hunderWay =>
    exact iff_of_true (h.of_same hlive hsame (hunderWay ▸ List.Subset.refl _)) (hnone hnot)
  | replaced hnot _ _ hfree => exact iff_of_true (fun _ => .inl hfree) (hnone hnot)
  | gone hnot hdead => exact iff_of_true (fun hlive => absurd hlive hdead) (hnone hnot)
  | attempted hattempts hphase hphase' hattempt hunderWay =>
    cases hattempt with
    | refused hpending =>
      refine iff_of_true (h.of_same (fun hlive => ⟨hphase, hlive.2⟩) (.refl _) ?_) ?_
      · rw [hunderWay]
        exact List.subset_append_left _ _
      · intro _ hfree
        exact absurd (hfree.symm.trans hpending) Bool.false_ne_true
    | noSession _ hgone =>
      refine iff_of_true ?_ ?_
      · rintro ⟨-, hsession⟩
        rw [hgone] at hsession
        cases hsession
      · intro _ _ _ session hsession
        cases hgone.symm.trans hsession
    | failed _ hsession hnot hfree' =>
      refine iff_of_true (fun _ => .inl hfree') ?_
      intro _ _ hsent session hsession' request hsealed
      cases hsession.symm.trans hsession'
      rw [hsealed, hsent] at hnot
      cases hnot
    | @started session _ packet hfree hsession hsealed hsent hpending hhandler hsome =>
      have htakes : ∀ payload, client'.takes P settings.toClientSettings payload =
          (Client.rekeyRequest P settings.toRekeySettings session x.coins x.clientRandom).1.takes P
            settings.securityLevel payload := by
        intro payload
        rw [Client.takes, hhandler, Option.any_some]
      have hunder : underWay' = e.underWay ++ x.answer.toList := hunderWay
      constructor
      · intro hhopeful _ _ _ session' hsession' request _
        cases hsession.symm.trans hsession'
        rcases hhopeful ⟨hphase', hsome⟩ with hfree' | ⟨payload, hmem, haccepted⟩
        · exact absurd (hfree'.symm.trans hpending) Bool.false_ne_true
        · exact ⟨payload, hunder ▸ hmem, (htakes payload).symm.trans haccepted⟩
      · intro hcond _
        obtain ⟨payload, hmem, haccepted⟩ := hcond hattempts hfree hsent session hsession hsealed
        exact .inr ⟨payload, hunder.symm ▸ hmem, (htakes payload).trans haccepted⟩

theorem hopeful_outcome_iff {client' : Client} {events : List ClientEvent} {payload : Bytes} {underWay : List Bytes}
    (hlive : e.Live) (houtcome : Client.ResponseOutcome P settings.toClientSettings e.client payload client' events) :
    ({ e with client := client', underWay := if Client.rekeyed events then [] else underWay } :
        TunnelExtension).Hopeful P settings ↔
      (e.client.rekeyInProgress = true → e.client.takes P settings.toClientSettings payload = true ∨
        Client.readable settings.toClientSettings payload = false ∧ Awaits P settings e.client underWay) := by
  cases houtcome with
  | completed htakes hdone => exact iff_of_true (fun _ => .inl hdone) fun _ => .inl htakes
  | unread hunreadable hsame hnot =>
    have hrefused : ¬e.client.takes P settings.toClientSettings payload = true := fun htakes =>
      Bool.false_ne_true (hunreadable.symm.trans (Client.readable_of_takes htakes))
    have hback : client'.SameRekey e.client := ⟨hsame.handler.symm, hsame.inProgress.symm, hsame.session.symm⟩
    rw [hnot]
    constructor
    · intro hhopeful hpending
      rcases hhopeful ⟨hlive.1, hsame.session.trans hlive.2⟩ with hfree | hawaits
      · exact absurd (hfree.symm.trans (hsame.inProgress.trans hpending)) Bool.false_ne_true
      · exact .inr ⟨hunreadable, hawaits.of_subset (List.Subset.refl _) hback⟩
    · intro hcond _
      cases hpending : e.client.rekeyInProgress with
      | false => exact .inl (hsame.inProgress.trans hpending)
      | true =>
        obtain ⟨-, hawaits⟩ := (hcond hpending).resolve_left hrefused
        exact .inr (hawaits.of_subset (List.Subset.refl _) hsame)
  | spent hreadable hrefused hkept hsession hspent hnot =>
    constructor
    · intro hhopeful hpending
      rcases hhopeful ⟨hlive.1, hsession⟩ with hfree | ⟨p, -, htakes⟩
      · exact absurd (hfree.symm.trans (hkept.trans hpending)) Bool.false_ne_true
      · exact absurd ((hspent p).symm.trans htakes) Bool.false_ne_true
    · intro hcond _
      cases hpending : e.client.rekeyInProgress with
      | false => exact .inl (hkept.trans hpending)
      | true =>
        rcases hcond hpending with htakes | ⟨hunreadable, -⟩
        · exact absurd (hrefused.symm.trans htakes) Bool.false_ne_true
        · exact absurd (hunreadable.symm.trans hreadable) Bool.false_ne_true

theorem hopeful_arrive_iff (h : e.Hopeful P settings) (j : Nat) :
    (e.step P settings (.arrive j)).Hopeful P settings ↔ e.Answerable P settings (.arrive j) := by
  rw [step, Answerable]
  cases hpayload : e.underWay[j]? with
  | none =>
    have hsame : e.underWay.eraseIdx j = e.underWay :=
      List.eraseIdx_of_length_le (List.getElem?_eq_none_iff.mp hpayload)
    rw [hsame]
    exact iff_of_true h nofun
  | some payload =>
    by_cases hlive : e.Live
    · obtain ⟨session, hsession⟩ := Option.isSome_iff_exists.mp hlive.2
      have houtcome := @Client.processRekeyResponse_outcome P settings.toClientSettings e.client hlive.2 payload
      rw [hsession]
      dsimp only
      generalize e.client.processRekeyResponse P settings.toClientSettings payload = r at houtcome ⊢
      refine (hopeful_outcome_iff hlive houtcome).trans ?_
      constructor
      · intro hcond _ hpending p hp
        cases hp
        exact hcond hpending
      · exact fun hcond hpending => hcond hlive hpending payload rfl
    · refine iff_of_true ?_ fun hlive' => absurd hlive' hlive
      -- The loop has ended, or there is no session to open the response.
      cases hsession : e.client.session with
      | none =>
        rintro ⟨-, hsome⟩
        rw [hsession] at hsome
        cases hsome
      | some session => exact fun hlive' => absurd ⟨hlive'.1, by rw [hsession]; rfl⟩ hlive

theorem hopeful_receive_iff (h : e.Hopeful P settings) (now : Nat) (wallClock : UInt64) (data : Bytes) :
    (e.step P settings (.receive now wallClock data)).Hopeful P settings ↔
      e.Answerable P settings (.receive now wallClock data) := by
  rw [step, Answerable]
  have houtcome := @Client.processPacket_rekey P settings.toClientSettings e.client now wallClock data
  generalize e.client.processPacket P settings.toClientSettings now wallClock data = r at houtcome ⊢
  dsimp only at houtcome ⊢
  rcases houtcome with ⟨hnone, hsame, hnot⟩ | ⟨payload, hopens, houtcome⟩
  · rw [hnot, hnone]
    refine iff_of_true ?_ nofun
    exact h.of_same (fun hlive => ⟨hlive.1, hsame.session.symm.trans hlive.2⟩) hsame (List.Subset.refl _)
  · have hsome : e.client.session.isSome = true := by
      cases hsession : e.client.session with
      | none =>
        rw [Client.opensResponse, hsession, Option.bind_none, ite_self] at hopens
        cases hopens
      | some session => rfl
    by_cases hlive : e.Live
    · refine (hopeful_outcome_iff hlive houtcome).trans ?_
      constructor
      · intro hcond _ hpending p hp
        cases hopens.symm.trans hp
        exact (hcond hpending).imp_right And.left
      · intro hcond hpending
        have hawaits := (h hlive).resolve_left fun hfree => Bool.false_ne_true (hfree.symm.trans hpending)
        exact (hcond hlive hpending payload hopens).imp_right fun hunreadable => ⟨hunreadable, hawaits⟩
    · exact iff_of_true (fun hlive' => absurd ⟨hlive'.1, hsome⟩ hlive) fun hlive' => absurd hlive' hlive

theorem hopeful_step_iff (h : e.Hopeful P settings) (i : ExtensionStep) :
    (e.step P settings i).Hopeful P settings ↔ e.Answerable P settings i := by
  cases i with
  | loop x => exact hopeful_loop_iff h x
  | arrive j => exact hopeful_arrive_iff h j
  | lose j =>
    constructor
    · intro hhopeful hlive hpending
      exact (hhopeful hlive).resolve_left fun hfree => Bool.false_ne_true (hfree.symm.trans hpending)
    · intro hcond hlive
      cases hpending : e.client.rekeyInProgress with
      | false => exact .inl hpending
      | true => exact .inr (hcond hlive hpending)
  | receive now wallClock data => exact hopeful_receive_iff h now wallClock data
  | sendData payload sendOk =>
    have hsame := @Client.sameRekey_sendData P e.client payload sendOk
    refine iff_of_true ?_ trivial
    exact h.of_same (fun hlive => ⟨hlive.1, hsame.session.symm.trans hlive.2⟩) hsame (List.Subset.refl _)
  | forceRekey | beginStop =>
    exact iff_of_true (h.of_same (fun hlive => hlive) (.refl _) (List.Subset.refl _)) trivial
  | stop => exact iff_of_true (fun hlive => absurd rfl hlive.1) trivial

/-- Along every run a live session can always come to start another rekey just if every step keeps a response to wait
for. -/
theorem rekeying_never_ends_iff (P : Primitives) (settings : ConnectSettings) (session : Session)
    (steps : List ExtensionStep) :
    (∀ n, (exec (step P settings) (start session) (steps.take n)).Live →
        (exec (step P settings) (start session) (steps.take n)).CanRekey P settings) ↔
      Meets (Answerable P settings) (step P settings) (start session) steps := by
  have hgood : ∀ (e : TunnelExtension) i, True → e.Hopeful P settings → True →
      ((e.step P settings i).Hopeful P settings ↔ e.Answerable P settings i) := fun e i _ h _ => hopeful_step_iff h i
  have hmeets := exec_always_iff_meets (fun _ _ _ => trivial) hgood steps (start session)
    (meets_of_forall (fun _ _ _ => trivial) (start session)) trivial fun _ => .inl rfl
  rw [← hmeets]
  refine forall_congr' fun n => ?_
  constructor
  · intro h hlive
    exact (canRekey_iff hlive).mp (h hlive) hlive
  · intro h hlive
    exact (canRekey_iff hlive).mpr h

end TunnelExtension

namespace ExtensionSample
open TunnelExtension RekeySample

def settings : ConnectSettings := ⟨RekeyDueSample.settings, false, 0⟩

def inputs : LoopInputs := ⟨3600000, true, none, RekeyDueSample.coins, Block.replicate 32 3, true, none⟩

def ran : TunnelExtension :=
  exec (step primitives settings) (start RekeyDueSample.session) [.loop inputs, .loop inputs, .loop inputs]

theorem lost_request_ends_rekeying :
    ran.Live ∧ (∀ now, 3600000 ≤ now → ran.client.shouldRekey settings.toClientSettings now = true) ∧
      (∀ coins clientRandom now sendOk,
        (ran.client.initiateRekey primitives settings.toRekeySettings coins clientRandom now sendOk).2 =
          .error (.invalidState "rekey already in progress")) ∧
      ¬ran.CanRekey primitives settings := by
  have hpending : ran.client.rekeyInProgress = true := by decide +kernel
  have hlive : ran.Live := ⟨by decide +kernel, by decide +kernel⟩
  refine ⟨hlive, ?_, ?_, ?_⟩
  · intro now hnow
    have hcreated : ran.client.session.map Session.createdAt = some 0 := by decide +kernel
    obtain ⟨session, hsession, hage⟩ := Option.map_eq_some_iff.mp hcreated
    rw [Client.shouldRekey, hsession, Option.any_some, hage, decide_eq_true_eq]
    exact Nat.div_le_div_right hnow
  · exact fun coins clientRandom now sendOk => Client.initiateRekey_refused hpending ..
  · rw [canRekey_iff hlive]
    intro hhopeful
    rcases hhopeful hlive with hfree | ⟨payload, hmem, -⟩
    · exact Bool.false_ne_true (hfree.symm.trans hpending)
    · have hnone : ran.underWay = [] := by decide +kernel
      rw [hnone] at hmem
      cases hmem

end ExtensionSample

end HpnVpn
