import HpnVpn.ReceiveEpochs
import HpnVpn.ServerInit

/-! Which handshake a credentials blob authenticates.  An attacker reads inits in the clear, replays or drops any and
sends its own.  A blob's associated data is its KEM ciphertext, so a blob read in one init is accepted in any other; a
hidden one is not accepted from the attacker. -/
namespace HpnVpn
open Wire Runs AuthEnc

/-! ### Honest clients -/

structure Login where
  username : String
  password : String
  serverKemPk : HybridPublicKey
  coins : HybridKem.EncapsulateCoins

structure ClientInit where
  securityLevel : SecurityLevel
  keypairCoins : HybridKem.KeypairCoins
  clientRandom : Block 32
  login : Option Login
  identityHiding : Option (HybridPublicKey × HybridKem.EncapsulateCoins)

/-- An init as it leaves a client, with the datagram the server's handler gets for it and the sealing
calls that made it. -/
structure SentInit where
  init : HandshakeInit
  hidden : Bool
  packet : Bytes
  calls : List SealCall

def plainPacket (body : Bytes) : Bytes := (PacketHeader.new .handshakeInit 0 0 0).toBytes ++ body

def hiddenPacket (e : EncryptedHandshakeInit) : Bytes :=
  (PacketHeader.new .encryptedHandshakeInit 0 0 0).toBytes ++ e.toBytes

namespace ClientInit

def prepare (P : Primitives) (c : ClientInit) : Option (List SealCall × HandshakeInit) := do
  let (_, init) ←
    (ClientHandshake.createInit P (.withSecurityLevel c.securityLevel) c.keypairCoins c.clientRandom).toOption
  match c.login with
  | none => some ([], init)
  | some login =>
    let (call, init) ←
      (init.addCredentials P login.username login.password login.serverKemPk login.coins).toOption
    some ([call], init)

def send (P : Primitives) (c : ClientInit) : Option SentInit := do
  let (calls, init) ← c.prepare P
  match c.identityHiding with
  | none => some ⟨init, false, plainPacket init.toBytes, calls⟩
  | some (serverKemPk, coins) =>
    let (call, e) ← (EncryptedHandshakeInit.encrypt P init serverKemPk coins).toOption
    some ⟨init, true, hiddenPacket e, call :: calls⟩

end ClientInit

variable {c : ClientInit}

namespace SentInit

/-- The call sealed the credentials of the init, with their KEM ciphertext as associated data. -/
def SealsCredentials (P : Primitives) (s : SentInit) (call : SealCall) : Prop :=
  ∃ blob, s.init.credentials = some blob ∧ call.aad = blob.ciphertext.toBytes ∧
    call.output P.aes256Gcm = some blob.encryptedPayload

def Genuine (P : Primitives) (s : SentInit) : Prop :=
  ∀ call ∈ s.calls, s.SealsCredentials P call ∨ ∃ level ct, call.aad = EncryptedHandshakeInit.aad level ct

end SentInit

theorem ClientInit.prepare_cases {P : Primitives} {calls : List SealCall}
    {init : HandshakeInit} (h : c.prepare P = some (calls, init)) :
    calls = [] ∨
      ∃ call blob, calls = [call] ∧ init.credentials = some blob ∧
        call.aad = blob.ciphertext.toBytes ∧ call.output P.aes256Gcm = some blob.encryptedPayload := by
  unfold prepare at h
  obtain ⟨⟨waiting, bare⟩, hcreate, h⟩ := Option.bind_eq_some_iff.mp h
  rw [ClientHandshake.createInit_of_idle rfl] at hcreate
  cases Option.some.inj hcreate
  dsimp only at h
  split at h
  · cases Option.some.inj h
    exact .inl rfl
  · next login =>
      obtain ⟨⟨call, init'⟩, hadd, h⟩ := Option.bind_eq_some_iff.mp h
      cases Option.some.inj h
      obtain ⟨⟨call', blob⟩, hencrypt, heq⟩ := bind_ok_iff.mp (toOption_eq_some.mp hadd)
      obtain ⟨rfl, rfl⟩ := Prod.mk.inj (Except.ok.inj heq)
      obtain ⟨haad, hout⟩ := EncryptedCredentials.encrypt_call hencrypt
      exact .inr ⟨call', blob, rfl, rfl, haad, hout⟩

theorem ClientInit.send_genuine {P : Primitives} {s : SentInit} (h : c.send P = some s) : s.Genuine P := by
  obtain ⟨⟨calls, init⟩, hprepare, h⟩ := Option.bind_eq_some_iff.mp h
  have hcalls : ∀ hidden packet call, call ∈ calls →
      (SentInit.mk init hidden packet calls).SealsCredentials P call := by
    intro hidden packet call hcall
    rcases ClientInit.prepare_cases hprepare with rfl | ⟨call', blob, rfl, hblob, haad, hout⟩
    · cases hcall
    · obtain rfl := List.mem_singleton.mp hcall
      exact ⟨blob, hblob, haad, hout⟩
  dsimp only at h
  split at h
  · cases h
    exact fun call hcall => .inl (hcalls _ _ call hcall)
  · next serverKemPk coins _ =>
      obtain ⟨⟨call, e⟩, hencrypt, h⟩ := Option.bind_eq_some_iff.mp h
      cases h
      obtain ⟨-, hsealed⟩ := EncryptedHandshakeInit.encrypt_eq_ok.mp (toOption_eq_some.mp hencrypt)
      obtain ⟨secret, -, rfl, -⟩ := KemUse.sealTo_eq_ok.mp hsealed
      intro call hcall
      rcases List.mem_cons.mp hcall with rfl | hcall
      · exact .inr ⟨init.securityLevel, e.encapsulationCiphertext, rfl⟩
      · exact .inl (hcalls true (hiddenPacket e) call hcall)

/-! ### Runs with an attacker -/

/-- How the attacker sends an init: in the clear, or hidden under the server's key of a level. -/
inductive InitForm
  | plain
  | hidden (level : SecurityLevel) (coins : HybridKem.EncapsulateCoins)

def InitForm.packet (S : InitContext) (body : Bytes) : InitForm → Option Bytes
  | plain => some (plainPacket body)
  | hidden level coins => do
    let keypair ← S.kemKeypairFor level
    let (_, ciphertext, payload) ← (EncryptedHandshakeInit.use.sealTo S.P keypair.2
      (EncryptedHandshakeInit.aad level) body coins).toOption
    some (hiddenPacket ⟨level, ciphertext, payload⟩)

theorem InitForm.fromBytes_of_openInit {S : InitContext} {form : InitForm} {body data : Bytes}
    {init : HandshakeInit} (hpacket : form.packet S body = some data)
    (hopen : S.openInit data = some init) : HandshakeInit.fromBytes body = .ok init := by
  cases form with
  | plain =>
    cases hpacket
    rw [plainPacket, InitContext.openInit_packet (PacketHeader.new_wellFormed _ _ _ _) rfl] at hopen
    exact toOption_eq_some.mp hopen
  | hidden level coins =>
    obtain ⟨keypair, hkeypair, hpacket⟩ := Option.bind_eq_some_iff.mp hpacket
    obtain ⟨⟨call, ct, payload⟩, hsealed, hpacket⟩ := Option.bind_eq_some_iff.mp hpacket
    cases hpacket
    rw [toOption_eq_some] at hsealed
    obtain ⟨-, -, -, hout⟩ := KemUse.sealTo_eq_ok.mp hsealed
    rw [hiddenPacket, InitContext.openInit_packet (PacketHeader.new_wellFormed _ _ _ _) rfl] at hopen
    have hlen : tagSize ≤ payload.length := by
      rw [S.P.aes256Gcm.encrypt_length hout]
      exact Nat.le_add_left _ _
    obtain ⟨keypair', hkeypair', hdecrypt⟩ := InitContext.openHidden_toBytes hlen hopen
    cases hkeypair.symm.trans hkeypair'
    obtain ⟨seed, rfl⟩ := S.kemKeypair_generated hkeypair
    rw [EncryptedHandshakeInit.decrypt, KemUse.openFrom_sealTo hsealed] at hdecrypt
    exact hdecrypt

/-- The server and the inits that clients have sent. -/
structure InitWorld (S : InitContext) where
  server : VpnServer S
  sent : List SentInit

inductive InitEvent
  | client (c : ClientInit)
  /-- The datagram of a client's init arrives, for the first time or again. -/
  | deliver (i : Nat) (addr : SocketAddr) (o : InitOccasion)
  | inject (form : InitForm) (body : Bytes) (addr : SocketAddr) (o : InitOccasion)
  | manage (op : ManagerOp)

namespace InitWorld
variable {S : InitContext}

def receive (w : InitWorld S) (data : Option Bytes) (addr : SocketAddr) (o : InitOccasion) : InitWorld S :=
  match data with
  | none => w
  | some data => { w with server := (w.server.handleHandshakeInitInternalPrechecked data addr o).1 }

def step (w : InitWorld S) : InitEvent → InitWorld S
  | .client c =>
    match c.send S.P with
    | none => w
    | some s => { w with sent := w.sent ++ [s] }
  | .deliver i addr o => w.receive ((w.sent[i]?).map SentInit.packet) addr o
  | .inject form body addr o => w.receive (form.packet S body) addr o
  | .manage op =>
    { w with server := { w.server with sessions := w.server.sessions.apply S.toServerContext op } }

end InitWorld

namespace SentInit

def ciphertext (s : SentInit) : Option HybridCiphertext := s.init.credentials.map (·.ciphertext)

def Apart (s t : SentInit) : Prop := ∀ ct, s.ciphertext = some ct → t.ciphertext ≠ some ct

instance : Std.Symm Apart := ⟨fun _ _ h ct ht hs => h ct hs ht⟩

theorem ciphertext_of_credentials {s : SentInit} {blob : EncryptedCredentials}
    (h : s.init.credentials = some blob) : s.ciphertext = some blob.ciphertext := by
  rw [ciphertext, h]
  rfl

end SentInit

namespace InitWorld
variable {S : InitContext}

/-- Read in an init in the clear, or the attacker's own: then no client's encapsulation has drawn it. -/
def Knows (w : InitWorld S) (ct : HybridCiphertext) : Prop :=
  (∃ s ∈ w.sent, s.hidden = false ∧ s.ciphertext = some ct) ∨ ∀ s ∈ w.sent, s.ciphertext ≠ some ct

/-- Encapsulations do not repeat, and what opens under a credentials key was sealed by a client or by the attacker. -/
def Ideal (attackerCalls : List SealCall) (w : InitWorld S) : InitEvent → Prop
  | .client c => ∀ s, c.send S.P = some s → ∀ t ∈ w.sent, t.Apart s
  | .inject _ body _ _ =>
    ∀ init blob, HandshakeInit.fromBytes body = .ok init → init.credentials = some blob →
      w.Knows blob.ciphertext ∧
      ∀ level keypair secret, S.kemKeypairFor level = some keypair →
        HybridKem.decapsulate S.P keypair.1 blob.ciphertext = .ok secret →
        Unforged S.P.aes256Gcm (EncryptedCredentials.use.key S.P secret)
          (w.sent.flatMap SentInit.calls ++ attackerCalls)
          {blob.ciphertext.toBytes ++ blob.encryptedPayload}
  | .deliver _ _ _ | .manage _ => True

/-- Nothing the attacker has sealed is the login of an account. -/
def NoPassword (S : InitContext) (attackerCalls : List SealCall) : Prop :=
  ∀ call ∈ attackerCalls, ∀ creds, DecryptedCredentials.fromPlaintext call.plaintext = .ok creds →
    ∀ store now, (S.backend.verifyPassword store creds.username creds.password now).2 ≠ .ok true

structure Sound (w : InitWorld S) : Prop where
  store : w.server.userStore.isSome
  genuine : ∀ s ∈ w.sent, s.Genuine S.P
  apart : w.sent.Pairwise SentInit.Apart

variable {w : InitWorld S}

theorem Sound.receive (h : w.Sound) (data : Option Bytes) (addr : SocketAddr)
    (o : InitOccasion) : (w.receive data addr o).Sound := by
  cases data with
  | none => exact h
  | some data =>
    exact ⟨(w.server.isSome_userStore_handleHandshakeInit data addr o).trans h.store, h.genuine, h.apart⟩

variable {attackerCalls : List SealCall}

theorem Sound.step (w : InitWorld S) (event : InitEvent) (h : w.Sound)
    (hideal : w.Ideal attackerCalls event) : (w.step event).Sound := by
  cases event with
  | client c =>
    simp only [InitWorld.step]
    split
    · exact h
    · next s hs =>
        refine ⟨h.store, ?_, ?_⟩
        · intro t ht
          rcases List.mem_append.mp ht with ht | ht
          · exact h.genuine t ht
          · obtain rfl := List.mem_singleton.mp ht
            exact ClientInit.send_genuine hs
        · refine List.pairwise_append.mpr ⟨h.apart, List.pairwise_singleton _ _, fun t ht t' ht' => ?_⟩
          obtain rfl := List.mem_singleton.mp ht'
          exact hideal t' hs t ht
  | deliver i addr o => exact h.receive _ addr o
  | inject form body addr o => exact h.receive _ addr o
  | manage op => exact ⟨h.store, h.genuine, h.apart⟩

theorem credentials_aad_ne (ct ct' : HybridCiphertext) (level : SecurityLevel) :
    ct.toBytes ≠ EncryptedHandshakeInit.aad level ct' := by
  intro h
  have hlen := congrArg List.length h
  obtain ⟨l, x, m⟩ := ct
  obtain ⟨l', x', m'⟩ := ct'
  simp only [EncryptedHandshakeInit.aad, HybridPair.toBytes, HybridPair.toBytesRaw, List.length_cons,
    List.length_append, Block.length_bytes] at hlen
  cases l <;> cases l' <;> simp only [SecurityLevel.mlkemCiphertextSize] at hlen <;> omega

theorem Sound.opened (h : w.Sound)
    {key : Block keySize} {nonce : Block nonceSize} {blob : EncryptedCredentials} {plaintext : Bytes}
    (hideal : Unforged S.P.aes256Gcm key (w.sent.flatMap SentInit.calls ++ attackerCalls)
      {blob.ciphertext.toBytes ++ blob.encryptedPayload})
    (hopen : S.P.aes256Gcm.decrypt key nonce blob.ciphertext.toBytes blob.encryptedPayload = some plaintext) :
    (∃ call ∈ attackerCalls, call.plaintext = plaintext) ∨ ∃ s ∈ w.sent, s.init.credentials = some blob := by
  obtain ⟨call, hcall, rfl, rfl, haad, hout⟩ := hideal nonce _ _ plaintext rfl hopen
  rcases List.mem_append.mp hcall with hclient | hattacker
  · right
    obtain ⟨s, hs, hcall⟩ := List.mem_flatMap.mp hclient
    refine ⟨s, hs, ?_⟩
    rcases h.genuine s hs call hcall with ⟨sent, hsent, hsentAad, hsentOut⟩ | ⟨level, ct, hhidden⟩
    · -- the associated data names the ciphertext, so both halves of the blob are the client's
      have hbytes := congrArg (· ++ ([] : Bytes)) (haad.symm.trans hsentAad)
      have hct : blob.ciphertext = sent.ciphertext := (HybridPair.toBytes_append_inj hbytes).1
      have hpayload : blob.encryptedPayload = sent.encryptedPayload :=
        Option.some.inj (hout.symm.trans hsentOut)
      rw [hsent, EncryptedCredentials.ext hct hpayload]
    · exact absurd (haad.symm.trans hhidden) (credentials_aad_ne _ _ _)
  · left
    have hplain := (S.P.aes256Gcm.decrypt_encrypt hout).symm.trans (haad ▸ hopen)
    exact ⟨call, hattacker, Option.some.inj hplain⟩

theorem Sound.injected (h : w.Sound)
    (hno : NoPassword S attackerCalls) {form : InitForm} {body : Bytes} {addr : SocketAddr}
    {o : InitOccasion} (hideal : w.Ideal attackerCalls (.inject form body addr o))
    (hchanged : (w.step (.inject form body addr o)).server.sessions ≠ w.server.sessions) :
    ∃ init blob, HandshakeInit.fromBytes body = .ok init ∧ init.credentials = some blob ∧
      ∃ s ∈ w.sent, s.hidden = false ∧ s.init.credentials = some blob := by
  unfold InitWorld.step InitWorld.receive at hchanged
  dsimp only at hchanged
  split at hchanged
  · exact absurd rfl hchanged
  · next data hpacket =>
      rcases w.server.sessions_handleHandshakeInit data addr o with
        hsame | ⟨init, hopen, haccepted⟩
      · exact absurd hsame hchanged
      · have hbody := InitForm.fromBytes_of_openInit hpacket hopen
        obtain ⟨store, hstore⟩ := Option.isSome_iff_exists.mp h.store
        rw [hstore] at haccepted
        obtain ⟨keypair, blob, creds, hkeypair, hblob, hdecrypt, -, hverify⟩ :=
          InitContext.checkCredentials_accepted haccepted
        obtain ⟨secret, plaintext, hdec, hopened, hparse⟩ := EncryptedCredentials.decrypt_eq_ok.mp hdecrypt
        obtain ⟨hknows, hunforged⟩ := hideal init blob hbody hblob
        rcases h.opened (hunforged _ _ _ hkeypair hdec) hopened with ⟨call, hcall, rfl⟩ | ⟨s, hs, hsent⟩
        · exact absurd hverify (hno call hcall creds hparse store _)
        · have hct := SentInit.ciphertext_of_credentials hsent
          rcases hknows with ⟨t, ht, hplain, htct⟩ | hown
          · have hst : s = t := by
              by_contra hne
              exact h.apart.forall hs ht hne _ hct htct
            exact ⟨init, blob, hbody, hblob, s, hs, hst ▸ hplain, hsent⟩
          · exact absurd hct (hown s hs)

end InitWorld

/-- A session is there that was not there before. -/
def SessionManager.Creates (m m' : SessionManager) : Prop :=
  ∃ sessionId, m.sessions.lookup sessionId = none ∧ (m'.sessions.lookup sessionId).isSome

theorem SessionManager.Creates.ne {m m' : SessionManager} (h : m.Creates m') : m' ≠ m := by
  rintro rfl
  obtain ⟨sessionId, hnone, hsome⟩ := h
  rw [hnone] at hsome
  cases hsome

namespace InitWorld
variable {S : InitContext}

theorem sound_exec {attackerCalls : List SealCall} {w : InitWorld S} (hstore : w.server.userStore.isSome)
    (hsent : w.sent = []) {events : List InitEvent} (hideal : Meets (Ideal attackerCalls) step w events) :
    (exec step w events).Sound := by
  refine exec_invariant_of Sound.step events w ⟨hstore, ?_, ?_⟩ hideal
  · rw [hsent]
    exact fun s hs => nomatch hs
  · rw [hsent]
    exact .nil

/-- An attacker's init that gets a session carries the credentials of an init sent in the clear, and not those of a
hidden one. -/
theorem injected_credentials_sent_plain (attackerCalls : List SealCall) (hno : NoPassword S attackerCalls)
    (w : InitWorld S) (hstore : w.server.userStore.isSome) (hsent : w.sent = [])
    (events : List InitEvent) (form : InitForm) (body : Bytes) (addr : SocketAddr) (o : InitOccasion)
    (hideal : Meets (Ideal attackerCalls) step w (events ++ [.inject form body addr o]))
    (hcreates : (exec step w events).server.sessions.Creates
      ((exec step w events).step (.inject form body addr o)).server.sessions) :
    ∃ init blob, HandshakeInit.fromBytes body = .ok init ∧ init.credentials = some blob ∧
      (∃ s ∈ (exec step w events).sent, s.hidden = false ∧ s.init.credentials = some blob) ∧
      ∀ s ∈ (exec step w events).sent, s.hidden = true → s.init.credentials ≠ some blob := by
  obtain ⟨hbefore, hinject, -⟩ := meets_append.mp hideal
  have hsound := sound_exec hstore hsent hbefore
  obtain ⟨init, blob, hbody, hblob, s, hs, hplain, hcred⟩ := hsound.injected hno hinject hcreates.ne
  refine ⟨init, blob, hbody, hblob, ⟨s, hs, hplain, hcred⟩, fun t ht hhidden htcred => ?_⟩
  have hne : s ≠ t := by
    rintro rfl
    rw [hplain] at hhidden
    cases hhidden
  exact hsound.apart.forall hs ht hne _ (SentInit.ciphertext_of_credentials hcred)
    (SentInit.ciphertext_of_credentials htcred)

end InitWorld

namespace BindingSample
open ForeignSample (elsewhere)
open InitSample (occasion)

def kemKeypair : HybridSecretKey × HybridPublicKey :=
  HybridKem.generateKeypairWithLevel (.transparent fun _ => 0) .level3 ⟨Block.replicate 32 1, Block.replicate 64 2⟩

def context : InitContext where
  toServerContext := ForeignSample.context
  kemKeypairFor
    | .level3 => some kemKeypair
    | .level5 => none
  kemKeypair_generated := by
    intro level keypair h
    cases level with
    | level3 => exact ⟨_, (Option.some.inj h).symm⟩
    | level5 => cases h
  minSecurityLevel := .level3
  dnsServers := []
  dnsServersV6 := []
  mtu := 1420
  backend :=
    { State := Unit
      checkLockout := fun _ _ _ _ => false
      verifyPassword := fun _ username password _ => ((), .ok (username == "alice" && password == "secret"))
      recordSuccess := fun _ _ _ => ()
      recordFailure := fun _ _ _ _ => () }

def start : InitWorld context where
  server :=
    { sessions := .new (ipv4 10 0 0 0) 24 (ipv4 10 0 0 1) 60000 10
      handshakeReplay := .new
      userStore := some () }
  sent := []

def client : ClientInit where
  securityLevel := .level3
  keypairCoins := ⟨Block.replicate 32 3, Block.replicate 64 4⟩
  clientRandom := Block.replicate 32 5
  login := some ⟨"alice", "secret", kemKeypair.2, ⟨Block.replicate 32 6, Block.replicate 32 7⟩⟩
  identityHiding := none

def sent : SentInit := (client.send context.P).get (by decide +kernel)

def blob : EncryptedCredentials := sent.init.credentials.get (by decide +kernel)

def forged : HandshakeInit := { InitSample.init with credentials := some blob }

theorem send_client : client.send context.P = some sent := (Option.some_get _).symm

theorem credentials_sent : sent.init.credentials = some blob := (Option.some_get _).symm

theorem sent_after_client : (start.step (.client client)).sent = [sent] := by
  rw [InitWorld.step, send_client]
  rfl

theorem fromBytes_forged : HandshakeInit.fromBytes forged.toBytes = .ok forged := by
  apply HandshakeInit.fromBytes_toBytes
  refine ⟨rfl, fun c hc => ?_⟩
  cases hc
  decide +kernel

theorem unforged_blob {secret : HandshakeSecret}
    (hsecret : HybridKem.decapsulate context.P kemKeypair.1 blob.ciphertext = .ok secret) :
    Unforged context.P.aes256Gcm (EncryptedCredentials.use.key context.P secret)
      ([sent].flatMap SentInit.calls ++ []) {blob.ciphertext.toBytes ++ blob.encryptedPayload} := by
  have hexpected : HybridKem.decapsulate context.P kemKeypair.1 blob.ciphertext =
      .ok (.combine (Block.replicate 32 1) (Block.replicate 32 7)) := by decide +kernel
  cases hexpected.symm.trans hsecret
  have hkeys : ∀ call ∈ sent.calls, call.key = EncryptedCredentials.use.key context.P
      (.combine (Block.replicate 32 1) (Block.replicate 32 7)) := by decide +kernel
  have hcall : ∃ call ∈ sent.calls, call.output context.P.aes256Gcm = some blob.encryptedPayload ∧
      blob.ciphertext.toBytes = call.aad := by decide +kernel
  obtain ⟨call, hmem, hout, haad⟩ := hcall
  refine Cipher.labelled_unforged ?_ ?_
  · simpa using hkeys
  · rintro _ rfl
    refine ⟨by decide +kernel, .inr ⟨call, by simpa using hmem, blob.encryptedPayload, hout, ?_⟩⟩
    rw [haad]

theorem ideal_attack :
    Meets (InitWorld.Ideal []) InitWorld.step start
      [.client client, .inject .plain forged.toBytes elsewhere occasion] := by
  refine And.intro ?_ (And.intro ?_ trivial)
  · intro s _ t ht
    exact absurd ht List.not_mem_nil
  intro init b hbody hb
  cases fromBytes_forged.symm.trans hbody
  cases hb
  constructor
  · left
    rw [sent_after_client]
    exact ⟨sent, List.mem_singleton_self _, by decide +kernel, SentInit.ciphertext_of_credentials credentials_sent⟩
  · intro level keypair secret hkeypair hsecret
    rw [sent_after_client]
    cases level with
    | level3 =>
      cases hkeypair
      exact unforged_blob hsecret
    | level5 => cases hkeypair

theorem creates_attack :
    (exec InitWorld.step start [.client client]).server.sessions.Creates
      ((exec InitWorld.step start [.client client]).step
        (.inject .plain forged.toBytes elsewhere occasion)).server.sessions :=
  ⟨42, by decide +kernel, by decide +kernel⟩

/-- Without a password, a client's credentials in an init with another random and key get a session. -/
theorem copied_credentials_accepted :
    InitWorld.NoPassword context [] ∧
      Meets (InitWorld.Ideal []) InitWorld.step start
        [.client client, .inject .plain forged.toBytes elsewhere occasion] ∧
      (exec InitWorld.step start [.client client]).sent = [sent] ∧
      forged.clientRandom ≠ sent.init.clientRandom ∧
      forged.clientEphemeralPk ≠ sent.init.clientEphemeralPk ∧
      forged.credentials = sent.init.credentials ∧
      (exec InitWorld.step start [.client client]).server.sessions.Creates
        ((exec InitWorld.step start [.client client]).step
          (.inject .plain forged.toBytes elsewhere occasion)).server.sessions :=
  ⟨fun _ hcall => absurd hcall List.not_mem_nil, ideal_attack, sent_after_client, by decide +kernel,
    by decide +kernel, credentials_sent.symm, creates_attack⟩

theorem injected_credentials_sent_plain_attack :
    ∃ s ∈ (exec InitWorld.step start [.client client]).sent, s.hidden = false ∧ s.init.credentials = some blob := by
  obtain ⟨init, b, hbody, hb, hplain, -⟩ := InitWorld.injected_credentials_sent_plain []
    (fun _ hcall => absurd hcall List.not_mem_nil) start rfl rfl [.client client] .plain forged.toBytes
    elsewhere occasion ideal_attack creates_attack
  cases fromBytes_forged.symm.trans hbody
  cases hb
  exact hplain

end BindingSample

end HpnVpn
