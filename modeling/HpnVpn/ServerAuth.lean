import HpnVpn.Handshake
import HpnVpn.Runs

/-! Server authentication.  The server is known by the log of its signing key; the attacker may deliver any responses.
-/
namespace HpnVpn
open Wire

/-! ### The server's log -/

/-- One response to an init as it leaves the server, signed over its final configuration. -/
structure InitAnswer (P : Primitives) (server : ServerHandshake) where
  init : HandshakeInit
  sessionId : SessionId
  initial : TunnelConfig
  assigned : TunnelConfig
  draws : ServerHandshake.Draws
  refreshCoins : Block 32
  answer : HandshakeResponse
  keys : SessionKeys
  response : HandshakeResponse
  processed : server.processInit P init sessionId initial draws = .ok (answer, keys)
  refreshed : refreshHandshakeResponseAuth P { answer with config := assigned } init.clientRandom
    init.securityLevel server.serverKeypair keys.sendKey refreshCoins = .ok response

structure RekeyAnswer (P : Primitives) (server : ServerHandshake) where
  rekey : RekeyMessage
  currentKeyId : KeyId
  sessionId : SessionId
  draws : ServerHandshake.Draws
  keys : SessionKeys
  response : RekeyResponse
  processed : server.processRekey P rekey currentKeyId sessionId draws = .ok (response, keys)

structure RebindAnswer where
  sessionId : SessionId
  timestamp : UInt64
  endpoint : SocketAddr

structure ServerLog (P : Primitives) (server : ServerHandshake) where
  inits : List (InitAnswer P server)
  rekeys : List (RekeyAnswer P server)
  rebinds : List RebindAnswer

section log
variable {P : Primitives} {server : ServerHandshake}

def InitAnswer.transcript (a : InitAnswer P server) : Bytes :=
  ClientHandshake.clientTranscript a.init.clientRandom a.response

def RekeyAnswer.transcript (a : RekeyAnswer P server) : Bytes :=
  buildRekeyTranscript a.sessionId a.rekey.clientRandom a.response.serverRandom a.response.serverCiphertext

def RebindAnswer.transcript (a : RebindAnswer) : Bytes :=
  buildRebindAckTranscript a.sessionId a.timestamp a.endpoint

def ServerLog.Signed (log : ServerLog P server) (m : Bytes) : Prop :=
  (∃ a ∈ log.inits, m = a.transcript) ∨ (∃ a ∈ log.rekeys, m = a.transcript) ∨ ∃ a ∈ log.rebinds, m = a.transcript

def ServerLog.Maced (log : ServerLog P server) (key : Block keySize) (m : Bytes) : Prop :=
  (∃ a ∈ log.inits, key = a.keys.sendKey ∧ m = a.transcript) ∨ ∃ a ∈ log.rekeys, key = a.keys.sendKey ∧ m = a.transcript

/-- Derivation inputs: the shared secret, the session and the time. -/
abbrev KdfInput := HandshakeSecret × SessionId × UInt64

def KdfInput.keys (P : Primitives) (x : KdfInput) : SessionKeys :=
  deriveSessionKeysWithContext P x.1 x.2.1 x.2.2

theorem InitAnswer.secret_of (a : InitAnswer P server) :
    ∃ secret, HybridKem.encapsulate P a.init.clientEphemeralPk a.draws.encapsulate =
        .ok (secret, a.response.serverCiphertext) ∧
      a.keys = (KdfInput.keys P (secret, a.response.sessionId, a.response.kdfTimestamp)).swap := by
  obtain ⟨secret, ct, sig, henc, -, hkeys, hanswer⟩ := ServerHandshake.processInit_eq_ok.mp a.processed
  obtain ⟨sig', -, hresponse⟩ := refreshHandshakeResponseAuth_eq_ok.mp a.refreshed
  rw [hanswer] at hresponse
  rw [hresponse]
  exact ⟨secret, henc, hkeys⟩

theorem ServerLog.Signed.init_of_transcript {log : ServerLog P server} {cr : Block 32}
    {r : HandshakeResponse} (h : log.Signed (ClientHandshake.clientTranscript cr r)) :
    ∃ a ∈ log.inits, ClientHandshake.clientTranscript cr r = a.transcript := by
  rcases h with hinit | ⟨a, -, ha⟩ | ⟨a, -, ha⟩
  · exact hinit
  · exact absurd ha buildTranscript_ne_rekey
  · exact absurd ha buildTranscript_ne_rebindAck

theorem ServerLog.Maced.init_of_transcript {log : ServerLog P server} {key : Block keySize}
    {cr : Block 32} {r : HandshakeResponse}
    (h : log.Maced key (ClientHandshake.clientTranscript cr r)) :
    ∃ a ∈ log.inits, key = a.keys.sendKey ∧ ClientHandshake.clientTranscript cr r = a.transcript := by
  rcases h with hinit | ⟨a, -, -, ha⟩
  · exact hinit
  · exact absurd ha buildTranscript_ne_rekey

end log

/-! ### The attacker -/

structure Attacker where
  secrets : Set HandshakeSecret
  keys : Set (Block keySize)

namespace ClientHandshake
variable {P : Primitives} {server : ServerHandshake}

def Opens (P : Primitives) (h : ClientHandshake) (ct : HybridCiphertext) (secret : HandshakeSecret) : Prop :=
  ∃ sk pk, h.clientKeypair = some (sk, pk) ∧ HybridKem.decapsulate P sk ct = .ok secret

def derivations (P : Primitives) (h : ClientHandshake) (log : ServerLog P server)
    (delivered : List HandshakeResponse) : Set KdfInput :=
  { x | (∃ r ∈ delivered, h.Opens P r.serverCiphertext x.1 ∧ x.2 = (r.sessionId, r.kdfTimestamp)) ∨
    ∃ a ∈ log.inits,
      HybridKem.encapsulate P a.init.clientEphemeralPk a.draws.encapsulate = .ok (x.1, a.response.serverCiphertext) ∧
      x.2 = (a.response.sessionId, a.response.kdfTimestamp) }

/-- The key that the response is confirmed with, if this is the secret in its ciphertext. -/
def confirmKey (P : Primitives) (r : HandshakeResponse) (secret : HandshakeSecret) : Block keySize :=
  (KdfInput.keys P (secret, r.sessionId, r.kdfTimestamp)).recvKey

/-- What an attacker without the signing key cannot do with ideal primitives; signature and MAC are those that this
client checks. -/
structure Ideal (P : Primitives) (h : ClientHandshake) (log : ServerLog P server) (attacker : Attacker)
    (delivered : List HandshakeResponse) : Prop where
  /-- Signatures under the server's key are copied, never made. -/
  signature : ∀ r ∈ delivered, ∀ cr, h.clientRandom = some cr →
    MlDsa.verify P server.serverKeypair.publicKey (clientTranscript cr r) r.signature h.securityLevel = .ok () →
      log.Signed (clientTranscript cr r)
  /-- A MAC is copied, or made with a key the attacker has. -/
  mac : ∀ r ∈ delivered, ∀ cr secret, h.clientRandom = some cr → h.Opens P r.serverCiphertext secret →
    P.hmacSha256 (confirmKey P r secret) (clientTranscript cr r) = r.keyConfirmation →
      confirmKey P r secret ∈ attacker.keys ∨ log.Maced (confirmKey P r secret) (clientTranscript cr r)
  /-- A derived key is known only with the secret it comes from. -/
  kdfOneWay : ∀ x ∈ h.derivations P log delivered, (x.keys P).recvKey ∈ attacker.keys → x.1 ∈ attacker.secrets
  /-- What a ciphertext made by the server carries for this client stays unknown. -/
  kem : ∀ a ∈ log.inits, ∀ secret, h.Opens P a.response.serverCiphertext secret → secret ∉ attacker.secrets
  /-- No two derivations of the run collide. -/
  kdfInjective : Set.InjOn (fun x : KdfInput => (x.keys P).recvKey) (h.derivations P log delivered)

structure ProducedFor (a : InitAnswer P server) (h : ClientHandshake) (r : HandshakeResponse)
    (keys : SessionKeys) : Prop where
  clientRandom : h.clientRandom = some a.init.clientRandom
  sessionId : a.response.sessionId = r.sessionId
  serverRandom : a.response.serverRandom = r.serverRandom
  ciphertext : a.response.serverCiphertext = r.serverCiphertext
  config : a.response.config.toBytes = r.config.toBytes
  timestamp : a.response.kdfTimestamp = r.kdfTimestamp
  keys_eq : keys = a.keys.swap

variable {h : ClientHandshake}

theorem Ideal.producedFor {log : ServerLog P server} {attacker : Attacker}
    {delivered : List HandshakeResponse} (ideal : h.Ideal P log attacker delivered)
    (hpinned : h.expectedServerPk = some server.serverKeypair.publicKey)
    {r : HandshakeResponse} (hr : r ∈ delivered) {keys : SessionKeys}
    (hcheck : h.checkResponse P r = .ok keys) : ∃ a ∈ log.inits, ProducedFor a h r keys := by
  obtain ⟨sk, cr, secret, hacc⟩ := checkResponse_eq_ok.mp hcheck
  obtain ⟨pk, hpair⟩ := hacc.keypair
  have hopens : h.Opens P r.serverCiphertext secret := ⟨sk, pk, hpair, hacc.shared⟩
  have hpk : server.serverKeypair.publicKey = r.serverStaticPk := by
    have hbytes := hacc.pinned _ hpinned
    cases hserver : server.serverKeypair.publicKey
    cases hresponse : r.serverStaticPk
    simp_all
  -- the signature: the transcript, so the ciphertext, comes from the server
  have hsigned := ideal.signature r hr cr hacc.random (hpk ▸ hacc.signed)
  obtain ⟨a₀, ha₀, htranscript₀⟩ := hsigned.init_of_transcript
  obtain ⟨-, -, -, hct₀, -⟩ := buildTranscript_inj htranscript₀
  have hsecret : secret ∉ attacker.secrets := ideal.kem a₀ ha₀ secret (hct₀ ▸ hopens)
  -- the MAC: nobody but the server could have confirmed this key
  have hderived := hacc.derived
  let mine : KdfInput := (secret, r.sessionId, r.kdfTimestamp)
  have hmine : mine ∈ h.derivations P log delivered := .inl ⟨r, hr, hopens, rfl⟩
  have hunknown : confirmKey P r secret ∉ attacker.keys := fun hknown => hsecret (ideal.kdfOneWay mine hmine hknown)
  have hconfirmed : P.hmacSha256 (confirmKey P r secret) (clientTranscript cr r) = r.keyConfirmation := by
    rw [confirmKey, KdfInput.keys, ← hderived]
    exact hacc.confirmed
  have hmaced := (ideal.mac r hr cr secret hacc.random hopens hconfirmed).resolve_left hunknown
  obtain ⟨a, ha, hkey, htranscript⟩ := hmaced.init_of_transcript
  obtain ⟨hsid, hcr, hsr, hct, hconfig⟩ := buildTranscript_inj htranscript
  obtain ⟨secret', henc, hkeys⟩ := a.secret_of
  -- equal keys come from equal derivations
  have htheirs : (secret', a.response.sessionId, a.response.kdfTimestamp) ∈
      h.derivations P log delivered := .inr ⟨a, ha, henc, rfl⟩
  have heq := ideal.kdfInjective hmine htheirs (by
    rw [hkeys] at hkey
    exact hkey)
  obtain ⟨hs, -, hts⟩ : secret = secret' ∧ r.sessionId = a.response.sessionId ∧
      r.kdfTimestamp = a.response.kdfTimestamp := by
    simpa only [mine, Prod.mk.injEq] using heq
  refine ⟨a, ha, ?_⟩
  exact
    { clientRandom := hacc.random.trans (congrArg some hcr)
      sessionId := hsid.symm
      serverRandom := hsr.symm
      ciphertext := hct.symm
      config := hconfig.symm
      timestamp := hts.symm
      keys_eq := by rw [hderived, hkeys, hs, hsid, hts]; rfl }

/-! ### Whole runs -/

def respond (P : Primitives) (h : ClientHandshake) (r : HandshakeResponse) : ClientHandshake :=
  (h.processResponse P r).1

structure Continues (h h' : ClientHandshake) : Prop where
  keypair : h'.clientKeypair = h.clientKeypair
  random : h'.clientRandom = h.clientRandom
  pinned : h'.expectedServerPk = h.expectedServerPk
  level : h'.securityLevel = h.securityLevel

theorem Continues.respond {h' : ClientHandshake} (hc : Continues h h') (r : HandshakeResponse) :
    Continues h (h'.respond P r) := by
  obtain ⟨hpair, hrandom, hpin, hlevel⟩ := processResponse_frame P h' r
  exact ⟨hpair.trans hc.keypair, hrandom.trans hc.random, hpin.trans hc.pinned, hlevel.trans hc.level⟩

theorem exec_continues (h : ClientHandshake) (rs : List HandshakeResponse) :
    Continues h (Runs.exec (respond P) h rs) := by
  have hstep : ∀ h' r, Continues h h' → Continues h (respond P h' r) := fun _ r hc => hc.respond r
  exact Runs.exec_invariant hstep rs h ⟨rfl, rfl, rfl, rfl⟩

theorem Ideal.of_continues {h' : ClientHandshake} {log : ServerLog P server} {attacker : Attacker}
    {delivered : List HandshakeResponse} (ideal : h.Ideal P log attacker delivered)
    (hc : Continues h h') : h'.Ideal P log attacker delivered := by
  have hopens : h'.Opens P = h.Opens P := by
    funext ct secret
    rw [Opens, hc.keypair, ← Opens]
  have hder : h'.derivations P log delivered = h.derivations P log delivered := by
    rw [derivations, hopens, ← derivations]
  exact
    { signature := by rw [hc.random, hc.level]; exact ideal.signature
      mac := by rw [hc.random, hopens]; exact ideal.mac
      kdfOneWay := by rw [hder]; exact ideal.kdfOneWay
      kem := by rw [hopens]; exact ideal.kem
      kdfInjective := by rw [hder]; exact ideal.kdfInjective }

/-- Whichever delivered response the client accepts, the pinned server produced it for this client, and derived these
keys. -/
theorem accepted_response_is_authentic (h : ClientHandshake) (log : ServerLog P server)
    (attacker : Attacker) (delivered earlier later : List HandshakeResponse) (r : HandshakeResponse)
    (hpinned : h.expectedServerPk = some server.serverKeypair.publicKey)
    (ideal : h.Ideal P log attacker delivered)
    (hdelivered : delivered = earlier ++ r :: later)
    (established : ClientHandshake) (sessionId : SessionId) (keys : SessionKeys) (config : TunnelConfig)
    (haccept : (Runs.exec (respond P) h earlier).processResponse P r = (established, .ok (sessionId, keys, config))) :
    established.state = .established ∧ established.sessionId = some sessionId ∧
      established.sessionKeys = some keys ∧ established.tunnelConfig = some config ∧
      ∃ a ∈ log.inits,
        h.clientRandom = some a.init.clientRandom ∧
        a.response.sessionId = sessionId ∧
        a.response.serverRandom = r.serverRandom ∧
        a.response.serverCiphertext = r.serverCiphertext ∧
        a.response.config.toBytes = config.toBytes ∧
        a.response.kdfTimestamp = r.kdfTimestamp ∧
        keys = a.keys.swap := by
  have hc : Continues h (Runs.exec (respond P) h earlier) := exec_continues h earlier
  obtain ⟨keys', hcheck, hresult, rfl⟩ := processResponse_eq_ok.mp haccept
  obtain ⟨rfl, rfl, rfl⟩ : sessionId = r.sessionId ∧ keys = keys' ∧ config = r.config := by
    simpa only [Prod.mk.injEq] using hresult
  have hmem : r ∈ delivered := by simp [hdelivered]
  obtain ⟨a, ha, hp⟩ := (ideal.of_continues hc).producedFor (hc.pinned.trans hpinned) hmem hcheck
  exact ⟨rfl, rfl, rfl, rfl, a, ha, hc.random.symm.trans hp.clientRandom, hp.sessionId, hp.serverRandom,
    hp.ciphertext, hp.config, hp.timestamp, hp.keys_eq⟩

end ClientHandshake

/-! A run in which the assumptions hold and the client accepts. -/

namespace AuthSample
open ClientHandshake

def config : TunnelConfig :=
  { clientIpv4 := Block.replicate 4 10, netmaskIpv4 := Block.replicate 4 255
    gatewayIpv4 := Block.replicate 4 1, dnsIpv4 := [], clientIpv6 := none, prefixLenIpv6 := none
    gatewayIpv6 := none, dnsIpv6 := [], mtu := 1420 }

def ciphertext : HybridCiphertext :=
  ⟨.level3, Block.replicate 32 1, Block.fit _ (Block.replicate 32 6).bytes⟩

def secret : HandshakeSecret := .combine (Block.replicate 32 1) (Block.fit _ ciphertext.mlKem.bytes)

def primitives : Primitives := .transparent fun _ => 0

def coins : HybridKem.KeypairCoins := ⟨Block.replicate 32 1, Block.replicate 64 2⟩

def ephemeral : HybridSecretKey × HybridPublicKey := HybridKem.generateKeypairWithLevel primitives .level3 coins

def keys : SessionKeys := deriveSessionKeysWithContext primitives secret 42 1700000000

def server : ServerHandshake :=
  ⟨MlDsaKeypair.generateWithLevel primitives .level3 (Block.replicate 32 7), none⟩

def client : ClientHandshake :=
  { ClientHandshake.withServerPkAndLevel server.serverKeypair.publicKey .level3 with
    clientKeypair := some ephemeral
    clientRandom := some (Block.replicate 32 3)
    state := .awaitingResponse }

def signature : MlDsaSignature := ⟨.level3, Block.replicate _ 0⟩

def response : HandshakeResponse :=
  { sessionId := 42, serverCiphertext := ciphertext, serverStaticPk := server.serverKeypair.publicKey
    signature, serverRandom := Block.replicate 32 4, config
    keyConfirmation := Block.replicate 32 0, kdfTimestamp := 1700000000 }

theorem signed (m : Bytes) (coins : Block 32) :
    MlDsa.sign primitives server.serverKeypair.secretKey m .level3 coins = .ok signature :=
  MlDsa.sign_generated .level3 (Block.replicate 32 7) m coins

theorem verified (m : Bytes) :
    MlDsa.verify primitives server.serverKeypair.publicKey m signature .level3 = .ok () := by
  obtain ⟨sig, hsig, -, hverify⟩ := MlDsa.verify_sign (P := primitives) .level3 (Block.replicate 32 7) m default
  cases hsig.symm.trans (signed m default)
  exact hverify

theorem encapsulated {x : HandshakeSecret} :
    HybridKem.encapsulate primitives ephemeral.2 ⟨Block.replicate 32 5, Block.replicate 32 6⟩ = .ok (x, ciphertext) ↔
      x = secret := by
  have hsent : HybridKem.encapsulate primitives ephemeral.2 ⟨Block.replicate 32 5, Block.replicate 32 6⟩ =
      .ok (secret, ciphertext) :=
    bind_ok_iff.mpr ⟨(), ensure_of (by decide), rfl⟩
  rw [hsent]
  exact ⟨fun h => (Prod.mk.inj (Except.ok.inj h)).1.symm, fun h => by rw [h]⟩

theorem decapsulated : HybridKem.decapsulate primitives ephemeral.1 ciphertext = .ok secret :=
  HybridKem.decapsulate_of_level_eq (by decide)

def initAnswer : InitAnswer primitives server where
  init := { clientEphemeralPk := ephemeral.2, clientRandom := Block.replicate 32 3, securityLevel := .level3
            credentials := none }
  sessionId := 42
  initial := config
  assigned := config
  draws := ⟨Block.replicate 32 4, ⟨Block.replicate 32 5, Block.replicate 32 6⟩, Block.replicate 32 8, 1700000000⟩
  refreshCoins := Block.replicate 32 9
  answer := response
  keys := keys.swap
  response := response
  processed := ServerHandshake.processInit_eq_ok.mpr
    ⟨secret, ciphertext, signature, encapsulated.mpr rfl, signed _ _, rfl, rfl⟩
  refreshed := refreshHandshakeResponseAuth_eq_ok.mpr ⟨signature, signed _ _, rfl⟩

def log : ServerLog primitives server := ⟨[initAnswer], [], []⟩

theorem derivations_eq {x : KdfInput} (h : x ∈ client.derivations primitives log [response]) :
    x = (secret, 42, 1700000000) := by
  obtain ⟨s, context⟩ := x
  rcases h with ⟨r, hr, ⟨sk, pk, hpair, hdec⟩, hctx⟩ | ⟨a, ha, henc, hctx⟩
  · obtain rfl := List.mem_singleton.mp hr
    cases Option.some.inj hpair
    have hsecret : s = secret := Except.ok.inj (hdec.symm.trans decapsulated)
    exact Prod.ext hsecret hctx
  · obtain rfl := List.mem_singleton.mp ha
    exact Prod.ext (encapsulated.mp henc) hctx

theorem ideal : client.Ideal primitives log ⟨∅, ∅⟩ [response] where
  signature r hr cr hcr _ := by
    obtain rfl := List.mem_singleton.mp hr
    cases hcr
    exact .inl ⟨initAnswer, List.mem_singleton_self _, rfl⟩
  mac r hr cr x hcr hopens _ := by
    have hx : ((x, r.sessionId, r.kdfTimestamp) : KdfInput) = (secret, 42, 1700000000) :=
      derivations_eq (.inl ⟨r, hr, hopens, rfl⟩)
    obtain rfl := List.mem_singleton.mp hr
    cases hcr
    obtain rfl : x = secret := congrArg Prod.fst hx
    exact .inr (.inl ⟨initAnswer, List.mem_singleton_self _, rfl, rfl⟩)
  kdfOneWay _ _ h := h.elim
  kem _ _ _ _ h := h.elim
  kdfInjective _ hx _ hy _ := (derivations_eq hx).trans (derivations_eq hy).symm

theorem accepts : Accepts primitives client response ephemeral.1 (Block.replicate 32 3) secret keys where
  awaiting := .inl rfl
  keypair := ⟨_, rfl⟩
  random := rfl
  pinned _ hpk := congrArg MlDsaPublicKey.bytes (Option.some.inj hpk).symm
  pkSize := Block.length_bytes _
  signed := verified _
  shared := decapsulated
  derived := rfl
  confirmed := rfl

theorem accepted_response_is_authentic_sample :
    ∃ a ∈ log.inits, client.clientRandom = some a.init.clientRandom ∧
      a.response.sessionId = 42 ∧ a.response.kdfTimestamp = 1700000000 ∧ keys = a.keys.swap := by
  have hcheck := ClientHandshake.checkResponse_eq_ok.mpr ⟨_, _, _, accepts⟩
  obtain ⟨-, -, -, -, a, ha, hrandom, hsid, -, -, -, hts, hkeys⟩ :=
    ClientHandshake.accepted_response_is_authentic client log ⟨∅, ∅⟩ [response] [] [] response rfl ideal rfl _
      42 keys config
      (ClientHandshake.processResponse_eq_ok.mpr ⟨keys, hcheck, rfl, rfl⟩)
  exact ⟨a, ha, hrandom, hsid, hts, hkeys⟩

end AuthSample

end HpnVpn
