import HpnVpn.ServerAuth

/-! Rekey authentication against an attacker with the session's keys.  What is left is the signature over the
transcript and the MAC under the new keys; neither covers the client's ephemeral key. -/
namespace HpnVpn
open Wire

/-! ### The server's side -/

section log
variable {P : Primitives} {server : ServerHandshake}

theorem RekeyAnswer.secret_of (a : RekeyAnswer P server) :
    ∃ secret, HybridKem.encapsulate P a.rekey.clientEphemeralPk a.draws.encapsulate =
        .ok (secret, a.response.serverCiphertext) ∧
      a.keys = (KdfInput.keys P (secret, a.sessionId, a.response.kdfTimestamp)).swap := by
  obtain ⟨secret, ct, sig, henc, -, hkeys, hresponse⟩ := ServerHandshake.processRekey_eq_ok.mp a.processed
  rw [hresponse]
  exact ⟨secret, henc, hkeys⟩

theorem ServerLog.Signed.rekey_of_transcript {log : ServerLog P server} {sid : SessionId} {cr sr : Block 32}
    {ct : HybridCiphertext} (h : log.Signed (buildRekeyTranscript sid cr sr ct)) :
    ∃ a ∈ log.rekeys, buildRekeyTranscript sid cr sr ct = a.transcript := by
  rcases h with ⟨a, -, ha⟩ | hrekey | ⟨a, -, ha⟩
  · rw [InitAnswer.transcript, ClientHandshake.clientTranscript] at ha
    exact absurd ha.symm buildTranscript_ne_rekey
  · exact hrekey
  · exact absurd ha buildRekeyTranscript_ne_rebindAck

theorem ServerLog.Maced.rekey_of_transcript {log : ServerLog P server} {key : Block keySize} {sid : SessionId}
    {cr sr : Block 32} {ct : HybridCiphertext} (h : log.Maced key (buildRekeyTranscript sid cr sr ct)) :
    ∃ a ∈ log.rekeys, key = a.keys.sendKey ∧ buildRekeyTranscript sid cr sr ct = a.transcript := by
  rcases h with ⟨a, -, -, ha⟩ | hrekey
  · rw [InitAnswer.transcript, ClientHandshake.clientTranscript] at ha
    exact absurd ha.symm buildTranscript_ne_rekey
  · exact hrekey

end log

/-- An attacker who has the keys a session currently uses. -/
structure SessionAttacker (current : SessionKeys) extends Attacker where
  sendKey_mem : current.sendKey ∈ keys
  recvKey_mem : current.recvKey ∈ keys

/-! ### The client's side -/

namespace ClientRekey
variable {P : Primitives} {server : ServerHandshake} {h : ClientRekey} {r : RekeyResponse} {keys : SessionKeys}

structure Accepts (P : Primitives) (h : ClientRekey) (r : RekeyResponse) (sk : HybridSecretKey)
    (clientRandom : Block 32) (secret : HandshakeSecret) (keys : SessionKeys) : Prop where
  signed : MlDsa.verify P h.serverPk (buildRekeyTranscript h.sessionId clientRandom r.serverRandom
    r.serverCiphertext) r.signature h.securityLevel = .ok ()
  shared : HybridKem.decapsulate P sk r.serverCiphertext = .ok secret
  derived : keys = deriveSessionKeysWithContext P secret r.sessionId r.kdfTimestamp
  confirmed : P.hmacSha256 keys.recvKey (buildRekeyTranscript h.sessionId clientRandom r.serverRandom
    r.serverCiphertext) = r.keyConfirmation

theorem checkResponse_eq_ok {sk : HybridSecretKey} {clientRandom : Block 32} :
    checkResponse P h sk clientRandom r = .ok keys ↔ ∃ secret, Accepts P h r sk clientRandom secret keys := by
  simp only [checkResponse, bind_ok_iff, mapError_ok_iff, verifyKeyConfirmation, ensure_eq_ok]
  constructor
  · rintro ⟨⟨⟩, hsigned, secret, hshared, -, hmac, hkeys⟩
    cases hkeys
    exact ⟨secret, hsigned, hshared, rfl, hmac⟩
  · rintro ⟨secret, hsigned, hshared, rfl, hmac⟩
    exact ⟨(), hsigned, secret, hshared, (), hmac, rfl⟩

def Opens (P : Primitives) (h : ClientRekey) (ct : HybridCiphertext) (secret : HandshakeSecret) : Prop :=
  ∃ sk pk, h.clientKeypair = some (sk, pk) ∧ HybridKem.decapsulate P sk ct = .ok secret

def derivations (P : Primitives) (h : ClientRekey) (r : RekeyResponse) : Set KdfInput :=
  { x | h.Opens P r.serverCiphertext x.1 ∧ x.2 = (r.sessionId, r.kdfTimestamp) }

def rekeyDerivations (log : ServerLog P server) : Set KdfInput :=
  { x | ∃ a ∈ log.rekeys,
      HybridKem.encapsulate P a.rekey.clientEphemeralPk a.draws.encapsulate = .ok (x.1, a.response.serverCiphertext) ∧
      x.2 = (a.sessionId, a.response.kdfTimestamp) }

/-- What this client checks signature and MAC of. -/
def transcript (h : ClientRekey) (clientRandom : Block 32) (r : RekeyResponse) : Bytes :=
  buildRekeyTranscript h.sessionId clientRandom r.serverRandom r.serverCiphertext

/-- What an attacker without the signing key cannot do with ideal primitives, whatever session keys it holds. -/
structure Ideal (P : Primitives) (h : ClientRekey) (log : ServerLog P server) (attacker : Attacker)
    (r : RekeyResponse) : Prop where
  /-- Signatures under the server's key are copied, never made. -/
  signature : ∀ cr, h.clientRandom = some cr →
    MlDsa.verify P server.serverKeypair.publicKey (h.transcript cr r) r.signature h.securityLevel = .ok () →
      log.Signed (h.transcript cr r)
  /-- A MAC is copied, or made with a key the attacker has. -/
  mac : ∀ cr, h.clientRandom = some cr → ∀ x ∈ h.derivations P r,
    P.hmacSha256 (x.keys P).recvKey (h.transcript cr r) = r.keyConfirmation →
      (x.keys P).recvKey ∈ attacker.keys ∨ log.Maced (x.keys P).recvKey (h.transcript cr r)
  /-- The key this response leads to is known only with the secret it comes from. -/
  kdfOneWay : ∀ x ∈ h.derivations P r, (x.keys P).recvKey ∈ attacker.keys → x.1 ∈ attacker.secrets
  /-- No two derivations of the run collide. -/
  kdfInjective : Set.InjOn (fun x : KdfInput => (x.keys P).recvKey) (h.derivations P r ∪ rekeyDerivations log)
  /-- What a ciphertext made by the server carries for this client stays unknown. -/
  kemSecret : ∀ a ∈ log.rekeys, ∀ secret, h.Opens P a.response.serverCiphertext secret → secret ∉ attacker.secrets
  /-- The client finds the server's secret in a ciphertext only if it was made for the client's key. -/
  kemBinding : ∀ a ∈ log.rekeys, ∀ secret,
    HybridKem.encapsulate P a.rekey.clientEphemeralPk a.draws.encapsulate =
        .ok (secret, a.response.serverCiphertext) →
      h.Opens P a.response.serverCiphertext secret → ∃ sk, h.clientKeypair = some (sk, a.rekey.clientEphemeralPk)

/-- One answer of the server explains the keys of a client that takes `r` under `clientRandom`. -/
structure ProducedFor (a : RekeyAnswer P server) (h : ClientRekey) (clientRandom : Block 32)
    (keys : SessionKeys) : Prop where
  sessionId : a.sessionId = h.sessionId
  ephemeralPk : ∃ sk, h.clientKeypair = some (sk, a.rekey.clientEphemeralPk)
  clientRandom : a.rekey.clientRandom = clientRandom
  keys_eq : keys = a.keys.swap

/-- The signature brings the ciphertext home to the server, so its secret is unknown and only the server can have made
the MAC. -/
theorem Ideal.producedFor {log : ServerLog P server} {attacker : Attacker} (ideal : h.Ideal P log attacker r)
    (hpinned : h.serverPk = server.serverKeypair.publicKey) {sk : HybridSecretKey} {pk : HybridPublicKey}
    {clientRandom : Block 32} (hpair : h.clientKeypair = some (sk, pk)) (hrandom : h.clientRandom = some clientRandom)
    (hcheck : h.checkResponse P sk clientRandom r = .ok keys) :
    ∃ a ∈ log.rekeys, ProducedFor a h clientRandom keys := by
  obtain ⟨secret, hacc⟩ := checkResponse_eq_ok.mp hcheck
  have hopens : h.Opens P r.serverCiphertext secret := ⟨sk, pk, hpair, hacc.shared⟩
  let mine : KdfInput := (secret, r.sessionId, r.kdfTimestamp)
  have hmine : mine ∈ h.derivations P r := ⟨hopens, rfl⟩
  have hderived : keys = mine.keys P := hacc.derived
  have hsigned := ideal.signature clientRandom hrandom (hpinned ▸ hacc.signed)
  obtain ⟨a₀, ha₀, htranscript₀⟩ := hsigned.rekey_of_transcript
  obtain ⟨-, -, -, hct₀⟩ := buildRekeyTranscript_inj htranscript₀
  have hsecret : secret ∉ attacker.secrets := ideal.kemSecret a₀ ha₀ secret (hct₀ ▸ hopens)
  have hunknown : (mine.keys P).recvKey ∉ attacker.keys := fun hknown => hsecret (ideal.kdfOneWay mine hmine hknown)
  have hmaced := (ideal.mac clientRandom hrandom mine hmine (hderived ▸ hacc.confirmed)).resolve_left hunknown
  obtain ⟨a, ha, hkey, htranscript⟩ := hmaced.rekey_of_transcript
  obtain ⟨hsid, hcr, -, hct⟩ := buildRekeyTranscript_inj htranscript
  obtain ⟨secret', henc, hkeys⟩ := a.secret_of
  -- equal keys come from equal derivations, although the client's context is the message's
  have htheirs : (secret', a.sessionId, a.response.kdfTimestamp) ∈ rekeyDerivations log := ⟨a, ha, henc, rfl⟩
  have heq : mine = (secret', a.sessionId, a.response.kdfTimestamp) := by
    apply ideal.kdfInjective (.inl hmine) (.inr htheirs)
    rw [hkeys] at hkey
    exact hkey
  have hs : secret = secret' := congrArg Prod.fst heq
  refine ⟨a, ha, hsid.symm, ?_, hcr.symm, ?_⟩
  · rw [hct, hs] at hopens
    exact ideal.kemBinding a ha secret' henc hopens
  · rw [hderived, heq, hkeys]
    rfl

/-- If a response is accepted for a request, the pinned server answered this request for this session, and the
client's keys are the other view of its keys. -/
theorem accepted_rekey_is_authentic (h : ClientRekey) (coins : HybridKem.KeypairCoins) (clientRandom : Block 32)
    (log : ServerLog P server) (current : SessionKeys) (attacker : SessionAttacker current) (r : RekeyResponse)
    (hpinned : h.serverPk = server.serverKeypair.publicKey)
    (ideal : (h.createRequest P coins clientRandom).1.Ideal P log attacker.toAttacker r)
    (finished : ClientRekey) (keys : SessionKeys)
    (haccept : (h.createRequest P coins clientRandom).1.processResponse P r = (finished, .ok keys)) :
    ∃ a ∈ log.rekeys, a.rekey = (h.createRequest P coins clientRandom).2 ∧ a.sessionId = h.sessionId ∧
      keys = a.keys.swap := by
  have hcheck : (h.createRequest P coins clientRandom).1.checkResponse P
      (HybridKem.generateKeypairWithLevel P h.securityLevel coins).1 clientRandom r = .ok keys :=
    (Prod.mk.inj haccept).2
  obtain ⟨a, ha, hp⟩ := ideal.producedFor hpinned rfl rfl hcheck
  obtain ⟨sk, hpk⟩ := hp.ephemeralPk
  have hephemeral : (HybridKem.generateKeypairWithLevel P h.securityLevel coins).2 = a.rekey.clientEphemeralPk :=
    congrArg Prod.snd (Option.some.inj hpk)
  refine ⟨a, ha, ?_, hp.sessionId, hp.keys_eq⟩
  calc a.rekey = ⟨a.rekey.clientEphemeralPk, a.rekey.clientRandom⟩ := rfl
    _ = (h.createRequest P coins clientRandom).2 := by rw [← hephemeral, hp.clientRandom]; rfl

end ClientRekey

/-! A rekey in which the assumptions hold although the attacker has the session's keys. -/

namespace RekeyAuthSample
open AuthSample hiding client response log ideal accepts

def client : ClientRekey := .withSecurityLevel server.serverKeypair.publicKey 42 .level3

def pending : ClientRekey := (client.createRequest primitives coins (Block.replicate 32 3)).1

def response : RekeyResponse :=
  { serverCiphertext := ciphertext, signature
    serverRandom := Block.replicate 32 4, newKeyId := 1, keyConfirmation := Block.replicate 32 0
    kdfTimestamp := 1700000000, sessionId := 42 }

def current : SessionKeys := deriveSessionKeysWithContext primitives secret 42 1699999400

def attacker : SessionAttacker current where
  secrets := ∅
  keys := {current.sendKey, current.recvKey}
  sendKey_mem := .inl rfl
  recvKey_mem := .inr rfl

def answer : RekeyAnswer primitives server where
  rekey := (client.createRequest primitives coins (Block.replicate 32 3)).2
  currentKeyId := 0
  sessionId := 42
  draws := ⟨Block.replicate 32 4, ⟨Block.replicate 32 5, Block.replicate 32 6⟩, Block.replicate 32 8, 1700000000⟩
  keys := keys.swap
  response := response
  processed := ServerHandshake.processRekey_eq_ok.mpr
    ⟨secret, ciphertext, signature, encapsulated.mpr rfl, signed _ _, rfl, rfl⟩

def log : ServerLog primitives server := ⟨[], [answer], []⟩

theorem opened {x : HandshakeSecret} (h : pending.Opens primitives ciphertext x) : x = secret := by
  obtain ⟨sk, pk, hpair, hdec⟩ := h
  cases Option.some.inj hpair
  exact Except.ok.inj (hdec.symm.trans decapsulated)

theorem derived {x : KdfInput} (h : x ∈ pending.derivations primitives response) : x = (secret, 42, 1700000000) :=
  Prod.ext (opened h.1) h.2

theorem derived_server {x : KdfInput} (h : x ∈ ClientRekey.rekeyDerivations log) : x = (secret, 42, 1700000000) := by
  obtain ⟨a, ha, henc, hctx⟩ := h
  obtain rfl := List.mem_singleton.mp ha
  exact Prod.ext (encapsulated.mp henc) hctx

theorem new_key_unknown : keys.recvKey ∉ attacker.keys := by
  have hne : keys.recvKey ≠ current.sendKey ∧ keys.recvKey ≠ current.recvKey := by decide +kernel
  exact fun h => h.elim hne.1 hne.2

theorem ideal : pending.Ideal primitives log attacker.toAttacker response where
  signature cr hcr _ := by
    cases hcr
    exact .inr (.inl ⟨answer, List.mem_singleton_self _, rfl⟩)
  mac cr hcr x hx _ := by
    cases hcr
    rw [derived hx]
    exact .inr (.inr ⟨answer, List.mem_singleton_self _, rfl, rfl⟩)
  kdfOneWay x hx hknown := by
    rw [derived hx] at hknown
    exact absurd hknown new_key_unknown
  kdfInjective x hx y hy _ := by
    rw [hx.elim derived derived_server, hy.elim derived derived_server]
  kemSecret _ _ _ _ h := h.elim
  kemBinding a ha _ _ _ := by
    obtain rfl := List.mem_singleton.mp ha
    exact ⟨_, rfl⟩

theorem accepts : pending.Accepts primitives response ephemeral.1 (Block.replicate 32 3) secret keys :=
  ⟨verified _, decapsulated, rfl, rfl⟩

theorem accepted_rekey_is_authentic_sample :
    ∃ a ∈ log.rekeys, a.rekey = (client.createRequest primitives coins (Block.replicate 32 3)).2 ∧
      a.sessionId = 42 ∧ keys = a.keys.swap :=
  ClientRekey.accepted_rekey_is_authentic client coins (Block.replicate 32 3) log current attacker response rfl ideal
    { pending with clientKeypair := none, clientRandom := none } keys
    (congrArg (Prod.mk _) (ClientRekey.checkResponse_eq_ok.mpr ⟨secret, accepts⟩))

end RekeyAuthSample

end HpnVpn
