import HpnVpn.Messages

/-! The handshake and rekey state machines of both ends.  A refusal carries the text the source gives it and the state
it leaves. -/
namespace HpnVpn
open Wire

/-! ### Transcripts -/

def buildTranscript (version : UInt8) (sessionId : Option SessionId) (clientRandom serverRandom : Block 32)
    (ciphertext : HybridCiphertext) (config : TunnelConfig) : Bytes :=
  let sessionBytes := match sessionId with
    | some sid => (le64 sid).bytes
    | none => []
  version :: (sessionBytes ++ (clientRandom.bytes ++ (serverRandom.bytes ++ (ciphertext.toBytes ++
    ((be32 (UInt32.ofNat config.toBytes.length)).bytes ++ config.toBytes)))))

/-- The transcript of older servers; used for diagnostics only. -/
def buildTranscriptLegacyNoConfig (version : UInt8) (sessionId : Option SessionId)
    (clientRandom serverRandom : Block 32) (ciphertext : HybridCiphertext) : Bytes :=
  let sessionBytes := match sessionId with
    | some sid => (le64 sid).bytes
    | none => []
  version :: (sessionBytes ++ (clientRandom.bytes ++ (serverRandom.bytes ++ ciphertext.toBytes)))

def rekeyDomain : Bytes := ascii "HPN-REKEY-V1"

def buildRekeyTranscript (sessionId : SessionId) (clientRandom serverRandom : Block 32)
    (ciphertext : HybridCiphertext) : Bytes :=
  rekeyDomain ++ (protocolVersion :: ((be64 sessionId).bytes ++ (clientRandom.bytes ++
    (serverRandom.bytes ++ ciphertext.toBytes))))

def rebindAckTranscriptDomain : Bytes := ascii "HPN-REBIND-ACK-V1"

/-- What the server signs when it acknowledges a new endpoint of a session. -/
def buildRebindAckTranscript (sessionId : SessionId) (timestamp : UInt64) (endpoint : SocketAddr) : Bytes :=
  let endpointBytes := match endpoint with
    | .v4 ip port => 4 :: (ip.bytes ++ (be16 port).bytes)
    | .v6 ip port _ _ => 6 :: (ip.bytes ++ (be16 port).bytes)
  rebindAckTranscriptDomain ++ ((be64 sessionId).bytes ++ ((be64 timestamp).bytes ++ endpointBytes))

variable {sid sid' : SessionId} {cr cr' sr sr' : Block 32} {ct ct' : HybridCiphertext} {config : TunnelConfig}

/-- A handshake transcript determines everything it was built from, the configuration up to encoding. -/
theorem buildTranscript_inj {config' : TunnelConfig} (h : buildTranscript protocolVersion (some sid) cr sr ct config =
      buildTranscript protocolVersion (some sid') cr' sr' ct' config') :
    sid = sid' ∧ cr = cr' ∧ sr = sr' ∧ ct = ct' ∧ config.toBytes = config'.toBytes := by
  obtain ⟨hsid, h⟩ := block_append_inj (List.cons.inj h).2
  obtain ⟨hcr, h⟩ := block_append_inj h
  obtain ⟨hsr, h⟩ := block_append_inj h
  obtain ⟨hct, h⟩ := HybridPair.toBytes_append_inj h
  obtain ⟨-, hconfig⟩ := block_append_inj h
  exact ⟨le64_injective hsid, hcr, hsr, hct, hconfig⟩

/-- Rekey and rebind transcripts start with their domain, a handshake transcript with the version. -/
theorem buildTranscript_ne_rekey {sid : Option SessionId} :
    buildTranscript protocolVersion sid cr sr ct config ≠ buildRekeyTranscript sid' cr' sr' ct' := by
  intro h
  have hhead : some protocolVersion = some (72 : UInt8) := congrArg List.head? h
  exact absurd hhead (by decide)

variable {timestamp : UInt64} {endpoint : SocketAddr}

theorem buildTranscript_ne_rebindAck {sid : Option SessionId} :
    buildTranscript protocolVersion sid cr sr ct config ≠ buildRebindAckTranscript sid' timestamp endpoint := by
  intro h
  have hhead : some protocolVersion = some (72 : UInt8) := congrArg List.head? h
  exact absurd hhead (by decide)

theorem buildRekeyTranscript_inj (h : buildRekeyTranscript sid cr sr ct = buildRekeyTranscript sid' cr' sr' ct') :
    sid = sid' ∧ cr = cr' ∧ sr = sr' ∧ ct = ct' := by
  have htail := (List.cons.inj (List.append_cancel_left h)).2
  obtain ⟨hsid, htail⟩ := block_append_inj htail
  obtain ⟨hcr, htail⟩ := block_append_inj htail
  obtain ⟨hsr, htail⟩ := block_append_inj htail
  obtain ⟨hct, -⟩ := HybridPair.toBytes_append_inj (congrArg (· ++ []) htail)
  exact ⟨be64_injective hsid, hcr, hsr, hct⟩

theorem buildRebindAckTranscript_inj {timestamp' : UInt64} {endpoint' : SocketAddr}
    (h : buildRebindAckTranscript sid timestamp endpoint = buildRebindAckTranscript sid' timestamp' endpoint') :
    sid = sid' ∧ timestamp = timestamp' ∧ endpoint.ip = endpoint'.ip ∧ endpoint.port = endpoint'.port := by
  obtain ⟨hsid, htail⟩ := block_append_inj (List.append_cancel_left h)
  obtain ⟨hts, htail⟩ := block_append_inj htail
  refine ⟨be64_injective hsid, be64_injective hts, ?_⟩
  cases endpoint <;> cases endpoint' <;> dsimp only at htail
  case v4.v4 =>
    obtain ⟨hip, hport⟩ := block_append_inj (List.cons.inj htail).2
    exact ⟨congrArg IpAddr.v4 hip, be16_injective (Block.ext hport)⟩
  case v6.v6 =>
    obtain ⟨hip, hport⟩ := block_append_inj (List.cons.inj htail).2
    exact ⟨congrArg IpAddr.v6 hip, be16_injective (Block.ext hport)⟩
  all_goals exact absurd (List.cons.inj htail).1 (by decide)

/-- The two domains part at their seventh byte. -/
theorem buildRekeyTranscript_ne_rebindAck :
    buildRekeyTranscript sid cr sr ct ≠ buildRebindAckTranscript sid' timestamp endpoint := by
  intro h
  have hseventh : some (75 : UInt8) = some 66 := congrArg (fun m => (m.drop 6).head?) h
  exact absurd hseventh (by decide)

inductive SignedInput
  | handshake (sessionId : SessionId) (clientRandom serverRandom : Block 32) (ciphertext : HybridCiphertext)
      (config : TunnelConfig)
  | rekey (sessionId : SessionId) (clientRandom serverRandom : Block 32) (ciphertext : HybridCiphertext)
  | rebindAck (sessionId : SessionId) (timestamp : UInt64) (endpoint : SocketAddr)

/-- What a signature of each kind commits to: the configuration up to its encoding, the endpoint up to
its address and port. -/
inductive SignedContent
  | handshake (sessionId : SessionId) (clientRandom serverRandom : Block 32) (ciphertext : HybridCiphertext)
      (config : Bytes)
  | rekey (sessionId : SessionId) (clientRandom serverRandom : Block 32) (ciphertext : HybridCiphertext)
  | rebindAck (sessionId : SessionId) (timestamp : UInt64) (ip : IpAddr) (port : UInt16)
deriving DecidableEq

namespace SignedInput

def transcript : SignedInput → Bytes
  | handshake sid cr sr ct config => buildTranscript protocolVersion (some sid) cr sr ct config
  | rekey sid cr sr ct => buildRekeyTranscript sid cr sr ct
  | rebindAck sid timestamp endpoint => buildRebindAckTranscript sid timestamp endpoint

def content : SignedInput → SignedContent
  | handshake sid cr sr ct config => .handshake sid cr sr ct config.toBytes
  | rekey sid cr sr ct => .rekey sid cr sr ct
  | rebindAck sid timestamp endpoint => .rebindAck sid timestamp endpoint.ip endpoint.port

/-- Signed transcripts are unambiguous: two of them are equal exactly if they are of one kind and commit
to the same content. -/
theorem transcript_eq_iff_content_eq (a b : SignedInput) : a.transcript = b.transcript ↔ a.content = b.content := by
  constructor
  · intro h
    cases a <;> cases b <;> dsimp only [transcript] at h
    case handshake.handshake =>
      obtain ⟨rfl, rfl, rfl, rfl, hconfig⟩ := buildTranscript_inj h
      rw [content, content, hconfig]
    case rekey.rekey =>
      obtain ⟨rfl, rfl, rfl, rfl⟩ := buildRekeyTranscript_inj h
      rfl
    case rebindAck.rebindAck =>
      obtain ⟨rfl, rfl, hip, hport⟩ := buildRebindAckTranscript_inj h
      rw [content, content, hip, hport]
    case handshake.rekey => exact (buildTranscript_ne_rekey h).elim
    case handshake.rebindAck => exact (buildTranscript_ne_rebindAck h).elim
    case rekey.handshake => exact (buildTranscript_ne_rekey h.symm).elim
    case rekey.rebindAck => exact (buildRekeyTranscript_ne_rebindAck h).elim
    case rebindAck.handshake => exact (buildTranscript_ne_rebindAck h.symm).elim
    case rebindAck.rekey => exact (buildRekeyTranscript_ne_rebindAck h.symm).elim
  · intro h
    cases a <;> cases b <;> injection h
    case handshake.handshake hsid hcr hsr hct hconfig =>
      simp only [transcript, buildTranscript, hsid, hcr, hsr, hct, hconfig]
    case rekey.rekey hsid hcr hsr hct => rw [hsid, hcr, hsr, hct]
    case rebindAck.rebindAck sid ts endpoint sid' ts' endpoint' hsid hts hip hport =>
      subst hsid hts
      cases endpoint <;> cases endpoint' <;> injection hip
      case v4.v4 hip =>
        dsimp only [SocketAddr.port] at hport
        simp only [transcript, buildRebindAckTranscript, hip, hport]
      case v6.v6 hip =>
        dsimp only [SocketAddr.port] at hport
        simp only [transcript, buildRebindAckTranscript, hip, hport]

end SignedInput

/-! ### Key confirmation -/

variable (P : Primitives)

def computeKeyConfirmation (sendKey : Block keySize) (transcript : Bytes) : Block 32 :=
  P.hmacSha256 sendKey transcript

def verifyKeyConfirmation (recvKey : Block keySize) (transcript : Bytes) (mac : Block 32) :
    Except ProtocolError Unit :=
  ensure (P.hmacSha256 recvKey transcript = mac) (.handshakeFailed "key confirmation MAC verification failed")

/-! ### Client -/

inductive HandshakeState
  | idle
  | awaitingResponse
  | solvingCookie
  | awaitingResponseAfterCookie
  | established
  | failed (reason : String)
deriving DecidableEq

structure ClientHandshake where
  state : HandshakeState
  clientKeypair : Option (HybridSecretKey × HybridPublicKey)
  clientRandom : Option (Block 32)
  expectedServerPk : Option MlDsaPublicKey
  serverKemPk : Option HybridPublicKey
  sessionId : Option SessionId
  sessionKeys : Option SessionKeys
  tunnelConfig : Option TunnelConfig
  securityLevel : SecurityLevel
deriving DecidableEq

namespace ClientHandshake

def withSecurityLevel (level : SecurityLevel) : ClientHandshake where
  state := .idle
  clientKeypair := none
  clientRandom := none
  expectedServerPk := none
  serverKemPk := none
  sessionId := none
  sessionKeys := none
  tunnelConfig := none
  securityLevel := level

def withServerPkAndLevel (serverPk : MlDsaPublicKey) (level : SecurityLevel) : ClientHandshake :=
  { withSecurityLevel level with expectedServerPk := some serverPk }

def createInit (P : Primitives) (h : ClientHandshake) (coins : HybridKem.KeypairCoins)
    (clientRandom : Block 32) : Except CryptoError (ClientHandshake × HandshakeInit) := do
  ensure (h.state = .idle) .keyGeneration
  let (sk, pk) := HybridKem.generateKeypairWithLevel P h.securityLevel coins
  return ({ h with clientKeypair := some (sk, pk), clientRandom := some clientRandom,
                   state := .awaitingResponse },
    { clientEphemeralPk := pk, clientRandom, securityLevel := h.securityLevel, credentials := none })

theorem createInit_of_idle {P : Primitives} {h : ClientHandshake} (hidle : h.state = .idle)
    (coins : HybridKem.KeypairCoins) (clientRandom : Block 32) :
    h.createInit P coins clientRandom =
      .ok ({ h with clientKeypair := some (HybridKem.generateKeypairWithLevel P h.securityLevel coins)
                    clientRandom := some clientRandom, state := .awaitingResponse },
        { clientEphemeralPk := (HybridKem.generateKeypairWithLevel P h.securityLevel coins).2
          clientRandom, securityLevel := h.securityLevel, credentials := none }) :=
  bind_ok_iff.mpr ⟨(), ensure_of hidle, rfl⟩

/-- A refused response: the reason the handshake is marked failed with, if it is, and the error. -/
structure Refusal where
  failed : Option String
  error : ProtocolError
deriving DecidableEq

def refuse (reason message : String) : Refusal := ⟨some reason, .handshakeFailed message⟩

def clientTranscript (clientRandom : Block 32) (r : HandshakeResponse) : Bytes :=
  buildTranscript protocolVersion (some r.sessionId) clientRandom r.serverRandom r.serverCiphertext r.config

def verifyTranscript (P : Primitives) (level : SecurityLevel) (clientRandom : Block 32)
    (r : HandshakeResponse) : Except Refusal Unit :=
  match MlDsa.verify P r.serverStaticPk (clientTranscript clientRandom r) r.signature level with
  | .ok () => .ok ()
  | .error _ =>
    let legacy := buildTranscriptLegacyNoConfig protocolVersion (some r.sessionId) clientRandom
      r.serverRandom r.serverCiphertext
    match MlDsa.verify P r.serverStaticPk legacy r.signature level with
    | .ok () => .error (refuse "signature verification failed"
        ("signature verification failed: server appears to use legacy handshake transcript " ++
          "(missing config binding); update server binary"))
    | .error _ => .error (refuse "signature verification failed" "signature verification failed")

/-- Every check on a response, in the order of the source; the keys that it establishes. -/
def checkResponse (P : Primitives) (h : ClientHandshake) (r : HandshakeResponse) :
    Except Refusal SessionKeys := do
  ensure (h.state = .awaitingResponse ∨ h.state = .awaitingResponseAfterCookie)
    ⟨some "invalid state", .invalidStateTransition⟩
  let (clientSk, _) ← okOr h.clientKeypair ⟨none, .invalidStateTransition⟩
  let clientRandom ← okOr h.clientRandom ⟨none, .invalidStateTransition⟩
  ensure (∀ pk ∈ h.expectedServerPk, pk.bytes = r.serverStaticPk.bytes)
    (refuse "server key mismatch" "server public key mismatch")
  let expectedPkSize := h.securityLevel.mldsaPublicKeySize
  let actual := r.serverStaticPk.bytes.length
  ensure (actual = expectedPkSize) (refuse "server security level mismatch"
    (s!"server public key size mismatch: expected {expectedPkSize} bytes for {h.securityLevel.debug}, " ++
      s!"got {actual}. Server may not support this security level."))
  verifyTranscript P h.securityLevel clientRandom r
  let secret ← (HybridKem.decapsulate P clientSk r.serverCiphertext).mapError
    fun _ => refuse "decapsulation failed" "decapsulation failed"
  let keys := deriveSessionKeysWithContext P secret r.sessionId r.kdfTimestamp
  (verifyKeyConfirmation P keys.recvKey (clientTranscript clientRandom r) r.keyConfirmation).mapError
    fun e => ⟨some "key confirmation failed", e⟩
  return keys

def processResponse (P : Primitives) (h : ClientHandshake) (r : HandshakeResponse) :
    ClientHandshake × Except ProtocolError (SessionId × SessionKeys × TunnelConfig) :=
  match checkResponse P h r with
  | .error ⟨some reason, e⟩ => ({ h with state := .failed reason }, .error e)
  | .error ⟨none, e⟩ => (h, .error e)
  | .ok keys =>
    ({ h with sessionId := some r.sessionId, sessionKeys := some keys, tunnelConfig := some r.config,
              state := .established },
      .ok (r.sessionId, keys, r.config))

variable {P : Primitives} {h : ClientHandshake} {r : HandshakeResponse} {keys : SessionKeys}

theorem verifyTranscript_eq_ok {level : SecurityLevel} {clientRandom : Block 32} {u : Unit} :
    verifyTranscript P level clientRandom r = .ok u ↔
      MlDsa.verify P r.serverStaticPk (clientTranscript clientRandom r) r.signature level = .ok () := by
  unfold verifyTranscript
  split
  · simp [*]
  · dsimp only
    split <;> simp [*]

structure Accepts (P : Primitives) (h : ClientHandshake) (r : HandshakeResponse) (sk : HybridSecretKey)
    (clientRandom : Block 32) (secret : HandshakeSecret) (keys : SessionKeys) : Prop where
  awaiting : h.state = .awaitingResponse ∨ h.state = .awaitingResponseAfterCookie
  keypair : ∃ pk, h.clientKeypair = some (sk, pk)
  random : h.clientRandom = some clientRandom
  pinned : ∀ pk ∈ h.expectedServerPk, pk.bytes = r.serverStaticPk.bytes
  pkSize : r.serverStaticPk.bytes.length = h.securityLevel.mldsaPublicKeySize
  signed : MlDsa.verify P r.serverStaticPk (clientTranscript clientRandom r) r.signature h.securityLevel = .ok ()
  shared : HybridKem.decapsulate P sk r.serverCiphertext = .ok secret
  derived : keys = deriveSessionKeysWithContext P secret r.sessionId r.kdfTimestamp
  confirmed : P.hmacSha256 keys.recvKey (clientTranscript clientRandom r) = r.keyConfirmation

theorem checkResponse_eq_ok :
    checkResponse P h r = .ok keys ↔ ∃ sk clientRandom secret, Accepts P h r sk clientRandom secret keys := by
  simp only [checkResponse, bind_ok_iff, ensure_eq_ok, okOr_eq_ok, verifyTranscript_eq_ok,
    mapError_ok_iff, verifyKeyConfirmation]
  constructor
  · rintro ⟨-, hstate, ⟨sk, pk⟩, hpair, cr, hrandom, -, hpin, -, hsize, -, hsig, secret, hshared, -, hmac, hkeys⟩
    cases hkeys
    exact ⟨sk, cr, secret, hstate, ⟨pk, hpair⟩, hrandom, hpin, hsize, hsig, hshared, rfl, hmac⟩
  · rintro ⟨sk, cr, secret, hstate, ⟨pk, hpair⟩, hrandom, hpin, hsize, hsig, hshared, rfl, hmac⟩
    exact ⟨(), hstate, (sk, pk), hpair, cr, hrandom, (), hpin, (), hsize, (), hsig, secret, hshared, (), hmac, rfl⟩

theorem processResponse_eq_ok {h' : ClientHandshake} {result : SessionId × SessionKeys × TunnelConfig} :
    processResponse P h r = (h', .ok result) ↔
      ∃ keys, checkResponse P h r = .ok keys ∧ result = (r.sessionId, keys, r.config) ∧
        h' = { h with sessionId := some r.sessionId, sessionKeys := some keys,
                      tunnelConfig := some r.config, state := .established } := by
  unfold processResponse
  split
  · simp [*]
  · simp [*]
  · simp only [*, Prod.mk.injEq, Except.ok.injEq, exists_eq_left']
    exact ⟨fun ⟨hstate, hresult⟩ => ⟨hresult.symm, hstate.symm⟩,
      fun ⟨hresult, hstate⟩ => ⟨hstate.symm, hresult.symm⟩⟩

theorem processResponse_frame (P : Primitives) (h : ClientHandshake) (r : HandshakeResponse) :
    (processResponse P h r).1.clientKeypair = h.clientKeypair ∧
    (processResponse P h r).1.clientRandom = h.clientRandom ∧
    (processResponse P h r).1.expectedServerPk = h.expectedServerPk ∧
    (processResponse P h r).1.securityLevel = h.securityLevel := by
  unfold processResponse
  split <;> exact ⟨rfl, rfl, rfl, rfl⟩

end ClientHandshake

/-! ### Server -/

structure ServerHandshake where
  serverKeypair : MlDsaKeypair
  serverKemKeypair : Option (HybridSecretKey × HybridPublicKey)

namespace ServerHandshake

/-- What the server draws for one answer: its random, the encapsulation and signing coins, and the time. -/
structure Draws where
  serverRandom : Block 32
  encapsulate : HybridKem.EncapsulateCoins
  sign : Block 32
  now : UInt64

def processInit (P : Primitives) (s : ServerHandshake) (init : HandshakeInit) (sessionId : SessionId)
    (config : TunnelConfig) (draws : Draws) : Except ProtocolError (HandshakeResponse × SessionKeys) := do
  let (secret, ciphertext) ← (HybridKem.encapsulate P init.clientEphemeralPk draws.encapsulate).mapError
    fun _ => ProtocolError.handshakeFailed "key exchange failed"
  let transcript := buildTranscript protocolVersion (some sessionId) init.clientRandom
    draws.serverRandom ciphertext config
  let signature ← (s.serverKeypair.sign P transcript draws.sign).mapError
    fun _ => ProtocolError.handshakeFailed "signing failed"
  let serverKeys := (deriveSessionKeysWithContext P secret sessionId draws.now).swap
  return ({ sessionId, serverCiphertext := ciphertext, serverStaticPk := s.serverKeypair.publicKey
            signature, serverRandom := draws.serverRandom, config
            keyConfirmation := computeKeyConfirmation P serverKeys.sendKey transcript
            kdfTimestamp := draws.now }, serverKeys)

def processRekey (P : Primitives) (s : ServerHandshake) (rekey : RekeyMessage) (currentKeyId : KeyId)
    (sessionId : SessionId) (draws : Draws) : Except ProtocolError (RekeyResponse × SessionKeys) := do
  let (secret, ciphertext) ← (HybridKem.encapsulate P rekey.clientEphemeralPk draws.encapsulate).mapError
    fun _ => ProtocolError.handshakeFailed "key encapsulation failed"
  let transcript := buildRekeyTranscript sessionId rekey.clientRandom draws.serverRandom ciphertext
  let signature ← (s.serverKeypair.sign P transcript draws.sign).mapError
    fun _ => ProtocolError.handshakeFailed "signing failed"
  let serverKeys := (deriveSessionKeysWithContext P secret sessionId draws.now).swap
  return ({ serverCiphertext := ciphertext, signature, serverRandom := draws.serverRandom
            newKeyId := currentKeyId.next
            keyConfirmation := computeKeyConfirmation P serverKeys.sendKey transcript
            kdfTimestamp := draws.now, sessionId }, serverKeys)

variable {P : Primitives} {s : ServerHandshake} {sessionId : SessionId} {draws : Draws} {keys : SessionKeys}

theorem processInit_eq_ok {init : HandshakeInit} {config : TunnelConfig} {response : HandshakeResponse} :
    processInit P s init sessionId config draws = .ok (response, keys) ↔
      ∃ secret ciphertext signature,
        HybridKem.encapsulate P init.clientEphemeralPk draws.encapsulate = .ok (secret, ciphertext) ∧
        s.serverKeypair.sign P (buildTranscript protocolVersion (some sessionId) init.clientRandom
          draws.serverRandom ciphertext config) draws.sign = .ok signature ∧
        keys = (deriveSessionKeysWithContext P secret sessionId draws.now).swap ∧
        response =
          { sessionId, serverCiphertext := ciphertext, serverStaticPk := s.serverKeypair.publicKey
            signature, serverRandom := draws.serverRandom, config
            keyConfirmation := computeKeyConfirmation P keys.sendKey
              (buildTranscript protocolVersion (some sessionId) init.clientRandom draws.serverRandom ciphertext config)
            kdfTimestamp := draws.now } := by
  simp only [processInit, bind_ok_iff, mapError_ok_iff]
  constructor
  · rintro ⟨⟨secret, ct⟩, henc, sig, hsign, heq⟩
    cases Except.ok.inj heq
    exact ⟨secret, ct, sig, henc, hsign, rfl, rfl⟩
  · rintro ⟨secret, ct, sig, henc, hsign, rfl, rfl⟩
    exact ⟨(secret, ct), henc, sig, hsign, rfl⟩

theorem processRekey_eq_ok {rekey : RekeyMessage} {currentKeyId : KeyId} {response : RekeyResponse} :
    processRekey P s rekey currentKeyId sessionId draws = .ok (response, keys) ↔
      ∃ secret ciphertext signature,
        HybridKem.encapsulate P rekey.clientEphemeralPk draws.encapsulate = .ok (secret, ciphertext) ∧
        s.serverKeypair.sign P (buildRekeyTranscript sessionId rekey.clientRandom draws.serverRandom
          ciphertext) draws.sign = .ok signature ∧
        keys = (deriveSessionKeysWithContext P secret sessionId draws.now).swap ∧
        response =
          { serverCiphertext := ciphertext, signature, serverRandom := draws.serverRandom
            newKeyId := currentKeyId.next
            keyConfirmation := computeKeyConfirmation P keys.sendKey
              (buildRekeyTranscript sessionId rekey.clientRandom draws.serverRandom ciphertext)
            kdfTimestamp := draws.now, sessionId } := by
  simp only [processRekey, bind_ok_iff, mapError_ok_iff]
  constructor
  · rintro ⟨⟨secret, ct⟩, henc, sig, hsign, heq⟩
    cases Except.ok.inj heq
    exact ⟨secret, ct, sig, henc, hsign, rfl, rfl⟩
  · rintro ⟨secret, ct, sig, henc, hsign, rfl, rfl⟩
    exact ⟨(secret, ct), henc, sig, hsign, rfl⟩

end ServerHandshake

/-- Sign and confirm again once the configuration of a response is final. -/
def refreshHandshakeResponseAuth (response : HandshakeResponse) (clientRandom : Block 32)
    (level : SecurityLevel) (serverKeypair : MlDsaKeypair) (serverSendKey : Block keySize)
    (coins : Block 32) : Except ProtocolError HandshakeResponse := do
  let transcript := buildTranscript protocolVersion (some response.sessionId) clientRandom
    response.serverRandom response.serverCiphertext response.config
  let signature ← (MlDsa.sign P serverKeypair.secretKey transcript level coins).mapError
    fun _ => ProtocolError.handshakeFailed "failed to sign handshake transcript"
  return { response with signature, keyConfirmation := computeKeyConfirmation P serverSendKey transcript }

theorem refreshHandshakeResponseAuth_eq_ok {P : Primitives} {response response' : HandshakeResponse}
    {clientRandom : Block 32} {level : SecurityLevel} {kp : MlDsaKeypair} {sendKey : Block keySize}
    {coins : Block 32} :
    refreshHandshakeResponseAuth P response clientRandom level kp sendKey coins = .ok response' ↔
      ∃ signature,
        MlDsa.sign P kp.secretKey (ClientHandshake.clientTranscript clientRandom response) level coins = .ok signature ∧
        response' = { response with
          signature
          keyConfirmation := computeKeyConfirmation P sendKey
            (ClientHandshake.clientTranscript clientRandom response) } := by
  simp only [refreshHandshakeResponseAuth, bind_ok_iff, mapError_ok_iff]
  exact exists_congr fun sig => and_congr_right fun _ =>
    ⟨fun heq => (Except.ok.inj heq).symm, fun heq => congrArg Except.ok heq.symm⟩

theorem refreshHandshakeResponseAuth_isOk {P : Primitives} {response : HandshakeResponse}
    {clientRandom : Block 32} {level : SecurityLevel} {kp : MlDsaKeypair} {sendKey : Block keySize}
    {coins : Block 32} :
    (∃ response', refreshHandshakeResponseAuth P response clientRandom level kp sendKey coins = .ok response') ↔
      kp.secretKey.bytes.length = level.mldsaSecretKeySize := by
  simp only [refreshHandshakeResponseAuth_eq_ok]
  constructor
  · rintro ⟨_, signature, hsign, -⟩
    exact MlDsa.sign_isOk.mp ⟨signature, hsign⟩
  · intro hlength
    obtain ⟨signature, hsign⟩ := MlDsa.sign_isOk.mpr hlength
    exact ⟨_, signature, hsign, rfl⟩

/-! ### Client rekey -/

structure ClientRekey where
  clientKeypair : Option (HybridSecretKey × HybridPublicKey)
  clientRandom : Option (Block 32)
  serverPk : MlDsaPublicKey
  securityLevel : SecurityLevel
  sessionId : SessionId
deriving DecidableEq

namespace ClientRekey

def withSecurityLevel (serverPk : MlDsaPublicKey) (sessionId : SessionId) (level : SecurityLevel) : ClientRekey :=
  { clientKeypair := none, clientRandom := none, serverPk, securityLevel := level, sessionId }

variable (P : Primitives) (h : ClientRekey)

def createRequest (coins : HybridKem.KeypairCoins) (clientRandom : Block 32) : ClientRekey × RekeyMessage :=
  let (sk, pk) := HybridKem.generateKeypairWithLevel P h.securityLevel coins
  ({ h with clientKeypair := some (sk, pk), clientRandom := some clientRandom }, ⟨pk, clientRandom⟩)

def checkResponse (clientSk : HybridSecretKey) (clientRandom : Block 32)
    (r : RekeyResponse) : Except ProtocolError SessionKeys := do
  let transcript := buildRekeyTranscript h.sessionId clientRandom r.serverRandom r.serverCiphertext
  (MlDsa.verify P h.serverPk transcript r.signature h.securityLevel).mapError
    fun _ => ProtocolError.handshakeFailed "rekey signature verification failed"
  let secret ← (HybridKem.decapsulate P clientSk r.serverCiphertext).mapError
    fun _ => ProtocolError.handshakeFailed "rekey decapsulation failed"
  let keys := deriveSessionKeysWithContext P secret r.sessionId r.kdfTimestamp
  (verifyKeyConfirmation P keys.recvKey transcript r.keyConfirmation).mapError
    fun _ => ProtocolError.handshakeFailed "rekey key confirmation failed"
  return keys

/-- A response consumes the pending key pair and random, whatever it turns out to be. -/
def processResponse (r : RekeyResponse) :
    ClientRekey × Except ProtocolError SessionKeys :=
  match h.clientKeypair with
  | none => (h, .error .invalidStateTransition)
  | some (clientSk, _) =>
    match h.clientRandom with
    | none => ({ h with clientKeypair := none }, .error .invalidStateTransition)
    | some clientRandom =>
      ({ h with clientKeypair := none, clientRandom := none }, checkResponse P h clientSk clientRandom r)

end ClientRekey

end HpnVpn
