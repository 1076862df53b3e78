import HpnVpn.ServerAuth
import HpnVpn.SessionDelivery

/-! Two honest ends that run the handshake over its byte encodings agree on the session, its keys and its
configuration; an accepted handshake gives a channel. -/
namespace HpnVpn
open Wire ClientHandshake

variable {P : Primitives}

theorem ClientHandshake.clientTranscript_normalized (clientRandom : Block 32) (r : HandshakeResponse) :
    clientTranscript clientRandom { r with config := r.config.normalized } = clientTranscript clientRandom r := by
  simp only [clientTranscript, buildTranscript, TunnelConfig.normalized_toBytes]

/-- An undisturbed handshake succeeds whatever the two ends draw: through both codecs the client ends established, with
the server's session id, its keys the other way round and a configuration of the same bytes. -/
theorem honest_handshake_agrees (client : ClientHandshake) (seed : Block 32)
    (kemKeypair : Option (HybridSecretKey × HybridPublicKey)) (keypairCoins : HybridKem.KeypairCoins)
    (clientRandom : Block 32) (sessionId : SessionId) (initial assigned : TunnelConfig)
    (draws : ServerHandshake.Draws) (refreshCoins : Block 32)
    (hidle : client.state = .idle)
    (hpinned : ∀ pk ∈ client.expectedServerPk,
      pk = (MlDsaKeypair.generateWithLevel P client.securityLevel seed).publicKey)
    (hdns : assigned.DnsWithinLimit) :
    let server : ServerHandshake :=
      ⟨MlDsaKeypair.generateWithLevel P client.securityLevel seed, kemKeypair⟩
    ∃ waiting sent init answer serverKeys response received established keys config,
      client.createInit P keypairCoins clientRandom = .ok (waiting, sent) ∧
      HandshakeInit.fromBytes sent.toBytes = .ok init ∧
      server.processInit P init sessionId initial draws = .ok (answer, serverKeys) ∧
      refreshHandshakeResponseAuth P { answer with config := assigned } init.clientRandom
        init.securityLevel server.serverKeypair serverKeys.sendKey refreshCoins = .ok response ∧
      HandshakeResponse.fromBytesWithLevel response.toBytes client.securityLevel = .ok received ∧
      waiting.processResponse P received = (established, .ok (sessionId, keys, config)) ∧
      established.state = .established ∧
      established.sessionId = some sessionId ∧ response.sessionId = sessionId ∧
      established.sessionKeys = some keys ∧
      keys.sendKey = serverKeys.recvKey ∧ keys.recvKey = serverKeys.sendKey ∧
      keys.sendNoncePrefix = serverKeys.recvNoncePrefix ∧
      keys.recvNoncePrefix = serverKeys.sendNoncePrefix ∧
      established.tunnelConfig = some config ∧ config.toBytes = assigned.toBytes := by
  intro server
  obtain ⟨secret, ct, henc, hctLevel, hdec⟩ :=
    HybridKem.decapsulate_encapsulate (P := P) client.securityLevel keypairCoins draws.encapsulate
  let sent : HandshakeInit :=
    { clientEphemeralPk := (HybridKem.generateKeypairWithLevel P client.securityLevel keypairCoins).2
      clientRandom, securityLevel := client.securityLevel, credentials := none }
  have hsent : sent.WellFormed := ⟨rfl, nofun⟩
  let transcript (config : TunnelConfig) :=
    buildTranscript protocolVersion (some sessionId) clientRandom draws.serverRandom ct config
  -- the first signature is over the initial configuration, the one that is sent over the assigned one
  obtain ⟨firstSig, hfirst, -, -⟩ :=
    MlDsa.verify_sign (P := P) client.securityLevel seed (transcript initial) draws.sign
  obtain ⟨sig, hsign, hsigLevel, hverify⟩ :=
    MlDsa.verify_sign (P := P) client.securityLevel seed (transcript assigned) refreshCoins
  let keys := deriveSessionKeysWithContext P secret sessionId draws.now
  let response : HandshakeResponse :=
    { sessionId, serverCiphertext := ct, serverStaticPk := server.serverKeypair.publicKey
      signature := sig, serverRandom := draws.serverRandom, config := assigned
      keyConfirmation := computeKeyConfirmation P keys.swap.sendKey (transcript assigned)
      kdfTimestamp := draws.now }
  have hlevel : response.AtLevel client.securityLevel :=
    ⟨hctLevel, Block.length_bytes _, hsigLevel⟩
  let received := { response with config := assigned.normalized }
  have htranscript : ClientHandshake.clientTranscript clientRandom received = transcript assigned :=
    clientTranscript_normalized clientRandom response
  refine ⟨_, sent, sent, _, keys.swap, response, received, _, keys, assigned.normalized,
    createInit_of_idle hidle keypairCoins clientRandom,
    HandshakeInit.fromBytes_toBytes hsent,
    ServerHandshake.processInit_eq_ok.mpr ⟨secret, ct, firstSig, henc, hfirst, rfl, rfl⟩,
    refreshHandshakeResponseAuth_eq_ok.mpr ⟨sig, hsign, rfl⟩,
    HandshakeResponse.fromBytesWithLevel_toBytes hlevel hdns,
    processResponse_eq_ok.mpr ⟨keys, ?_, rfl, rfl⟩,
    rfl, rfl, rfl, rfl, rfl, rfl, rfl, rfl, rfl, assigned.normalized_toBytes⟩
  refine checkResponse_eq_ok.mpr
    ⟨(HybridKem.generateKeypairWithLevel P client.securityLevel keypairCoins).1, clientRandom, secret, ?_⟩
  exact
    { awaiting := .inl rfl
      keypair := ⟨_, rfl⟩
      random := rfl
      pinned := fun pk hpk => congrArg MlDsaPublicKey.bytes (hpinned pk hpk)
      pkSize := Block.length_bytes _
      signed := by rw [htranscript]; exact hverify
      shared := hdec
      derived := rfl
      confirmed := by rw [htranscript]; rfl }

theorem honest_handshake_agrees_dualStack :
    let P := Primitives.transparent fun _ => 0
    let kp := MlDsaKeypair.generateWithLevel P .level5 (Block.replicate 32 7)
    let assigned : TunnelConfig :=
      { clientIpv4 := Block.replicate 4 10, netmaskIpv4 := Block.replicate 4 255
        gatewayIpv4 := Block.replicate 4 1, dnsIpv4 := [Block.replicate 4 8, Block.replicate 4 9]
        clientIpv6 := some (Block.replicate 16 2), prefixLenIpv6 := none, gatewayIpv6 := none
        dnsIpv6 := [Block.replicate 16 3], mtu := 1420 }
    ∃ received waiting established keys config,
      ClientHandshake.processResponse P waiting received = (established, .ok (42, keys, config)) ∧
      established.expectedServerPk = some kp.publicKey ∧
      established.state = .established ∧ config.toBytes = assigned.toBytes := by
  intro P kp assigned
  have hdns : assigned.DnsWithinLimit := ⟨by decide, by decide⟩
  obtain ⟨waiting, _, _, _, _, _, received, established, keys, config, hcreate, -, -, -, -, hprocess,
    hstate, -, -, -, -, -, -, -, -, hconfig⟩ :=
    honest_handshake_agrees (P := P) (.withServerPkAndLevel kp.publicKey .level5) (Block.replicate 32 7) none
      ⟨Block.replicate 32 1, Block.replicate 64 2⟩ (Block.replicate 32 3) 42 assigned assigned
      ⟨Block.replicate 32 4, ⟨Block.replicate 32 5, Block.replicate 32 6⟩, Block.replicate 32 8, 1700000000⟩
      (Block.replicate 32 9) rfl (fun _ hpk => (Option.some.inj hpk).symm) hdns
  have hwaiting : waiting.expectedServerPk = some kp.publicKey := by
    rw [createInit_of_idle rfl] at hcreate
    cases Except.ok.inj hcreate
    rfl
  have hframe := processResponse_frame P waiting received
  rw [hprocess] at hframe
  exact ⟨received, waiting, established, keys, config, hprocess, hframe.2.2.1.trans hwaiting, hstate, hconfig⟩

/-! ### Handshake and data -/

/-- Whatever `s` sends opens at `r`, and over a network that cannot forge, `r` accepts nothing else, none twice. -/
def Session.Channel (A : Aes256Gcm) (s r : Session) : Prop :=
  ∀ sends ds, let tx := Runs.exec (send A) ⟨s, [], []⟩ sends
    (∀ x ∈ tx.sent, ∀ now outputLen, x.packet.length ≤ outputLen + headerSize →
      (r.decryptPacket A now x.packet outputLen).2 = .ok (x.header, x.payload)) ∧
    (AuthEnc.Unforged A s.keys.sendKey tx.calls {p | ∃ d ∈ ds, d.packet = p} →
      let rx := Runs.exec (receive A) ⟨r, []⟩ ds
      (∀ x ∈ rx.accepted, x ∈ tx.sent) ∧ (rx.accepted.map (·.packet)).Nodup)

theorem Session.Peer.channel {A : Aes256Gcm} {s r : Session} (hpeer : Peer s r) : Channel A s r := by
  intro sends ds tx
  have htx : SenderInv A s tx := Runs.exec_invariant senderInv_send sends _ senderInv_start
  have hstart := receiverInv_start hpeer tx.sent
  constructor
  · intro x hx now outputLen hroom
    exact hstart.accepts htx hx List.not_mem_nil (List.forall_mem_nil _) hroom now
  · intro hideal
    have hrx := Runs.exec_invariant_of (fun r d => receiverInv_receive htx r d) ds _ hstart
      (Runs.meets_of_forall (fun d hd _ => hideal.mono (Set.singleton_subset_iff.mpr ⟨d, hd, rfl⟩)) _)
    exact ⟨hrx.sent, hrx.packets_nodup htx⟩

/-- The sessions of an accepted response, at the client and at the server that made it, are a channel both ways. -/
theorem accepted_handshake_is_channel {server : ServerHandshake} (h : ClientHandshake) (log : ServerLog P server)
    (attacker : Attacker) (delivered : List HandshakeResponse) (r : HandshakeResponse) (hr : r ∈ delivered)
    (hpinned : h.expectedServerPk = some server.serverKeypair.publicKey) (ideal : h.Ideal P log attacker delivered)
    (established : ClientHandshake) (sessionId : SessionId) (keys : SessionKeys) (config : TunnelConfig)
    (haccept : h.processResponse P r = (established, .ok (sessionId, keys, config))) :
    ∃ a ∈ log.inits, ∀ t t',
      Session.Channel P.aes256Gcm (.new sessionId keys t) (.new a.response.sessionId a.keys t') ∧
      Session.Channel P.aes256Gcm (.new a.response.sessionId a.keys t') (.new sessionId keys t) := by
  obtain ⟨keys', hcheck, hresult, -⟩ := processResponse_eq_ok.mp haccept
  cases hresult
  obtain ⟨a, ha, hp⟩ := ideal.producedFor hpinned hr hcheck
  refine ⟨a, ha, fun t t' => ?_⟩
  rw [hp.sessionId, hp.keys_eq]
  exact ⟨(Session.peer_new _ a.keys.swap t t').channel, (Session.peer_new _ a.keys t' t).channel⟩

theorem AuthSample.accepted_handshake_is_channel_sample :
    ∃ a ∈ log.inits, Session.Channel primitives.aes256Gcm (.new 42 keys 0) (.new a.response.sessionId a.keys 1) := by
  have hcheck := checkResponse_eq_ok.mpr ⟨_, _, _, accepts⟩
  obtain ⟨a, ha, hchannel⟩ := accepted_handshake_is_channel client log ⟨∅, ∅⟩ [response] response
    (List.mem_singleton_self _) rfl ideal _ 42 keys config
    (processResponse_eq_ok.mpr ⟨keys, hcheck, rfl, rfl⟩)
  exact ⟨a, ha, (hchannel 0 1).1⟩

end HpnVpn
