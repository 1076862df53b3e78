import HpnVpn.FragmentCollection
import HpnVpn.ServerAuth
import HpnVpn.ServerInit

/-! The client's wait for the response: it reads datagrams until one is or completes a response, and ignores others up
to a limit. -/
namespace HpnVpn
open Wire Tables PacketHeader FragmentedMessage

structure ClientArrival where
  source : SocketAddr
  data : Bytes
  now : Nat
  order : Chooser FragmentKey

inductive WaitEnd
  | failed (e : ClientError)
  | panicked (p : ReassemblyPanic)
deriving DecidableEq

/-- The datagrams that were ignored, those from other addresses since the last one from the server, and the buffer. -/
structure ResponseWait where
  ignoredCount : UInt32
  unexpectedCount : UInt32
  reassembler : Reassembly

def maxIgnoredDuringHandshake : UInt32 := 100
def maxIgnoredPacketsHandshake : UInt32 := 100

def peerKey : SocketAddr := .v4 (.replicate 4 0) 0

def synthesized (payload : Bytes) : Bytes := (PacketHeader.new .handshakeResponse 0 0 0).toBytes ++ payload

namespace ResponseWait

def new : ResponseWait := ⟨0, 0, .new .clientDefault⟩

def ignore (w : ResponseWait) (reason : String) : Except WaitEnd (ResponseWait × Option Bytes) :=
  let ignoredCount := w.ignoredCount + 1
  if maxIgnoredDuringHandshake ≤ ignoredCount then .error (.failed (.handshake reason))
  else .ok ({ w with ignoredCount }, none)

def receive (w : ResponseWait) (a : ClientArrival) : Except WaitEnd (ResponseWait × Option Bytes) :=
  if a.data.length < headerSize then w.ignore "too many non-handshake packets during handshake"
  else
    match PacketHeader.decode a.data with
    | .error e => .error (.failed (.protocol e))
    | .ok header =>
      match header.msgType with
      | .handshakeResponse => .ok (w, some a.data)
      | .handshakeFragment =>
        match HandshakeFragment.fromBytes (a.data.drop headerSize) with
        | .error _ => w.ignore "too many malformed packets during handshake"
        | .ok fragment =>
          -- not counted
          if fragment.innerMsgType ≠ .handshakeResponse then .ok (w, none)
          else
            match w.reassembler.insert peerKey fragment a.now a.order with
            | .error p => .error (.panicked p)
            | .ok (reassembler, some (_, payload)) => .ok ({ w with reassembler }, some (synthesized payload))
            | .ok (reassembler, none) =>
              { w with reassembler }.ignore "too many non-handshake packets during handshake"
      | _ => w.ignore "too many non-handshake packets during handshake"

/-- A datagram on the socket: the transport passes on what comes from the server's address. -/
def hear (serverIp : IpAddr) (w : ResponseWait) (a : ClientArrival) : Except WaitEnd (ResponseWait × Option Bytes) :=
  if a.source.ip = serverIp then { w with unexpectedCount := 0 }.receive a
  else
    let unexpectedCount := w.unexpectedCount + 1
    if maxIgnoredPacketsHandshake ≤ unexpectedCount then .error (.failed .connectionIo)
    else .ok ({ w with unexpectedCount }, none)

def awaitResponse (serverIp : IpAddr) (deadline : Nat) (expired : ClientError) :
    ResponseWait → List ClientArrival → Except WaitEnd Bytes
  | _, [] => .error (.failed expired)
  | w, a :: rest =>
    if deadline ≤ a.now then .error (.failed expired)
    else
      match w.hear serverIp a with
      | .error e => .error e
      | .ok (_, some packet) => .ok packet
      | .ok (w, none) => awaitResponse serverIp deadline expired w rest

end ResponseWait

def decodeHandshakeResponse (level : SecurityLevel) (data : Bytes) : Except ClientError HandshakeResponse := do
  ensure (headerSize ≤ data.length) (.handshake "response too short")
  let _ ← (PacketHeader.decode data).mapError ClientError.protocol
  (HandshakeResponse.fromBytesWithLevel (data.drop headerSize) level).mapError fun e =>
    .handshake s!"failed to decode response: {e.display}"

/-- How long the client waits, in nanoseconds: with credentials not longer than five seconds. -/
def RekeySettings.responseTimeout (settings : RekeySettings) (withCredentials : Bool) : Nat :=
  let timeout := settings.connectionTimeout * 10 ^ 6
  if withCredentials then min timeout (5 * 10 ^ 9) else timeout

/-- A server that refuses credentials does not answer. -/
def responseExpired (withCredentials : Bool) : ClientError :=
  if withCredentials then
    .auth "authentication rejected by server (invalid username/password or account not allowed)"
  else .timeout "handshake response timeout"

def performHandshake (P : Primitives) (settings : RekeySettings) (withCredentials : Bool) (serverIp : IpAddr)
    (handshake : ClientHandshake) (sent : Nat) (arrivals : List ClientArrival) :
    Except WaitEnd (SessionId × SessionKeys × TunnelConfig) := do
  let packet ← ResponseWait.new.awaitResponse serverIp (sent + settings.responseTimeout withCredentials)
    (responseExpired withCredentials) arrivals
  let response ← (decodeHandshakeResponse settings.securityLevel packet).mapError WaitEnd.failed
  (handshake.processResponse P response).2.mapError fun e => .failed (.protocol e)

/-! ### What can arrive -/

/-- The datagrams a response travels in: one, or those of its fragments. -/
inductive HandshakeResponse.Datagrams (response : HandshakeResponse) : List Bytes → Prop
  | whole (sessionId : SessionId) :
      Datagrams response [(PacketHeader.new .handshakeResponse sessionId 0 0).toBytes ++ response.toBytes]
  | fragments (fragId : UInt32) {bodies : List Bytes}
      (hbuild : buildHandshakeFragments .handshakeResponse fragId response.toBytes = .ok bodies) :
      Datagrams response (bodies.map fragmentPacket)

inductive Stray (data : Bytes) : Prop
  | tooShort (hlength : data.length < headerSize)
  | undecodable {e : ProtocolError} (hdecode : PacketHeader.decode data = .error e)
  | otherType {header : PacketHeader} (hdecode : PacketHeader.decode data = .ok header)
      (hresponse : header.msgType ≠ .handshakeResponse) (hfragment : header.msgType ≠ .handshakeFragment)
  | malformed {header : PacketHeader} {e : ProtocolError} (hdecode : PacketHeader.decode data = .ok header)
      (htype : header.msgType = .handshakeFragment)
      (hbody : HandshakeFragment.fromBytes (data.drop headerSize) = .error e)
  | foreign {header : PacketHeader} {fragment : HandshakeFragment} (hdecode : PacketHeader.decode data = .ok header)
      (htype : header.msgType = .handshakeFragment)
      (hbody : HandshakeFragment.fromBytes (data.drop headerSize) = .ok fragment)
      (hinner : fragment.innerMsgType ≠ .handshakeResponse)

def Undecodable (data : Bytes) : Prop := headerSize ≤ data.length ∧ ∃ e, PacketHeader.decode data = .error e

/-! ### What one datagram does -/

namespace ResponseWait
variable {w : ResponseWait} {serverIp : IpAddr} {a : ClientArrival} {n : Nat}

structure Within (n : Nat) (w : ResponseWait) : Prop where
  ignored : w.ignoredCount.toNat ≤ n
  unexpected : w.unexpectedCount.toNat ≤ n

theorem within_new : new.Within 0 := ⟨le_rfl, le_rfl⟩

theorem toNat_succ_of_le {count : UInt32} (hcount : count.toNat ≤ n) (hn : n + 1 < 100) :
    (count + 1).toNat = count.toNat + 1 := by
  rw [UInt32.toNat_add, UInt32.toNat_one]
  exact Nat.mod_eq_of_lt (by omega)

theorem ignore_of_within (h : w.Within n) (hn : n + 1 < 100) (reason : String) :
    ∃ w', w.ignore reason = .ok (w', none) ∧ w'.reassembler = w.reassembler ∧ w'.Within (n + 1) := by
  have hsucc := toNat_succ_of_le h.ignored hn
  have hbelow : ¬maxIgnoredDuringHandshake ≤ w.ignoredCount + 1 := by
    rw [UInt32.le_iff_toNat_le]
    change ¬100 ≤ _
    have hignored := h.ignored
    omega
  refine ⟨_, if_neg hbelow, rfl, ?_, h.unexpected.trans (Nat.le_succ n)⟩
  exact hsucc.le.trans (Nat.succ_le_succ h.ignored)

theorem hear_other (h : w.Within n) (hn : n + 1 < 100) (hsource : a.source.ip ≠ serverIp) :
    ∃ w', w.hear serverIp a = .ok (w', none) ∧ w'.reassembler = w.reassembler ∧ w'.Within (n + 1) := by
  have hsucc := toNat_succ_of_le h.unexpected hn
  have hbelow : ¬maxIgnoredPacketsHandshake ≤ w.unexpectedCount + 1 := by
    rw [UInt32.le_iff_toNat_le]
    change ¬100 ≤ _
    have hunexpected := h.unexpected
    omega
  refine ⟨{ w with unexpectedCount := w.unexpectedCount + 1 }, ?_, rfl, h.ignored.trans (Nat.le_succ n), ?_⟩
  · rw [hear, if_neg hsource]
    exact if_neg hbelow
  · exact hsucc.le.trans (Nat.succ_le_succ h.unexpected)

theorem Within.passed (h : w.Within n) : { w with unexpectedCount := 0 }.Within n := ⟨h.ignored, Nat.zero_le n⟩

theorem receive_stray (h : w.Within n) (hn : n + 1 < 100) (hstray : Stray a.data) (hdecodes : ¬Undecodable a.data) :
    ∃ w', w.receive a = .ok (w', none) ∧ w'.reassembler = w.reassembler ∧ w'.Within (n + 1) := by
  unfold receive
  by_cases hshort : a.data.length < headerSize
  · rw [if_pos hshort]
    exact ignore_of_within h hn _
  rw [if_neg hshort]
  cases hstray with
  | tooShort hlength => exact absurd hlength hshort
  | undecodable hdecode => exact absurd ⟨not_lt.mp hshort, _, hdecode⟩ hdecodes
  | @otherType header hdecode hresponse hfragment =>
    rw [hdecode]
    dsimp only
    split
    · exact absurd ‹_› hresponse
    · exact absurd ‹_› hfragment
    · exact ignore_of_within h hn _
  | malformed hdecode htype hbody =>
    rw [hdecode]
    dsimp only
    rw [htype, hbody]
    exact ignore_of_within h hn _
  | foreign hdecode htype hbody hinner =>
    rw [hdecode]
    dsimp only
    rw [htype, hbody]
    exact ⟨w, if_pos hinner, rfl, h.ignored.trans (Nat.le_succ n), h.unexpected.trans (Nat.le_succ n)⟩

theorem hear_stray (h : w.Within n) (hn : n + 1 < 100) (hstray : Stray a.data)
    (hdecodes : a.source.ip = serverIp → ¬Undecodable a.data) :
    ∃ w', w.hear serverIp a = .ok (w', none) ∧ w'.reassembler = w.reassembler ∧ w'.Within (n + 1) := by
  by_cases hsource : a.source.ip = serverIp
  · rw [hear, if_pos hsource]
    exact receive_stray h.passed hn hstray (hdecodes hsource)
  · exact hear_other h hn hsource

theorem hear_undecodable (w : ResponseWait) {e : ProtocolError} (hsource : a.source.ip = serverIp)
    (hlength : headerSize ≤ a.data.length) (hdecode : PacketHeader.decode a.data = .error e) :
    w.hear serverIp a = .error (.failed (.protocol e)) := by
  rw [hear, if_pos hsource, receive, if_neg (not_lt.mpr hlength), hdecode]

theorem hear_whole (w : ResponseWait) {sessionId : SessionId} {payload : Bytes} (hsource : a.source.ip = serverIp)
    (hdata : a.data = (PacketHeader.new .handshakeResponse sessionId 0 0).toBytes ++ payload) :
    w.hear serverIp a = .ok ({ w with unexpectedCount := 0 }, some a.data) := by
  have hlength : ¬a.data.length < headerSize := by
    rw [hdata, List.length_append, length_newHeader]
    omega
  rw [hear, if_pos hsource, receive]
  rw [hdata, decode_toBytes (new_wellFormed ..)]
  rfl

theorem hear_fragment {m : FragmentedMessage} {index : Nat} {r' : Reassembly} {out : Option (MessageType × Bytes)}
    (h : w.Within n) (hn : n + 1 < 100) (hpeer : m.source = peerKey) (htype : m.innerMsgType = .handshakeResponse)
    (hindex : index < m.count) (hsource : a.source.ip = serverIp)
    (hdata : a.data = fragmentPacket (m.fragment index).toBytes)
    (hinsert : w.reassembler.insert m.source (m.fragment index) a.now a.order = .ok (r', out)) :
    ∃ w', w.hear serverIp a = .ok (w', out.map fun message => synthesized message.2) ∧ w'.reassembler = r' ∧
      w'.Within (n + 1) := by
  have hlength : ¬a.data.length < headerSize := by
    rw [hdata, fragmentPacket, List.length_append, length_newHeader]
    omega
  have hinner : ¬(m.fragment index).innerMsgType ≠ .handshakeResponse := not_not_intro htype
  rw [hear, if_pos hsource, receive, hdata, drop_fragmentPacket]
  rw [fromBytes_toBytes hindex]
  dsimp only
  rw [if_neg hinner, ← hpeer, hinsert]
  have hwithin : { w with unexpectedCount := 0, reassembler := r' }.Within n := ⟨h.ignored, Nat.zero_le n⟩
  cases out with
  | none => exact ignore_of_within hwithin hn _
  | some message => exact ⟨_, rfl, rfl, h.ignored.trans (Nat.le_succ n), Nat.zero_le _⟩

/-! ### The datagrams one after another -/

variable {deadline : Nat} {expired : ClientError} {rest : List ClientArrival} {w' : ResponseWait}

theorem awaitResponse_cons (hdeadline : a.now < deadline) {out : Option Bytes} (h : w.hear serverIp a = .ok (w', out)) :
    w.awaitResponse serverIp deadline expired (a :: rest) =
      out.elim (w'.awaitResponse serverIp deadline expired rest) .ok := by
  rw [awaitResponse, if_neg (not_le.mpr hdeadline), h]
  cases out with
  | none => rfl
  | some packet => rfl

theorem awaitResponse_cons_error (hdeadline : a.now < deadline) {e : WaitEnd} (h : w.hear serverIp a = .error e) :
    w.awaitResponse serverIp deadline expired (a :: rest) = .error e := by
  rw [awaitResponse, if_neg (not_le.mpr hdeadline), h]

theorem not_undecodable_of_ok (hdeadline : a.now < deadline) {packet : Bytes}
    (h : w.awaitResponse serverIp deadline expired (a :: rest) = .ok packet) (hsource : a.source.ip = serverIp) :
    ¬Undecodable a.data := by
  rintro ⟨hlength, e, hdecode⟩
  rw [awaitResponse_cons_error hdeadline (hear_undecodable w hsource hlength hdecode)] at h
  cases h

end ResponseWait

def Clean (serverIp : IpAddr) (read : List ClientArrival) : Prop :=
  ∀ a ∈ read, a.source.ip = serverIp → ¬Undecodable a.data

theorem Clean.cons {serverIp : IpAddr} {a : ClientArrival} {read : List ClientArrival} (h : Clean serverIp read)
    (ha : a.source.ip = serverIp → ¬Undecodable a.data) : Clean serverIp (a :: read) := by
  intro b hb
  rcases List.mem_cons.mp hb with rfl | hb
  · exact ha
  · exact h b hb

def ClientArrival.Expected (serverIp : IpAddr) (packets : List Bytes) (a : ClientArrival) : Prop :=
  Stray a.data ∨ a.source.ip = serverIp ∧ a.data ∈ packets

/-- A datagram without a header comes only after all of the packets. -/
def UndecodableLast (serverIp : IpAddr) (packets : List Bytes) (arrivals : List ClientArrival) : Prop :=
  ∀ before a after, arrivals = before ++ a :: after → a.source.ip = serverIp → Undecodable a.data →
    ∀ b ∈ after, b.data ∉ packets

theorem UndecodableLast.tail {serverIp : IpAddr} {packets : List Bytes} {a : ClientArrival} {rest : List ClientArrival}
    (h : UndecodableLast serverIp packets (a :: rest)) : UndecodableLast serverIp packets rest := by
  intro before b after hsplit
  exact h (a :: before) b after (congrArg (a :: ·) hsplit)

namespace ResponseWait
variable {serverIp : IpAddr} {deadline : Nat} {expired : ClientError}

variable {packets : List Bytes}

/-- The wait ends with `result` if each packet either ends it or is kept while others are missing. -/
theorem awaitResponse_of_packets {result : Bytes} (InTime : Nat → Prop) (Held : List Bytes → Reassembly → Prop)
    (hnot : ∀ p ∈ packets, ¬Stray p)
    (hpacket : ∀ w n seen a, Within n w → n + 1 < 100 → Held seen w.reassembler → a.source.ip = serverIp →
      a.data ∈ packets → InTime a.now → ∃ w' out, w.hear serverIp a = .ok (w', out) ∧ w'.Within (n + 1) ∧
        (out = some result ∨
          out = none ∧ Held (seen ++ [a.data]) w'.reassembler ∧ ∃ p ∈ packets, p ∉ seen ++ [a.data]))
    (arrivals : List ClientArrival) (w : ResponseWait) (n : Nat) (seen : List Bytes) (h : w.Within n)
    (hcount : n + arrivals.length < 100) (hheld : Held seen w.reassembler) (hmissing : ∃ p ∈ packets, p ∉ seen)
    (hexpected : ∀ a ∈ arrivals, a.Expected serverIp packets) (hdeadline : ∀ a ∈ arrivals, a.now < deadline)
    (hspan : ∀ a ∈ arrivals, a.data ∈ packets → InTime a.now) (hlast : UndecodableLast serverIp packets arrivals)
    (harrives : ∀ p ∈ packets, p ∈ seen ∨ ∃ a ∈ arrivals, a.data = p) :
    w.awaitResponse serverIp deadline expired arrivals = .ok result := by
  induction arrivals generalizing w n seen with
  | nil =>
    obtain ⟨p, hp, hunseen⟩ := hmissing
    obtain ⟨a, ha, -⟩ := (harrives p hp).resolve_left hunseen
    cases ha
  | cons a rest ih =>
    obtain ⟨hexpectedHead, hexpectedTail⟩ := List.forall_mem_cons.mp hexpected
    obtain ⟨hdeadlineHead, hdeadlineTail⟩ := List.forall_mem_cons.mp hdeadline
    obtain ⟨hspanHead, hspanTail⟩ := List.forall_mem_cons.mp hspan
    rw [List.length_cons] at hcount
    have harrives' : ∀ p ∈ packets, p ∈ seen ∨ a.data = p ∨ ∃ b ∈ rest, b.data = p := by
      intro p hp
      simpa only [List.mem_cons, or_and_right, exists_or, exists_eq_left] using harrives p hp
    rcases hexpectedHead with hstray | ⟨hsource, hdata⟩
    · have harrivesTail : ∀ p ∈ packets, p ∈ seen ∨ ∃ b ∈ rest, b.data = p := by
        intro p hp
        refine (harrives' p hp).imp_right (Or.resolve_left · ?_)
        rintro rfl
        exact hnot _ hp hstray
      have hdecodes : a.source.ip = serverIp → ¬Undecodable a.data := by
        intro hsource hundecodable
        obtain ⟨p, hp, hunseen⟩ := hmissing
        obtain ⟨b, hb, rfl⟩ := (harrivesTail p hp).resolve_left hunseen
        exact hlast [] a rest rfl hsource hundecodable b hb hp
      obtain ⟨w', hear, hsame, hwithin⟩ := hear_stray h (by omega) hstray hdecodes
      rw [awaitResponse_cons hdeadlineHead hear]
      exact ih w' (n + 1) seen hwithin (by omega) (hsame ▸ hheld) hmissing hexpectedTail hdeadlineTail hspanTail
        hlast.tail harrivesTail
    · obtain ⟨w', out, hear, hwithin, hout⟩ := hpacket w n seen a h (by omega) hheld hsource hdata (hspanHead hdata)
      rw [awaitResponse_cons hdeadlineHead hear]
      rcases hout with rfl | ⟨rfl, hheld, hmissing⟩
      · rfl
      · refine ih w' (n + 1) _ hwithin (by omega) hheld hmissing hexpectedTail hdeadlineTail hspanTail hlast.tail ?_
        intro p hp
        simpa only [List.mem_append, List.mem_singleton, or_assoc, eq_comm (a := p)] using harrives' p hp

def InSpan (packets : List Bytes) (seen : List (Nat × Bytes)) : Prop :=
  ∃ start, ∀ p ∈ packets, ∃ time, (time, p) ∈ seen ∧ start ≤ time ∧ time ≤ start + 5 * 10 ^ 9

/-- What has been read when the wait ends. -/
theorem read_of_packets (Held : Nat → List (Nat × Bytes) → Reassembly → Prop)
    (hpacket : ∀ w n last seen a, Within n w → n + 1 < 100 → Held last seen w.reassembler → last ≤ a.now →
      a.source.ip = serverIp → a.data ∈ packets → ∃ w' out, w.hear serverIp a = .ok (w', out) ∧ w'.Within (n + 1) ∧
        (out = none → Held a.now (seen ++ [(a.now, a.data)]) w'.reassembler) ∧
        (out.isSome = true → InSpan packets (seen ++ [(a.now, a.data)])))
    (arrivals : List ClientArrival) (w : ResponseWait) (n last : Nat) (seen : List (Nat × Bytes)) (h : w.Within n)
    (hcount : n + arrivals.length < 100) (hheld : Held last seen w.reassembler) (hfrom : ∀ a ∈ arrivals, last ≤ a.now)
    (hsorted : arrivals.Pairwise fun a b => a.now ≤ b.now) (hexpected : ∀ a ∈ arrivals, a.Expected serverIp packets)
    (hdeadline : ∀ a ∈ arrivals, a.now < deadline) {packet : Bytes}
    (hok : w.awaitResponse serverIp deadline expired arrivals = .ok packet) :
    ∃ read rest, arrivals = read ++ rest ∧ Clean serverIp read ∧
      ∃ all, InSpan packets all ∧ ∀ x ∈ all, x ∈ seen ∨ ∃ a ∈ read, (a.now, a.data) = x := by
  induction arrivals generalizing w n last seen with
  | nil => cases hok
  | cons a rest ih =>
    obtain ⟨hexpectedHead, hexpectedTail⟩ := List.forall_mem_cons.mp hexpected
    obtain ⟨hdeadlineHead, hdeadlineTail⟩ := List.forall_mem_cons.mp hdeadline
    obtain ⟨hfromHead, hfromTail⟩ := List.forall_mem_cons.mp hfrom
    obtain ⟨hsortedHead, hsortedTail⟩ := List.pairwise_cons.mp hsorted
    rw [List.length_cons] at hcount
    have hdecodes := not_undecodable_of_ok hdeadlineHead hok
    rcases hexpectedHead with hstray | ⟨hsource, hdata⟩
    · obtain ⟨w', hear, hsame, hwithin⟩ := hear_stray h (by omega) hstray hdecodes
      rw [awaitResponse_cons hdeadlineHead hear] at hok
      obtain ⟨read, rest, rfl, hclean, all, hdone, hall⟩ := ih w' (n + 1) last seen hwithin (by omega)
        (hsame ▸ hheld) hfromTail hsortedTail hexpectedTail hdeadlineTail hok
      refine ⟨a :: read, rest, rfl, hclean.cons hdecodes, all, hdone, fun x hx => (hall x hx).imp_right ?_⟩
      rintro ⟨b, hb, hbx⟩
      exact ⟨b, List.mem_cons_of_mem _ hb, hbx⟩
    · obtain ⟨w', out, hear, hwithin, hnone, hsome⟩ := hpacket w n last seen a h (by omega) hheld hfromHead hsource hdata
      rw [awaitResponse_cons hdeadlineHead hear] at hok
      -- The packet itself is the one that has been added to what was seen.
      have hadded : ∀ x ∈ seen ++ [(a.now, a.data)], x ∈ seen ∨ (a.now, a.data) = x := by
        simp only [List.mem_append, List.mem_singleton, eq_comm, imp_self, implies_true]
      cases out with
      | none =>
        obtain ⟨read, rest, rfl, hclean, all, hdone, hall⟩ := ih w' (n + 1) a.now _ hwithin (by omega) (hnone rfl)
          hsortedHead hsortedTail hexpectedTail hdeadlineTail hok
        refine ⟨a :: read, rest, rfl, hclean.cons hdecodes, all, hdone, fun x hx => ?_⟩
        simp only [List.mem_cons, or_and_right, exists_or, exists_eq_left, ← or_assoc]
        exact (hall x hx).imp_left (hadded x)
      | some message =>
        have hclean : Clean serverIp [a] := Clean.cons (fun _ hb => nomatch hb) hdecodes
        refine ⟨[a], rest, rfl, hclean, _, hsome rfl, fun x hx => (hadded x hx).imp_right ?_⟩
        exact fun hself => ⟨a, List.mem_cons_self, hself⟩

theorem mem_packets {m : FragmentedMessage} {data : Bytes} :
    data ∈ m.bodies.map fragmentPacket ↔ ∃ i < m.count, data = fragmentPacket (m.fragment i).toBytes := by
  simp only [FragmentedMessage.bodies, List.map_map, List.mem_map, List.mem_range, Function.comp_apply, eq_comm]

end ResponseWait

/-! ### The packets among stray datagrams -/

/-- The packets, each once and in any order, with strays between them. -/
def Mixture (packets : List Bytes) (arrivals : List ClientArrival) : Prop :=
  ∃ strays, (∀ data ∈ strays, Stray data) ∧ (arrivals.map ClientArrival.data).Perm (packets ++ strays)

namespace HandshakeResponse.Datagrams
variable {response : HandshakeResponse} {packets : List Bytes} {serverIp : IpAddr} {arrivals : List ClientArrival}

theorem not_stray_of_response {data : Bytes} {header : PacketHeader} (hlength : headerSize ≤ data.length)
    (hdecode : PacketHeader.decode data = .ok header) (htype : header.msgType = .handshakeResponse) : ¬Stray data := by
  intro hstray
  cases hstray with
  | tooShort hshort => exact absurd hlength (not_le.mpr hshort)
  | undecodable herror => cases hdecode.symm.trans herror
  | otherType hheader hresponse =>
    cases hdecode.symm.trans hheader
    exact hresponse htype
  | malformed hheader hfragment | foreign hheader hfragment =>
    cases hdecode.symm.trans hheader
    cases htype.symm.trans hfragment

theorem not_stray_fragment {m : FragmentedMessage} (htype : m.innerMsgType = .handshakeResponse) {index : Nat}
    (hindex : index < m.count) : ¬Stray (fragmentPacket (m.fragment index).toBytes) := by
  have hdecode := decode_fragmentPacket (m.fragment index).toBytes
  have hbody := fromBytes_toBytes hindex
  intro hstray
  cases hstray with
  | tooShort hshort =>
    rw [fragmentPacket, List.length_append, length_newHeader] at hshort
    omega
  | undecodable herror => cases hdecode.symm.trans herror
  | otherType hheader _ hfragment =>
    cases hdecode.symm.trans hheader
    exact hfragment rfl
  | malformed _ _ herror => cases hbody.symm.trans herror
  | foreign _ _ hfragment hinner =>
    cases hbody.symm.trans hfragment
    exact hinner htype

theorem message {fragId : UInt32} {bodies : List Bytes}
    (hbuild : buildHandshakeFragments .handshakeResponse fragId response.toBytes = .ok bodies) :
    ∃ m : FragmentedMessage, m.source = peerKey ∧ m.innerMsgType = .handshakeResponse ∧
      m.payload = response.toBytes ∧ bodies = m.bodies := by
  let m : FragmentedMessage :=
    ⟨peerKey, fragId, .handshakeResponse, response.toBytes, fragmentable_of_build hbuild⟩
  exact ⟨m, rfl, rfl, rfl, Except.ok.inj (hbuild.symm.trans m.build_eq)⟩

theorem not_stray (h : response.Datagrams packets) : ∀ p ∈ packets, ¬Stray p := by
  intro p hp
  cases h with
  | whole sessionId =>
    obtain rfl := List.mem_singleton.mp hp
    refine not_stray_of_response ?_ (decode_toBytes (new_wellFormed ..) _) rfl
    rw [List.length_append, length_newHeader]
    omega
  | fragments fragId hbuild =>
    obtain ⟨m, -, htype, -, rfl⟩ := message hbuild
    obtain ⟨i, hi, rfl⟩ := ResponseWait.mem_packets.mp hp
    exact not_stray_fragment htype hi

theorem nodup (h : response.Datagrams packets) : packets.Nodup := by
  cases h with
  | whole sessionId => exact List.nodup_singleton _
  | fragments fragId hbuild =>
    obtain ⟨m, -, -, -, rfl⟩ := message hbuild
    exact nodup_bodies.map fragmentPacket_injective

theorem genuine_perm (h : response.Datagrams packets) (hmix : Mixture packets arrivals) :
    ((arrivals.filter fun a => a.data ∈ packets).map ClientArrival.data).Perm packets := by
  obtain ⟨strays, hstrays, hperm⟩ := hmix
  have hnone : strays.filter (· ∈ packets) = [] := by
    rw [List.filter_eq_nil_iff]
    intro d hd hmem
    exact h.not_stray d (of_decide_eq_true hmem) (hstrays d hd)
  have hall : packets.filter (· ∈ packets) = packets :=
    List.filter_eq_self.mpr fun p hp => decide_eq_true hp
  have hfiltered := hperm.filter (· ∈ packets)
  rw [List.filter_append, hall, hnone, List.append_nil, List.filter_map] at hfiltered
  exact hfiltered

theorem expected (hmix : Mixture packets arrivals)
    (hserver : ∀ a ∈ arrivals, a.data ∈ packets → a.source.ip = serverIp) :
    ∀ a ∈ arrivals, a.Expected serverIp packets := by
  obtain ⟨strays, hstrays, hperm⟩ := hmix
  intro a ha
  rcases List.mem_append.mp (hperm.mem_iff.mp (List.mem_map_of_mem ha)) with hpacket | hstray
  · exact .inr ⟨hserver a ha hpacket, hpacket⟩
  · exact .inl (hstrays _ hstray)

theorem exists_arrival (hmix : Mixture packets arrivals) {p : Bytes} (hp : p ∈ packets) :
    ∃ a ∈ arrivals, a.data = p := by
  obtain ⟨strays, -, hperm⟩ := hmix
  exact List.mem_map.mp (hperm.mem_iff.mpr (List.mem_append_left _ hp))

theorem not_mem_rest {read rest : List ClientArrival} (h : response.Datagrams packets)
    (hmix : Mixture packets (read ++ rest)) (hread : ∀ p ∈ packets, ∃ a ∈ read, a.data = p) :
    ∀ b ∈ rest, b.data ∉ packets := by
  intro b hb hpacket
  obtain ⟨a, ha, hdata⟩ := hread _ hpacket
  have hnodup := (h.genuine_perm hmix).nodup_iff.mpr h.nodup
  rw [List.filter_append, List.map_append, List.nodup_append] at hnodup
  have hain : a.data ∈ (read.filter fun a => a.data ∈ packets).map ClientArrival.data :=
    List.mem_map_of_mem (List.mem_filter.mpr ⟨ha, decide_eq_true (hdata ▸ hpacket)⟩)
  have hbin : b.data ∈ (rest.filter fun a => a.data ∈ packets).map ClientArrival.data :=
    List.mem_map_of_mem (List.mem_filter.mpr ⟨hb, decide_eq_true hpacket⟩)
  exact hnodup.2.2 _ hain _ hbin hdata

theorem undecodableLast {read rest : List ClientArrival} (h : response.Datagrams packets)
    (hmix : Mixture packets (read ++ rest)) (hclean : Clean serverIp read)
    (hread : ∀ p ∈ packets, ∃ a ∈ read, a.data = p) : UndecodableLast serverIp packets (read ++ rest) := by
  intro before u after hsplit hsource hundecodable b hb
  have hnone := h.not_mem_rest hmix hread
  rcases List.append_eq_append_iff.mp hsplit with ⟨between, -, hrest⟩ | ⟨between, hbefore, hafter⟩
  · refine hnone b ?_
    rw [hrest]
    exact List.mem_append_right _ (List.mem_cons_of_mem _ hb)
  · cases between with
    | nil =>
      refine hnone b ?_
      rw [← List.nil_append rest, ← hafter]
      exact List.mem_cons_of_mem _ hb
    | cons v between =>
      obtain ⟨rfl, -⟩ := List.cons.inj hafter
      refine absurd hundecodable (hclean u ?_ hsource)
      rw [hbefore]
      exact List.mem_append_right _ List.mem_cons_self

theorem arrival_unique (h : response.Datagrams packets) (hmix : Mixture packets arrivals) {a b : ClientArrival}
    (ha : a ∈ arrivals) (hb : b ∈ arrivals) (hpacket : a.data ∈ packets) (hdata : a.data = b.data) : a = b := by
  have hnodup := (h.genuine_perm hmix).nodup_iff.mpr h.nodup
  refine List.inj_on_of_nodup_map hnodup ?_ ?_ hdata
  · exact List.mem_filter.mpr ⟨ha, decide_eq_true hpacket⟩
  · exact List.mem_filter.mpr ⟨hb, decide_eq_true (hdata ▸ hpacket)⟩

end HandshakeResponse.Datagrams

theorem decodeHandshakeResponse_append {level : SecurityLevel} {sessionId : SessionId} {payload : Bytes}
    {received : HandshakeResponse} (h : HandshakeResponse.fromBytesWithLevel payload level = .ok received) :
    decodeHandshakeResponse level ((PacketHeader.new .handshakeResponse sessionId 0 0).toBytes ++ payload) =
      .ok received := by
  unfold decodeHandshakeResponse
  rw [ensure_of (by rw [List.length_append, length_newHeader]; omega), ok_bind,
    decode_toBytes (new_wellFormed ..), List.drop_left' (length_newHeader ..), h]
  rfl

/-- The packets arrive within five seconds. -/
def WithinSpan (packets : List Bytes) (arrivals : List ClientArrival) : Prop :=
  ∃ start, ∀ a ∈ arrivals, a.data ∈ packets → start ≤ a.now ∧ a.now ≤ start + 5 * 10 ^ 9

namespace ResponseWait
variable {response : HandshakeResponse} {packets : List Bytes} {serverIp : IpAddr} {deadline : Nat}
  {expired : ClientError} {arrivals : List ClientArrival}

theorem awaitResponse_of_datagrams (h : response.Datagrams packets) (hmix : Mixture packets arrivals)
    (hserver : ∀ a ∈ arrivals, a.data ∈ packets → a.source.ip = serverIp) (hcount : arrivals.length < 100)
    (hdeadline : ∀ a ∈ arrivals, a.now < deadline) (hlast : UndecodableLast serverIp packets arrivals)
    (hspan : WithinSpan packets arrivals) :
    ∃ sessionId, new.awaitResponse serverIp deadline expired arrivals =
      .ok ((PacketHeader.new .handshakeResponse sessionId 0 0).toBytes ++ response.toBytes) := by
  have hexpected := HandshakeResponse.Datagrams.expected hmix hserver
  have hbelow : 0 + arrivals.length < 100 := (zero_add _).trans_lt hcount
  have hnot := h.not_stray
  have harrives : ∀ p ∈ packets, p ∈ [] ∨ ∃ a ∈ arrivals, a.data = p :=
    fun p hp => .inr (HandshakeResponse.Datagrams.exists_arrival hmix hp)
  cases h with
  | whole sessionId =>
    refine ⟨sessionId, awaitResponse_of_packets (fun _ => True) (fun _ _ => True) hnot ?_ arrivals new 0 [] within_new
      hbelow trivial ⟨_, List.mem_cons_self, List.not_mem_nil⟩ hexpected hdeadline (fun _ _ _ => trivial) hlast harrives⟩
    intro w n _ a hw _ _ hsource hdata _
    have hdata := List.mem_singleton.mp hdata
    exact ⟨_, _, hear_whole w hsource hdata, ⟨hw.ignored.trans (Nat.le_succ n), Nat.zero_le _⟩,
      .inl (congrArg some hdata)⟩
  | fragments fragId hbuild =>
    obtain ⟨m, hpeer, htype, hpayload, rfl⟩ := HandshakeResponse.Datagrams.message hbuild
    obtain ⟨start, hspan⟩ := hspan
    refine ⟨0, ?_⟩
    rw [← hpayload]
    refine awaitResponse_of_packets (fun now => start ≤ now ∧ now ≤ start + 5 * 10 ^ 9)
      (fun seen r => ∃ bodies, seen = bodies.map fragmentPacket ∧ m.Collecting start bodies r) hnot ?_ arrivals new 0 []
      within_new hbelow ⟨[], rfl, m.collecting_new start⟩
      ⟨_, mem_packets.mpr ⟨0, m.fragmentable.fragmentCount_pos, rfl⟩, List.not_mem_nil⟩ hexpected hdeadline hspan hlast
      harrives
    rintro w n _ a hw hn ⟨bodies, rfl, hcollecting⟩ hsource hdata ⟨hstart, hend⟩
    obtain ⟨index, hindex, hdata⟩ := mem_packets.mp hdata
    obtain ⟨r', out, hinsert, hout⟩ := hcollecting.insert hstart hend hindex a.order
    obtain ⟨w', hear, rfl, hwithin⟩ := hear_fragment hw hn hpeer htype hindex hsource hdata hinsert
    refine ⟨w', _, hear, hwithin, ?_⟩
    have hseen : bodies.map fragmentPacket ++ [a.data] = (bodies ++ [(m.fragment index).toBytes]).map fragmentPacket := by
      rw [hdata, List.map_append, List.map_singleton]
    rw [hseen]
    rcases hout with ⟨⟨i, hi, hunseen⟩, rfl, hcollecting⟩ | ⟨-, rfl⟩
    · refine .inr ⟨rfl, ⟨_, rfl, hcollecting⟩, _, mem_packets.mpr ⟨i, hi, rfl⟩, ?_⟩
      rwa [List.mem_map_of_injective fragmentPacket_injective]
    · exact .inl rfl

theorem conditions_of_awaitResponse (h : response.Datagrams packets) (hmix : Mixture packets arrivals)
    (hserver : ∀ a ∈ arrivals, a.data ∈ packets → a.source.ip = serverIp)
    (hsorted : arrivals.Pairwise fun a b => a.now ≤ b.now) (hcount : arrivals.length < 100)
    (hdeadline : ∀ a ∈ arrivals, a.now < deadline) {packet : Bytes}
    (hok : new.awaitResponse serverIp deadline expired arrivals = .ok packet) :
    UndecodableLast serverIp packets arrivals ∧ WithinSpan packets arrivals := by
  have hexpected := HandshakeResponse.Datagrams.expected hmix hserver
  have hbelow : 0 + arrivals.length < 100 := (zero_add _).trans_lt hcount
  -- Either way the packets are among what was read, and came in one span.
  obtain ⟨read, rest, rfl, hclean, all, ⟨start, hspan⟩, hall⟩ : ∃ read rest, arrivals = read ++ rest ∧
      Clean serverIp read ∧ ∃ all, InSpan packets all ∧ ∀ x ∈ all, x ∈ [] ∨ ∃ a ∈ read, (a.now, a.data) = x := by
    cases h with
    | whole sessionId =>
      refine read_of_packets (fun _ _ _ => True) ?_ arrivals new 0 0 [] within_new hbelow trivial
        (fun _ _ => Nat.zero_le _) hsorted hexpected hdeadline hok
      intro w n _ seen a hw _ _ _ hsource hdata
      have hself := List.mem_singleton.mp hdata
      refine ⟨_, _, hear_whole w hsource hself, ⟨hw.ignored.trans (Nat.le_succ n), Nat.zero_le _⟩, nofun, ?_⟩
      refine fun _ => ⟨a.now, fun p hp => ⟨a.now, List.mem_append_right _ ?_, le_rfl, Nat.le_add_right _ _⟩⟩
      rw [hself, List.mem_singleton.mp hp]
      exact List.mem_cons_self
    | fragments fragId hbuild =>
      obtain ⟨m, hpeer, htype, -, rfl⟩ := HandshakeResponse.Datagrams.message hbuild
      refine read_of_packets (fun last seen r => (∀ x ∈ seen, x.1 ≤ last) ∧
        ∃ bodies, seen = bodies.map (Prod.map id fragmentPacket) ∧ m.Timed last bodies r) ?_ arrivals new 0 0 []
        within_new hbelow ⟨nofun, [], rfl, m.timed_new 0⟩ (fun _ _ => Nat.zero_le _) hsorted hexpected hdeadline hok
      rintro w n last _ a hw hn ⟨hle, bodies, rfl, htimed⟩ hlast hsource hdata
      obtain ⟨index, hindex, hdata⟩ := mem_packets.mp hdata
      obtain ⟨r', out, hinsert, htimed, hout⟩ := htimed.insert hlast hindex a.order
      obtain ⟨w', hear, rfl, hwithin⟩ := hear_fragment hw hn hpeer htype hindex hsource hdata hinsert
      have hseen : bodies.map (Prod.map id fragmentPacket) ++ [(a.now, a.data)] =
          (bodies ++ [(a.now, (m.fragment index).toBytes)]).map (Prod.map id fragmentPacket) := by
        rw [hdata, List.map_append]
        rfl
      have hle' : ∀ x ∈ bodies.map (Prod.map id fragmentPacket) ++ [(a.now, a.data)], x.1 ≤ a.now := by
        simp only [List.forall_mem_append, List.forall_mem_singleton, le_refl, and_true]
        exact fun x hx => (hle x hx).trans hlast
      refine ⟨w', _, hear, hwithin, fun _ => ⟨hle', _, hseen, htimed⟩, fun hsome => ?_⟩
      obtain ⟨start, -, hend, hall⟩ := hout (by simpa using hsome)
      refine ⟨start, fun p hp => ?_⟩
      obtain ⟨i, hi, rfl⟩ := mem_packets.mp hp
      obtain ⟨time, hmem, hstart⟩ := hall i hi
      have hin := hseen ▸ List.mem_map_of_mem hmem
      exact ⟨time, hin, hstart, (hle' _ hin).trans hend⟩
  have hread : ∀ p ∈ packets, ∃ a ∈ read, a.data = p ∧ start ≤ a.now ∧ a.now ≤ start + 5 * 10 ^ 9 := by
    intro p hp
    obtain ⟨time, hmem, htime⟩ := hspan p hp
    obtain ⟨a, ha, heq⟩ := (hall _ hmem).resolve_left List.not_mem_nil
    obtain ⟨rfl, rfl⟩ := Prod.mk.inj heq
    exact ⟨a, ha, rfl, htime⟩
  refine ⟨h.undecodableLast hmix hclean fun p hp => ?_, start, ?_⟩
  · obtain ⟨a, ha, hdata, -⟩ := hread p hp
    exact ⟨a, ha, hdata⟩
  · intro b hb hpacket
    obtain ⟨a, ha, hdata, hspan⟩ := hread _ hpacket
    obtain rfl := h.arrival_unique hmix hb (List.mem_append_left _ ha) hpacket hdata.symm
    exact hspan

end ResponseWait

/-- The handshake completes unless a datagram without a header comes before the last packet, or the packets come too
far apart for the buffer. -/
theorem handshake_completes_iff (P : Primitives) (settings : RekeySettings) (withCredentials : Bool) (serverIp : IpAddr)
    (handshake : ClientHandshake) (sent : Nat) (response received : HandshakeResponse)
    (result : SessionId × SessionKeys × TunnelConfig) (packets : List Bytes) (arrivals : List ClientArrival)
    (hdatagrams : response.Datagrams packets)
    (hreceived : HandshakeResponse.fromBytesWithLevel response.toBytes settings.securityLevel = .ok received)
    (haccepted : (handshake.processResponse P received).2 = .ok result)
    (hmix : Mixture packets arrivals) (hserver : ∀ a ∈ arrivals, a.data ∈ packets → a.source.ip = serverIp)
    (hsorted : arrivals.Pairwise fun a b => a.now ≤ b.now) (hcount : arrivals.length < 100)
    (hdeadline : ∀ a ∈ arrivals, a.now < sent + settings.responseTimeout withCredentials) :
    performHandshake P settings withCredentials serverIp handshake sent arrivals = .ok result ↔
      UndecodableLast serverIp packets arrivals ∧ WithinSpan packets arrivals := by
  constructor
  · intro hok
    obtain ⟨packet, hpacket, -⟩ := bind_ok_iff.mp hok
    exact ResponseWait.conditions_of_awaitResponse hdatagrams hmix hserver hsorted hcount hdeadline hpacket
  · rintro ⟨hlast, hspan⟩
    obtain ⟨sessionId, hpacket⟩ :=
      ResponseWait.awaitResponse_of_datagrams hdatagrams hmix hserver hcount hdeadline hlast hspan
    rw [performHandshake, hpacket, ok_bind, decodeHandshakeResponse_append hreceived, Except.mapError, ok_bind,
      haccepted]
    rfl

namespace WaitSample
open AuthSample

def settings : RekeySettings := ⟨server.serverKeypair.publicKey, .level3, 30000⟩

def serverAddr : SocketAddr := .v4 (.replicate 4 7) 51820

theorem length_response : response.toBytes.length = 6481 := by
  decide +kernel

theorem fragmentable_response : Fragmentable .handshakeResponse response.toBytes where
  innerMsgType := rfl
  payload_ne := List.ne_nil_of_length_pos (length_response ▸ by decide)
  payload_le := length_response ▸ by decide

def message : FragmentedMessage := ⟨peerKey, 7, .handshakeResponse, response.toBytes, fragmentable_response⟩

def packets : List Bytes := message.bodies.map fragmentPacket

theorem datagrams : response.Datagrams packets := .fragments 7 message.build_eq

theorem received : HandshakeResponse.fromBytesWithLevel response.toBytes settings.securityLevel = .ok response :=
  HandshakeResponse.fromBytesWithLevel_toBytes ⟨rfl, Block.length_bytes _, rfl⟩ ⟨by decide, by decide⟩

theorem accepted : (client.processResponse primitives response).2 = .ok (42, keys, config) := by
  have hcheck := ClientHandshake.checkResponse_eq_ok.mpr ⟨_, _, _, accepts⟩
  rw [ClientHandshake.processResponse_eq_ok.mpr ⟨keys, hcheck, rfl, rfl⟩]
  rfl

def following (data : Bytes) : List ClientArrival := (data :: packets).map fun data => ⟨serverAddr, data, 1, .first⟩

variable {data : Bytes}

theorem mixture_following (h : Stray data) : Mixture packets (following data) := by
  refine ⟨[data], fun d hd => List.mem_singleton.mp hd ▸ h, ?_⟩
  rw [following, List.map_map]
  exact (List.map_id (data :: packets)).symm ▸ (List.perm_append_singleton data packets).symm

theorem following_forall {p : ClientArrival → Prop}
    (h : ∀ d ∈ data :: packets, p ⟨serverAddr, d, 1, .first⟩) : ∀ a ∈ following data, p a :=
  List.forall_mem_map.mpr h

theorem length_following (data : Bytes) : (following data).length < 100 := by
  rw [following, List.length_map, List.length_cons, packets, List.length_map, length_bodies]
  change fragmentCount response.toBytes + 1 < 100
  rw [fragmentCount, length_response]
  decide

theorem sorted_following (data : Bytes) : (following data).Pairwise fun a b => a.now ≤ b.now :=
  List.pairwise_map.mpr (List.pairwise_of_forall fun _ _ => le_rfl)

theorem in_time : ∀ d ∈ data :: packets,
    (⟨serverAddr, d, 1, .first⟩ : ClientArrival).now < 0 + settings.responseTimeout false := by
  intro _ _
  change 1 < 0 + settings.responseTimeout false
  decide

theorem handshake_completes_after_short :
    performHandshake primitives settings false serverAddr.ip client 0 (following [1, 2, 3]) =
      .ok (42, keys, config) := by
  have hshort : ([1, 2, 3] : Bytes).length < headerSize := by decide
  refine (handshake_completes_iff primitives settings false serverAddr.ip client 0 response response _ packets
    (following [1, 2, 3]) datagrams received accepted (mixture_following (.tooShort hshort))
    (following_forall fun _ _ _ => rfl) (sorted_following _) (length_following _)
    (following_forall in_time)).mpr ⟨?_, 1, following_forall fun _ _ _ => ⟨le_rfl, Nat.le_add_right _ _⟩⟩
  -- No datagram of these lacks a header.
  intro before a after hsplit _ hundecodable
  have ha : a ∈ following [1, 2, 3] := hsplit ▸ List.mem_append_right _ List.mem_cons_self
  have hclean : ¬Undecodable a.data := by
    refine following_forall (p := fun a => ¬Undecodable a.data) ?_ a ha
    intro d hd
    rcases List.mem_cons.mp hd with rfl | hd
    · exact fun h => absurd h.1 (not_le.mpr hshort)
    · exact fun ⟨_, e, hdecode⟩ => datagrams.not_stray d hd (.undecodable hdecode)
  exact absurd hundecodable hclean

theorem undecodable_datagram_ends_handshake :
    let data : Bytes := List.replicate 24 0
    response.Datagrams packets ∧
      HandshakeResponse.fromBytesWithLevel response.toBytes settings.securityLevel = .ok response ∧
      (client.processResponse primitives response).2 = .ok (42, keys, config) ∧
      Stray data ∧ Mixture packets (following data) ∧ (∀ a ∈ following data, a.source.ip = serverAddr.ip) ∧
      (following data).Pairwise (fun a b => a.now ≤ b.now) ∧ (following data).length < 100 ∧
      (∀ a ∈ following data, a.now < 0 + settings.responseTimeout false) ∧
      performHandshake primitives settings false serverAddr.ip client 0 (following data) =
        .error (.failed (.protocol (.invalidVersion 0))) := by
  intro data
  have hdecode : PacketHeader.decode data = .error (.invalidVersion 0) := by decide
  refine ⟨datagrams, received, accepted, .undecodable hdecode, mixture_following (.undecodable hdecode),
    following_forall fun _ _ => rfl, sorted_following data, length_following data, following_forall in_time, ?_⟩
  rw [performHandshake, following, List.map_cons]
  rw [ResponseWait.awaitResponse_cons_error (in_time data List.mem_cons_self)
    (ResponseWait.hear_undecodable _ rfl (by decide) hdecode)]
  rfl

end WaitSample

end HpnVpn
