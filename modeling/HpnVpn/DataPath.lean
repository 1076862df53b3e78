import HpnVpn.Rekey

/-! What the server does with a datagram of one session.  Every handler starts with `decrypt_packet`; the three UDP
data paths are what follows it. -/
namespace HpnVpn
open Wire

namespace Session

/-- The packet opens under the session's keys and its counter is new. -/
def Accepts (A : Aes256Gcm) (s : Session) (packet : Bytes) (outputLen : Nat) : Prop :=
  ∃ header payload, s.openPacket A packet outputLen = .ok (header, payload) ∧ s.recvWindow.check header.counter = true

theorem acceptPacket_ne {s : Session} {now : Nat} {counter : Counter} {size : Nat}
    (h : s.recvWindow.check counter = true) : s.acceptPacket now counter size ≠ s := by
  intro heq
  have hwindow : (s.recvWindow.checkAndUpdate counter).1 = s.recvWindow := congrArg Session.recvWindow heq
  exact AntiReplayWindow.checkAndUpdate_ne ((s.recvWindow.check_eq counter).symm.trans h) hwindow

end Session

namespace ClientSession

variable (A : Aes256Gcm) (c : ClientSession)

def accepted (now : UInt64) (counter : Counter) (size : Nat) : ClientSession :=
  { c with session := c.session.acceptPacket (millis now) counter size }

/-- Decrypt into a buffer of `outputLen` bytes and go on; a packet that does not decrypt is dropped. -/
def onPacket {β : Type} (A : Aes256Gcm) (c : ClientSession) (data : Bytes) (outputLen : Nat) (now : UInt64)
    (next : ClientSession → Bytes → ClientSession × Option β) : ClientSession × Option β :=
  match c.session.decryptPacket A (millis now) data outputLen with
  | (session, .error _) => ({ c with session }, none)
  | (session, .ok (_, payload)) => next { c with session } payload

theorem onPacket_cases {β : Type} (A : Aes256Gcm) (c : ClientSession) (data : Bytes) (outputLen : Nat)
    (now : UInt64) (next : ClientSession → Bytes → ClientSession × Option β) :
    (¬c.session.Accepts A data outputLen ∧ c.onPacket A data outputLen now next = (c, none)) ∨
      ∃ header payload, c.session.openPacket A data outputLen = .ok (header, payload) ∧
        c.session.recvWindow.check header.counter = true ∧
        c.onPacket A data outputLen now next = next (c.accepted now header.counter data.length) payload := by
  rw [onPacket]
  rcases Session.decryptPacket_cases A c.session (millis now) data outputLen with
    ⟨e, hopen, heq⟩ | ⟨header, payload, hopen, hcheck, heq⟩ | ⟨header, payload, hopen, hcheck, heq⟩
  · left
    rw [heq]
    refine ⟨?_, rfl⟩
    rintro ⟨header, payload, hok, -⟩
    rw [hopen] at hok
    cases hok
  · left
    rw [heq]
    refine ⟨?_, rfl⟩
    rintro ⟨header', payload', hok, hcheck'⟩
    rw [hopen] at hok
    cases hok
    rw [hcheck] at hcheck'
    cases hcheck'
  · right
    rw [heq]
    exact ⟨header, payload, hopen, hcheck, rfl⟩

/-! ### The UDP data paths -/

/-- The inner packet's source address is the one assigned to the session. -/
def validSrc (buf : Bytes) : Bool :=
  let ipVersion := buf.headD 0 >>> 4
  if ipVersion = 4 ∧ 20 ≤ buf.length then (buf.drop 12).take 4 == c.tunnelIp.bytes
  else if ipVersion = 6 ∧ 40 ≤ buf.length then
    match c.tunnelIpv6 with
    | some ipv6 => (buf.drop 8).take 16 == ipv6.bytes
    | none => false
  else false

/-- The data branch of the recvmmsg worker's `process_packet`; returns what is handed to the TUN
device. -/
def processPacketData (accrue : Accrual) (c : ClientSession) (data : Bytes)
    (addr : SocketAddr) (now : UInt64) : ClientSession × Option Bytes :=
  let currentAddr := c.clientAddr
  match c.session.decryptPacket A (millis now) data maxPacketSize with
  | (session, .error _) => ({ c with session }, none)
  | (session, .ok (_, buf)) =>
    let c := { c with session }
    if currentAddr ≠ addr then (c, none)
    else
      match c.checkRateLimit accrue now buf.length with
      | (c, false) => (c, none)
      | (c, true) =>
        if 0 < buf.length ∧ c.validSrc buf = false then (c.incrementSrcMismatch, none)
        else ((c.touch now).addBytesReceived (UInt64.ofNat data.length), some buf)

/-- The io_uring worker's handler, with the source check written out as it stands there; a wrong source is dropped
without being counted. -/
def processDataPacketIoUring (accrue : Accrual) (c : ClientSession) (data : Bytes)
    (addr : SocketAddr) (now : UInt64) : ClientSession × Option Bytes :=
  let addrChanged := decide (c.clientAddr ≠ addr)
  let (session, result) := c.session.decryptPacket A (millis now) data maxPacketSize
  let c := { c with session }
  match result with
  | .error _ => (c, none)
  | .ok (_, buf) =>
    if addrChanged then (c, none)
    else
      let (c, allowed) := c.checkRateLimit accrue now buf.length
      if ¬allowed then (c, none)
      else
        let ipVersion := buf.headD 0 >>> 4
        let validSrc :=
          if ipVersion = 4 ∧ 20 ≤ buf.length then (buf.drop 12).take 4 == c.tunnelIp.bytes
          else if ipVersion = 6 ∧ 40 ≤ buf.length then
            c.tunnelIpv6.any fun ipv6 => (buf.drop 8).take 16 == ipv6.bytes
          else false
        if 0 < buf.length ∧ ¬validSrc then (c, none)
        else ((c.touch now).addBytesReceived (UInt64.ofNat data.length), some buf)

/-- The handler of the other platforms has the address check only. -/
def handleDataPacket (data : Bytes) (addr : SocketAddr) (now : UInt64) :
    ClientSession × Option Bytes :=
  c.onPacket A data maxPacketSize now fun c buf =>
    if c.clientAddr ≠ addr then (c, none)
    else ((c.touch now).addBytesReceived (UInt64.ofNat data.length), some buf)

/-! ### The checks after decryption -/

variable {A : Aes256Gcm} {accrue : Accrual} {c : ClientSession} {data : Bytes} {addr : SocketAddr} {now : UInt64}

/-- What both Linux workers do after decryption, up to what a wrong inner source does to the session. -/
def admitData (accrue : Accrual) (onMismatch : ClientSession → ClientSession) (addr : SocketAddr)
    (now : UInt64) (size : Nat) (c : ClientSession) (buf : Bytes) : ClientSession × Option Bytes :=
  if c.clientAddr ≠ addr then (c, none)
  else
    match c.checkRateLimit accrue now buf.length with
    | (c, false) => (c, none)
    | (c, true) =>
      if 0 < buf.length ∧ c.validSrc buf = false then (onMismatch c, none)
      else ((c.touch now).addBytesReceived (UInt64.ofNat size), some buf)

theorem processPacketData_eq : c.processPacketData A accrue data addr now =
    c.onPacket A data maxPacketSize now (admitData accrue incrementSrcMismatch addr now data.length) := by
  unfold processPacketData onPacket
  obtain ⟨session, result⟩ := c.session.decryptPacket A (millis now) data maxPacketSize
  cases result with
  | error e => rfl
  | ok opened => rfl

theorem validSrc_eq (c : ClientSession) (buf : Bytes) : c.validSrc buf =
    if buf.headD 0 >>> 4 = 4 ∧ 20 ≤ buf.length then (buf.drop 12).take 4 == c.tunnelIp.bytes
    else if buf.headD 0 >>> 4 = 6 ∧ 40 ≤ buf.length then
      c.tunnelIpv6.any fun ipv6 => (buf.drop 8).take 16 == ipv6.bytes
    else false := by
  rw [validSrc]
  cases c.tunnelIpv6 with
  | none => rfl
  | some ipv6 => rfl

theorem processDataPacketIoUring_eq : c.processDataPacketIoUring A accrue data addr now =
    c.onPacket A data maxPacketSize now (admitData accrue id addr now data.length) := by
  unfold processDataPacketIoUring onPacket
  obtain ⟨session, result⟩ := c.session.decryptPacket A (millis now) data maxPacketSize
  cases result with
  | error e => rfl
  | ok opened =>
    dsimp only [admitData]
    by_cases haddr : c.clientAddr ≠ addr
    · rw [if_pos (decide_eq_true haddr), if_pos haddr]
    · rw [if_neg (Bool.eq_false_iff.mp (decide_eq_false haddr)), if_neg haddr]
      obtain ⟨charged, allowed⟩ := checkRateLimit accrue { c with session } now opened.2.length
      cases allowed with
      | false => rfl
      | true =>
        dsimp only
        rw [if_neg (not_not_intro rfl)]
        simp only [validSrc_eq, Bool.not_eq_true, id_eq]

end ClientSession

end HpnVpn
