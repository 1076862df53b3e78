import HpnVpn.AddressPools
import HpnVpn.Leases

/-! The session manager over runs: table, reverse maps, pools, counter and events stay consistent.  Sessions lease
addresses from the pools; the reverse maps are the indices of those leases. -/
namespace HpnVpn
open Wire Tables Leases Runs Function IpAllocator

inductive SessionLifecycleEvent
  | created (sessionId : SessionId)
  | removed (sessionId : SessionId)
deriving DecidableEq

namespace SessionLifecycleEvent

def isCreated : SessionLifecycleEvent → Bool
  | created _ => true
  | removed _ => false

def isRemoved : SessionLifecycleEvent → Bool
  | created _ => false
  | removed _ => true

end SessionLifecycleEvent

namespace SessionManager

def removeEvents (m : SessionManager) (sessionId : SessionId) : List SessionLifecycleEvent :=
  match m.sessions.lookup sessionId with
  | some _ => [.removed sessionId]
  | none => []

def createEvents (picker pickerV6 : Picker Nat) (m : SessionManager) (session : Session) (clientAddr : SocketAddr)
    (level : SecurityLevel) (now : UInt64) : List SessionLifecycleEvent :=
  m.removeEvents session.sessionId ++
    match (m.createSessionDualStackWithLevel picker pickerV6 session clientAddr level now).2 with
    | .ok _ => [.created session.sessionId]
    | .error _ => []

/-! ### The books of the two pools -/

def leaseOf (sessionId : SessionId) (c : ClientSession) : Lease (Block 4) SessionId := ⟨c.tunnelIp, sessionId, true⟩

def leaseV6Of (sessionId : SessionId) (c : ClientSession) : Option (Lease (Block 16) SessionId) :=
  c.tunnelIpv6.map fun ip => ⟨ip, sessionId, true⟩

def ipv6Addresses (m : SessionManager) : Set (Block 16) :=
  match m.ipv6Allocator with
  | some a => a.addresses
  | none => ∅

def ipv6Available (m : SessionManager) : Set (Block 16) :=
  match m.ipv6Allocator with
  | some a => a.available
  | none => ∅

def ipLease (sessions : SessionId → Option ClientSession) (sessionId : SessionId) :
    Option (Lease (Block 4) SessionId) :=
  (sessions sessionId).map (leaseOf sessionId)

def ipv6Lease (sessions : SessionId → Option ClientSession) (sessionId : SessionId) :
    Option (Lease (Block 16) SessionId) :=
  (sessions sessionId).bind (leaseV6Of sessionId)

variable (sessions : SessionId → Option ClientSession)

theorem ipLease_update (sessionId : SessionId) (o : Option ClientSession) :
    ipLease (update sessions sessionId o) = update (ipLease sessions) sessionId (o.map (leaseOf sessionId)) :=
  funext fun k => apply_update (fun k o => o.map (leaseOf k)) sessions sessionId o k

theorem ipv6Lease_update (sessionId : SessionId) (o : Option ClientSession) :
    ipv6Lease (update sessions sessionId o) = update (ipv6Lease sessions) sessionId (o.bind (leaseV6Of sessionId)) :=
  funext fun k => apply_update (fun k o => o.bind (leaseV6Of k)) sessions sessionId o k

structure Books (m : SessionManager) : Prop where
  ipSound : m.ipAllocator.Sound
  ipNoWrap : m.ipAllocator.NoWrap
  ip : Balanced m.ipAllocator.addresses m.ipAllocator.available (ipLease fun k => m.sessions.lookup k)
    fun ip => m.ipToSession.lookup ip
  ipv6Sound : ∀ {a}, m.ipv6Allocator = some a → a.Sound
  ipv6 : Balanced m.ipv6Addresses m.ipv6Available (ipv6Lease fun k => m.sessions.lookup k)
    fun ip => m.ipv6ToSession.lookup ip
  count_eq : m.sessionCount = m.sessions.keys.length
  count_le : m.sessionCount ≤ m.maxSessions

variable {m : SessionManager}

theorem Books.ipv6Available_subset (h : m.Books) : m.ipv6Available ⊆ m.ipv6Addresses := by
  unfold ipv6Available ipv6Addresses
  cases ha : m.ipv6Allocator with
  | none => exact Set.Subset.refl _
  | some a => exact (h.ipv6Sound ha).available_subset

variable {sessionId : SessionId} {c : ClientSession}

theorem Books.removeIp (h : m.Books) (hc : m.sessions.lookup sessionId = some c) :
    (m.ipAllocator.release c.tunnelIp).Sound ∧
      Balanced (m.ipAllocator.release c.tunnelIp).addresses (m.ipAllocator.release c.tunnelIp).available
        (ipLease fun k => (m.sessions.erase sessionId).lookup k)
        fun ip => (m.ipToSession.erase c.tunnelIp).lookup ip := by
  have hlease : ipLease (fun k => m.sessions.lookup k) sessionId = some ⟨c.tunnelIp, sessionId, true⟩ :=
    congrArg (Option.map _) hc
  obtain ⟨hsound, havail⟩ :=
    release_spec h.ipSound h.ipNoWrap (h.ip.in_pool hlease) (h.ip.not_free hlease)
  refine ⟨hsound, ?_⟩
  rw [addresses_release, havail, lookup_erase_eq_update, lookup_erase_eq_update, ipLease_update]
  exact h.ip.giveListed hlease

theorem Books.removeIpv6 (h : m.Books)
    (hc : m.sessions.lookup sessionId = some c) (ip : Block 16) (hip : c.tunnelIpv6 = some ip) :
    ∃ a, m.ipv6Allocator = some a ∧ (a.release ip).Sound ∧
      Balanced (a.release ip).addresses (a.release ip).available
        (ipv6Lease fun k => (m.sessions.erase sessionId).lookup k)
        fun ip' => (m.ipv6ToSession.erase ip).lookup ip' := by
  have hlease : ipv6Lease (fun k => m.sessions.lookup k) sessionId = some ⟨ip, sessionId, true⟩ := by
    rw [ipv6Lease, hc, Option.bind_some, leaseV6Of, hip]
    rfl
  have hbooks := h.ipv6
  rw [ipv6Addresses, ipv6Available] at hbooks
  cases ha : m.ipv6Allocator with
  | none =>
    rw [ha] at hbooks
    exact absurd (hbooks.in_pool hlease) (Set.notMem_empty _)
  | some a =>
    rw [ha] at hbooks
    obtain ⟨hsound, havail⟩ :=
      Ipv6Allocator.release_spec (h.ipv6Sound ha) (hbooks.in_pool hlease) (hbooks.not_free hlease)
    refine ⟨a, rfl, hsound, ?_⟩
    rw [Ipv6Allocator.addresses_release, havail, lookup_erase_eq_update, lookup_erase_eq_update, ipv6Lease_update]
    exact hbooks.giveListed hlease

theorem Books.ipv6Lease_erase (hc : m.sessions.lookup sessionId = some c) (hip : c.tunnelIpv6 = none) :
    ipv6Lease (fun k => (m.sessions.erase sessionId).lookup k) = ipv6Lease fun k => m.sessions.lookup k := by
  have hlease : ipv6Lease (fun k => m.sessions.lookup k) sessionId = none := by
    rw [ipv6Lease, hc, Option.bind_some, leaseV6Of, hip]
    rfl
  rw [lookup_erase_eq_update, ipv6Lease_update, Option.bind_none, ← hlease, update_eq_self]

theorem Books.removeSession (h : m.Books) (sessionId : SessionId) : (m.removeSession sessionId).1.Books := by
  unfold SessionManager.removeSession
  split
  case h_1 => exact h
  case h_2 c hc =>
    have hcount := keys_length_erase hc
    have hlen := h.count_eq
    have hle := h.count_le
    obtain ⟨hipSound, hip⟩ := h.removeIp hc
    cases hv6 : c.tunnelIpv6 with
    | none =>
      exact
        { ipSound := hipSound
          ipNoWrap := (noWrap_release ..).mpr h.ipNoWrap
          ip := hip
          ipv6Sound := h.ipv6Sound
          ipv6 := by
            rw [ipv6Lease_erase hc hv6]
            exact h.ipv6
          count_eq := by
            dsimp only
            omega
          count_le := by
            dsimp only
            omega }
    | some ip =>
      obtain ⟨a, ha, hsound, hbooks⟩ := h.removeIpv6 hc ip hv6
      exact
        { ipSound := hipSound
          ipNoWrap := (noWrap_release ..).mpr h.ipNoWrap
          ip := hip
          ipv6Sound := by
            intro a' ha'
            rw [ha] at ha'
            obtain rfl := Option.some.inj ha'
            exact hsound
          ipv6 := by
            rw [ha]
            exact hbooks
          count_eq := by
            dsimp only
            omega
          count_le := by
            dsimp only
            omega }

variable {picker : Picker Nat} {a : IpAllocator} {ip : Block 4}

theorem Books.allocateIp (h : m.Books) (hnone : m.sessions.lookup sessionId = none)
    (halloc : m.ipAllocator.allocate picker = (a, some ip)) :
    a.Sound ∧ a.NoWrap ∧ Balanced a.addresses a.available
      (update (ipLease fun k => m.sessions.lookup k) sessionId (some ⟨ip, sessionId, true⟩))
      fun ip' => (m.ipToSession.insert ip sessionId).lookup ip' := by
  rcases allocate_spec h.ipSound picker with hfull | ⟨a', ip', heq, hsound, haddr, hmem, havail⟩
  · cases hfull.symm.trans halloc
  · obtain ⟨rfl, hip⟩ := Prod.mk.inj (heq.symm.trans halloc)
    cases hip
    have hlease : ipLease (fun k => m.sessions.lookup k) sessionId = none := congrArg (Option.map _) hnone
    refine ⟨hsound, ?_, ?_⟩
    · have hwrap := (m.ipAllocator.noWrap_allocate picker).mpr h.ipNoWrap
      rwa [heq] at hwrap
    rw [haddr, havail, lookup_insert_eq_update]
    exact h.ip.takeListed hlease hmem (h.ipSound.available_subset hmem) sessionId

theorem Books.allocateIpv6 (h : m.Books)
    (hnone : m.sessions.lookup sessionId = none) {a : Ipv6Allocator} (ha : m.ipv6Allocator = some a)
    {a' : Ipv6Allocator} {ip : Block 16}
    (halloc : a.allocate picker = (a', some ip)) :
    a'.Sound ∧ Balanced a'.addresses a'.available
      (update (ipv6Lease fun k => m.sessions.lookup k) sessionId (some ⟨ip, sessionId, true⟩))
      fun ip' => (m.ipv6ToSession.insert ip sessionId).lookup ip' := by
  have hbooks := h.ipv6
  rw [ipv6Addresses, ipv6Available, ha] at hbooks
  have hsound := h.ipv6Sound ha
  rcases Ipv6Allocator.allocate_spec hsound picker with hfull | ⟨a'', ip', heq, hsound', haddr, hmem, havail⟩
  · cases hfull.symm.trans halloc
  · obtain ⟨rfl, hip⟩ := Prod.mk.inj (heq.symm.trans halloc)
    cases hip
    have hlease : ipv6Lease (fun k => m.sessions.lookup k) sessionId = none := by
      rw [ipv6Lease, hnone, Option.bind_none]
    refine ⟨hsound', ?_⟩
    rw [haddr, havail, lookup_insert_eq_update]
    exact hbooks.takeListed hlease hmem (hsound.available_subset hmem) sessionId

theorem Books.returnIp (h : m.Books) (halloc : m.ipAllocator.allocate picker = (a, some ip)) :
    (a.release ip).Sound ∧ (a.release ip).NoWrap ∧ (a.release ip).addresses = m.ipAllocator.addresses ∧
      (a.release ip).available = m.ipAllocator.available := by
  rcases allocate_spec h.ipSound picker with hfull | ⟨a', ip', heq, hsound, haddr, hmem, havail⟩
  · cases hfull.symm.trans halloc
  · obtain ⟨rfl, hip⟩ := Prod.mk.inj (heq.symm.trans halloc)
    obtain rfl := Option.some.inj hip
    have hpool : ip' ∈ a'.addresses := haddr ▸ h.ipSound.available_subset hmem
    have hout : ip' ∉ a'.available := fun hin => (havail ▸ hin).2 rfl
    have hwrap := (m.ipAllocator.noWrap_allocate picker).mpr h.ipNoWrap
    rw [heq] at hwrap
    obtain ⟨hsound', havail'⟩ := release_spec hsound hwrap hpool hout
    refine ⟨hsound', (noWrap_release ..).mpr hwrap, (addresses_release ..).trans haddr, ?_⟩
    rw [havail', havail, Set.insert_sdiff_singleton, Set.insert_eq_of_mem hmem]

variable {session : Session}

theorem books_insertSession {ipv6 : Option (Block 16)}
    (clientAddr : SocketAddr) (level : SecurityLevel) (now : UInt64)
    (hnone : m.sessions.lookup session.sessionId = none) (hipSound : m.ipAllocator.Sound)
    (hwrap : m.ipAllocator.NoWrap)
    (hip : Balanced m.ipAllocator.addresses m.ipAllocator.available
      (update (ipLease fun k => m.sessions.lookup k) session.sessionId (some ⟨ip, session.sessionId, true⟩))
      fun ip' => (m.ipToSession.insert ip session.sessionId).lookup ip')
    (hipv6Sound : ∀ {a}, m.ipv6Allocator = some a → a.Sound)
    (hipv6 : Balanced m.ipv6Addresses m.ipv6Available
      (update (ipv6Lease fun k => m.sessions.lookup k) session.sessionId
        (ipv6.map fun ip' => ⟨ip', session.sessionId, true⟩))
      fun ip' => (m.insertSession session clientAddr ip ipv6 level now).ipv6ToSession.lookup ip')
    (hcount : m.sessionCount = m.sessions.keys.length) (hlt : m.sessionCount < m.maxSessions) :
    (m.insertSession session clientAddr ip ipv6 level now).Books where
  ipSound := hipSound
  ipNoWrap := hwrap
  ip := by
    unfold insertSession
    rw [lookup_insert_eq_update, ipLease_update]
    exact hip
  ipv6Sound := hipv6Sound
  ipv6 := by
    unfold insertSession at hipv6 ⊢
    rw [lookup_insert_eq_update, ipv6Lease_update]
    exact hipv6
  count_eq := by
    show m.sessionCount + 1 = _
    rw [hcount]
    exact (keys_length_insert hnone _).symm
  count_le := hlt

theorem Books.createIp (h : m.Books) (hnone : m.sessions.lookup session.sessionId = none)
    (halloc : m.ipAllocator.allocate picker = (a, some ip)) (hlt : m.sessionCount < m.maxSessions)
    (clientAddr : SocketAddr) (level : SecurityLevel) (now : UInt64) :
    (({ m with ipAllocator := a } : SessionManager).insertSession session clientAddr ip none level now).Books := by
  obtain ⟨hsound, hwrap, hbooks⟩ := h.allocateIp hnone halloc
  refine books_insertSession clientAddr level now hnone hsound hwrap hbooks h.ipv6Sound ?_ h.count_eq hlt
  have hlease : ipv6Lease (fun k => m.sessions.lookup k) session.sessionId = none := by
    rw [ipv6Lease, hnone, Option.bind_none]
  rw [Option.map_none, ← hlease, update_eq_self]
  exact h.ipv6

theorem Books.createDualStack (h : m.Books) {pickerV6 : Picker Nat}
    (hnone : m.sessions.lookup session.sessionId = none)
    (halloc : m.ipAllocator.allocate picker = (a, some ip)) {a6 a6' : Ipv6Allocator} {ip6 : Block 16}
    (hv6 : m.ipv6Allocator = some a6) (halloc6 : a6.allocate pickerV6 = (a6', some ip6))
    (hlt : m.sessionCount < m.maxSessions) (clientAddr : SocketAddr) (level : SecurityLevel) (now : UInt64) :
    (({ m with ipAllocator := a, ipv6Allocator := some a6' } : SessionManager).insertSession session clientAddr ip
      (some ip6) level now).Books := by
  obtain ⟨hsound, hwrap, hbooks⟩ := h.allocateIp hnone halloc
  obtain ⟨hsound6, hbooks6⟩ := h.allocateIpv6 hnone hv6 halloc6
  refine books_insertSession clientAddr level now hnone hsound hwrap hbooks ?_ hbooks6 h.count_eq hlt
  intro a ha
  cases ha
  exact hsound6

theorem Books.rollback (h : m.Books) (halloc : m.ipAllocator.allocate picker = (a, some ip)) :
    ({ m with ipAllocator := a.release ip } : SessionManager).Books := by
  obtain ⟨hsound, hwrap, haddr, havail⟩ := h.returnIp halloc
  refine ⟨hsound, hwrap, ?_, h.ipv6Sound, h.ipv6, h.count_eq, h.count_le⟩
  rw [haddr, havail]
  exact h.ip

theorem Books.createSession (h : m.Books) (picker pickerV6 : Picker Nat) (session : Session)
    (clientAddr : SocketAddr) (level : SecurityLevel) (now : UInt64) :
    let r := m.createSessionDualStackWithLevel picker pickerV6 session clientAddr level now
    let removed := (m.removeSession session.sessionId).1
    r.1.Books ∧
      ((∃ e, r.2 = .error e ∧ r.1.sessions = removed.sessions ∧ r.1.sessionCount = removed.sessionCount) ∨
        ∃ ips, r.2 = .ok ips ∧ r.1.sessionCount = removed.sessionCount + 1) := by
  have hremoved := h.removeSession session.sessionId
  have hnone : (m.removeSession session.sessionId).1.sessions.lookup session.sessionId = none := by
    rw [lookup_removeSession, if_pos rfl]
  unfold createSessionDualStackWithLevel
  generalize (m.removeSession session.sessionId).1 = m' at hremoved hnone ⊢
  by_cases hfull : m'.maxSessions ≤ m'.sessionCount
  · rw [if_pos hfull]
    exact ⟨hremoved, .inl ⟨_, rfl, rfl, rfl⟩⟩
  rw [if_neg hfull]
  have hlt := not_le.mp hfull
  rcases hip : m'.ipAllocator.allocate picker with ⟨a, _ | ip⟩
  · obtain rfl := allocate_none hip
    exact ⟨hremoved, .inl ⟨_, rfl, rfl, rfl⟩⟩
  cases hv6 : m'.ipv6Allocator with
  | none =>
    have hbooks := hremoved.createIp hnone hip hlt clientAddr level now
    rw [hv6] at hbooks
    exact ⟨hbooks, .inr ⟨_, rfl, rfl⟩⟩
  | some a6 =>
    dsimp only [Option.map_some]
    rcases hip6 : a6.allocate pickerV6 with ⟨a6', _ | ip6⟩
    · obtain rfl := Ipv6Allocator.allocate_none (hremoved.ipv6Sound hv6) hip6
      have hbooks := hremoved.rollback hip
      rw [hv6] at hbooks
      exact ⟨hbooks, .inl ⟨_, rfl, rfl, rfl⟩⟩
    · exact ⟨hremoved.createDualStack hnone hip hv6 hip6 hlt clientAddr level now, .inr ⟨_, rfl, rfl⟩⟩

theorem Books.onSession (h : m.Books) {β : Type} (sessionId : SessionId)
    {f : ClientSession → ClientSession × β} (absent : β)
    (hf : ∀ c, (f c).1.tunnelIp = c.tunnelIp ∧ (f c).1.tunnelIpv6 = c.tunnelIpv6) :
    (m.onSession sessionId f absent).1.Books := by
  have hlookup : ∀ k, ∃ o : Option ClientSession, m.sessions.lookup k = o ∧
      ((m.onSession sessionId f absent).1.sessions.lookup k = o ∨
        (m.onSession sessionId f absent).1.sessions.lookup k = o.map fun c => (f c).1) := by
    intro k
    refine ⟨_, rfl, ?_⟩
    rw [lookup_onSession]
    split
    · rename_i hk
      exact .inr (by rw [hk])
    · exact .inl rfl
  have hip : ipLease (fun k => (m.onSession sessionId f absent).1.sessions.lookup k) =
      ipLease fun k => m.sessions.lookup k := by
    funext k
    obtain ⟨o, ho, hsame | hnew⟩ := hlookup k
    · rw [ipLease, ipLease, hsame, ho]
    · rw [ipLease, ipLease, hnew, ho, Option.map_map]
      congr 1
      funext c
      rw [comp_apply, leaseOf, leaseOf, (hf c).1]
  have hipv6 : ipv6Lease (fun k => (m.onSession sessionId f absent).1.sessions.lookup k) =
      ipv6Lease fun k => m.sessions.lookup k := by
    funext k
    obtain ⟨o, ho, hsame | hnew⟩ := hlookup k
    · rw [ipv6Lease, ipv6Lease, hsame, ho]
    · rw [ipv6Lease, ipv6Lease, hnew, ho, Option.bind_map]
      congr 1
      funext c
      rw [comp_apply, leaseV6Of, leaseV6Of, (hf c).2]
  exact
    { ipSound := h.ipSound
      ipNoWrap := h.ipNoWrap
      ip := hip ▸ h.ip
      ipv6Sound := h.ipv6Sound
      ipv6 := hipv6 ▸ h.ipv6
      count_eq := h.count_eq.trans (congrArg List.length (keys_onEntry m.sessions sessionId f absent)).symm
      count_le := h.count_le }

/-! ### What a failed creation leaves behind -/

def pools (m : SessionManager) : Set (Block 4) × Set (Block 16) := (m.ipAllocator.addresses, m.ipv6Addresses)

def shape (m : SessionManager) : (Block 4 × Nat) × Option (Block 8 × Block 8 × Nat) × Nat :=
  (m.ipAllocator.shape, m.ipv6Allocator.map (·.shape), m.maxSessions)

theorem shape_removeSession (m : SessionManager) (sessionId : SessionId) :
    (m.removeSession sessionId).1.shape = m.shape := by
  unfold removeSession
  split
  case h_1 => rfl
  case h_2 c hc =>
    refine Prod.ext (shape_release ..) (Prod.ext ?_ rfl)
    rw [shape, shape]
    cases c.tunnelIpv6 with
    | none => rfl
    | some ip =>
      cases m.ipv6Allocator with
      | none => rfl
      | some a => exact congrArg some (a.shape_release ip)

theorem shape_createSession (m : SessionManager) (picker pickerV6 : Picker Nat) (session : Session)
    (clientAddr : SocketAddr) (level : SecurityLevel) (now : UInt64) :
    (m.createSessionDualStackWithLevel picker pickerV6 session clientAddr level now).1.shape = m.shape := by
  rw [← m.shape_removeSession session.sessionId]
  unfold createSessionDualStackWithLevel
  dsimp only
  generalize (m.removeSession session.sessionId).1 = m'
  have hip := m'.ipAllocator.shape_allocate picker
  split
  · rfl
  · split
    · rename_i heq
      rw [heq] at hip
      exact Prod.ext hip rfl
    · rename_i a ip heq
      rw [heq] at hip
      cases hv6 : m'.ipv6Allocator with
      | none =>
        refine Prod.ext hip (Prod.ext (?_ : _ = m'.ipv6Allocator.map (·.shape)) rfl)
        rw [hv6]
        rfl
      | some a6 =>
        have hip6 := a6.shape_allocate pickerV6
        dsimp only [Option.map_some]
        rcases heq6 : a6.allocate pickerV6 with ⟨a6', _ | ip6⟩
        · rw [heq6] at hip6
          refine Prod.ext ((shape_release ..).trans hip)
            (Prod.ext (?_ : _ = m'.ipv6Allocator.map (·.shape)) rfl)
          rw [hv6]
          exact congrArg some hip6
        · rw [heq6] at hip6
          refine Prod.ext hip (Prod.ext (?_ : _ = m'.ipv6Allocator.map (·.shape)) rfl)
          rw [hv6]
          exact congrArg some hip6

variable {m' : SessionManager}

theorem isSome_eq_of_shape (h : m'.shape = m.shape) :
    m'.ipv6Allocator.isSome = m.ipv6Allocator.isSome := by
  have hshape := congrArg (fun s => s.2.1.isSome) h
  simpa [shape] using hshape

theorem isSome_of_createSession {pickerV6 : Picker Nat} {clientAddr : SocketAddr} {level : SecurityLevel} {now : UInt64}
    {ipv6 : Option (Block 16)}
    (h : (m.createSessionDualStackWithLevel picker pickerV6 session clientAddr level now).2 = .ok (ip, ipv6)) :
    ipv6.isSome = m.ipv6Allocator.isSome := by
  rw [← isSome_eq_of_shape (m.shape_removeSession session.sessionId)]
  unfold createSessionDualStackWithLevel at h
  dsimp only at h
  split at h
  case isTrue => cases h
  case isFalse =>
    split at h
    case h_1 => cases h
    case h_2 =>
      split at h
      case h_1 => cases h
      case h_2 allocator address hv6 =>
        cases h
        obtain ⟨a, ha, -⟩ := Option.map_eq_some_iff.mp hv6
        rw [ha]
        rfl
      case h_3 hv6 =>
        cases h
        rw [Option.map_eq_none_iff.mp hv6]
        rfl

theorem pools_eq_of_shape (h : m'.shape = m.shape) : m'.pools = m.pools := by
  obtain ⟨hip, hrest⟩ := Prod.mk.inj h
  have hipv6 := (Prod.mk.inj hrest).1
  refine Prod.ext (addresses_eq_of_shape hip) ?_
  rw [pools, pools, ipv6Addresses, ipv6Addresses]
  cases ha : m.ipv6Allocator <;> cases ha' : m'.ipv6Allocator <;> rw [ha, ha'] at hipv6
  case some.some a a' => exact Ipv6Allocator.addresses_eq_of_shape (Option.some.inj hipv6)
  all_goals cases hipv6

theorem Books.available_eq (h : m.Books) (h' : m'.Books) (hpools : m'.pools = m.pools)
    (hsessions : ∀ k, m'.sessions.lookup k = m.sessions.lookup k) :
    m'.ipAllocator.available = m.ipAllocator.available ∧ m'.ipv6Available = m.ipv6Available := by
  obtain ⟨hip, hipv6⟩ := Prod.mk.inj hpools
  have hsame : (fun k => m'.sessions.lookup k) = fun k => m.sessions.lookup k := funext hsessions
  constructor
  · ext ip
    rw [h.ip.mem_free_iff h.ipSound.available_subset, h'.ip.mem_free_iff h'.ipSound.available_subset, hip, hsame]
  · ext ip
    rw [h.ipv6.mem_free_iff h.ipv6Available_subset, h'.ipv6.mem_free_iff h'.ipv6Available_subset, hipv6, hsame]

/-! ### Runs -/

theorem removeSession_count (m : SessionManager) (sessionId : SessionId) (h : m.Books) :
    (m.removeSession sessionId).1.sessionCount + (m.removeEvents sessionId).countP (·.isRemoved) = m.sessionCount := by
  have hcount := h.count_eq
  unfold removeSession removeEvents
  split
  case h_1 hnone =>
    rw [hnone]
    rfl
  case h_2 c hc =>
    rw [hc]
    have := keys_length_erase hc
    show m.sessionCount - 1 + 1 = m.sessionCount
    omega

end SessionManager

inductive LifecycleOp
  | create (picker pickerV6 : Picker Nat) (session : Session) (clientAddr : SocketAddr) (level : SecurityLevel)
      (now : UInt64)
  | remove (sessionId : SessionId)
  | cleanupExpired (now : UInt64)
  | updateClientAddr (sessionId : SessionId) (newAddr : SocketAddr)

structure LifecycleRun where
  manager : SessionManager
  events : List SessionLifecycleEvent

namespace LifecycleRun

def remove (r : LifecycleRun) (sessionId : SessionId) : LifecycleRun where
  manager := (r.manager.removeSession sessionId).1
  events := r.events ++ r.manager.removeEvents sessionId

def step (r : LifecycleRun) : LifecycleOp → LifecycleRun
  | .create picker pickerV6 session clientAddr level now =>
    { manager :=
        (r.manager.createSessionDualStackWithLevel picker pickerV6 session clientAddr level now).1
      events := r.events ++ r.manager.createEvents picker pickerV6 session clientAddr level now }
  | .remove sessionId => r.remove sessionId
  | .cleanupExpired now => (r.manager.cleanupExpired now).2.foldl remove r
  | .updateClientAddr sessionId newAddr => { r with manager := r.manager.updateClientAddr sessionId newAddr }

structure Sound (r : LifecycleRun) : Prop where
  books : r.manager.Books
  events : r.events.countP (·.isCreated) = r.events.countP (·.isRemoved) + r.manager.sessionCount

theorem countP_isCreated_removeEvents (m : SessionManager) (sessionId : SessionId) :
    (m.removeEvents sessionId).countP (·.isCreated) = 0 := by
  unfold SessionManager.removeEvents
  split
  · rfl
  · rfl

theorem Sound.remove {r : LifecycleRun} (h : r.Sound) (sessionId : SessionId) : (r.remove sessionId).Sound where
  books := h.books.removeSession sessionId
  events := by
    have hcount := r.manager.removeSession_count sessionId h.books
    have hevents := h.events
    rw [LifecycleRun.remove, List.countP_append, List.countP_append, countP_isCreated_removeEvents]
    dsimp only
    omega

theorem Sound.create {r : LifecycleRun} (h : r.Sound) (picker pickerV6 : Picker Nat) (session : Session)
    (clientAddr : SocketAddr) (level : SecurityLevel) (now : UInt64) :
    (r.step (.create picker pickerV6 session clientAddr level now)).Sound := by
  obtain ⟨hbooks, houtcome⟩ := h.books.createSession picker pickerV6 session clientAddr level now
  refine ⟨hbooks, ?_⟩
  have hcount := r.manager.removeSession_count session.sessionId h.books
  have hevents := h.events
  have hnone := countP_isCreated_removeEvents r.manager session.sessionId
  rw [step, SessionManager.createEvents]
  simp only [List.countP_append]
  rcases houtcome with ⟨e, herr, -, hsame⟩ | ⟨ips, hok, hmore⟩
  · rw [herr, hsame, List.countP_nil, List.countP_nil]
    omega
  · rw [hok, hmore]
    show _ + (_ + 1) = _ + (_ + 0) + _
    omega

theorem Sound.step (r : LifecycleRun) (op : LifecycleOp) (h : r.Sound) : (r.step op).Sound := by
  cases op with
  | create picker pickerV6 session clientAddr level now =>
    exact h.create picker pickerV6 session clientAddr level now
  | remove sessionId => exact h.remove sessionId
  | cleanupExpired now =>
    rw [LifecycleRun.step]
    generalize (r.manager.cleanupExpired now).2 = expired
    induction expired generalizing r with
    | nil => exact h
    | cons sessionId expired ih => exact ih (r.remove sessionId) (h.remove sessionId)
  | updateClientAddr sessionId newAddr =>
    exact ⟨h.books.onSession sessionId () fun _ => ⟨rfl, rfl⟩, h.events⟩

end LifecycleRun

namespace SessionManager

/-- A manager as the server makes it, with this IPv4 network. -/
inductive IsNew (base : Block 4) (prefixLen : UInt8) : SessionManager → Prop
  | ipv4 (serverIp : Block 4) (sessionTimeout maxSessions : Nat) (pps : UInt32) (bps : UInt64) :
      IsNew base prefixLen ((new base prefixLen serverIp sessionTimeout maxSessions).withRateLimits pps bps)
  | dualStack (serverIp : Block 4) (baseIpv6High baseIpv6Low : Block 8) (prefixV6 : UInt8)
      (serverIpv6 : Block 16) (sessionTimeout maxSessions : Nat) (pps : UInt32) (bps : UInt64) :
      IsNew base prefixLen ((newDualStack base prefixLen serverIp baseIpv6High baseIpv6Low prefixV6 serverIpv6
        sessionTimeout maxSessions).withRateLimits pps bps)

/-- A manager without sessions, whose pools have handed out nothing. -/
structure Fresh (m : SessionManager) : Prop where
  sessions : m.sessions = ∅
  ipToSession : m.ipToSession = ∅
  ipv6ToSession : m.ipv6ToSession = ∅
  count : m.sessionCount = 0
  pool : m.ipAllocator.pool = .new m.ipAllocator.pool.maxOffset
  poolV6 : ∀ {a}, m.ipv6Allocator = some a → a.pool = .new a.pool.maxOffset

variable {m : SessionManager}

theorem IsNew.fresh {base : Block 4} {prefixLen : UInt8} (h : IsNew base prefixLen m) : m.Fresh := by
  cases h with
  | ipv4 => exact ⟨rfl, rfl, rfl, rfl, rfl, nofun⟩
  | dualStack =>
    refine ⟨rfl, rfl, rfl, rfl, rfl, ?_⟩
    intro a ha
    cases ha
    rfl

theorem Fresh.books (h : m.Fresh) (hmax : m.ipAllocator.pool.maxOffset < 2 ^ 32)
    (hwrap : m.ipAllocator.NoWrap) : m.Books := by
  have havail : m.ipAllocator.available = m.ipAllocator.addresses := by
    rw [IpAllocator.available, h.pool]
    exact OffsetPool.available_new _
  have havailV6 : m.ipv6Available = m.ipv6Addresses := by
    unfold ipv6Available ipv6Addresses
    cases ha : m.ipv6Allocator with
    | none => rfl
    | some a =>
      dsimp only
      rw [Ipv6Allocator.available, h.poolV6 ha]
      exact OffsetPool.available_new _
  refine ⟨?_, hwrap, ?_, ?_, ?_, ?_, ?_⟩
  · have hsound := sound_mk m.ipAllocator.base m.ipAllocator.prefixLen hmax
    rwa [← h.pool] at hsound
  · rw [havail, h.sessions, h.ipToSession]
    exact balanced_empty _
  · intro a ha
    have hsound := Ipv6Allocator.sound_mk a.baseHigh a.baseLow a.prefixLen a.pool.maxOffset
    rwa [← h.poolV6 ha] at hsound
  · rw [havailV6, h.sessions, h.ipv6ToSession]
    exact balanced_empty _
  · rw [h.count, h.sessions]
    rfl
  · rw [h.count]
    exact Nat.zero_le _

theorem IsNew.books {base : Block 4} {prefixLen : UInt8} (h : IsNew base prefixLen m)
    (hwrap : (IpAllocator.new base prefixLen).NoWrap) : m.Books := by
  have hpool : m.ipAllocator = IpAllocator.new base prefixLen := by
    cases h with
    | ipv4 => rfl
    | dualStack => rfl
  exact h.fresh.books (hpool ▸ maxOffset_lt base prefixLen) (hpool ▸ hwrap)

/-- The count, the reverse maps and the pools agree with the session table. -/
structure Coherent (m : SessionManager) : Prop where
  count_eq : m.sessionCount = m.sessions.keys.length
  count_le : m.sessionCount ≤ m.maxSessions
  ip_map : ∀ ip sessionId, m.ipToSession.lookup ip = some sessionId ↔
    ∃ c, m.sessions.lookup sessionId = some c ∧ c.tunnelIp = ip
  ipv6_map : ∀ ip sessionId, m.ipv6ToSession.lookup ip = some sessionId ↔
    ∃ c, m.sessions.lookup sessionId = some c ∧ c.tunnelIpv6 = some ip
  ip_unshared : ∀ k k' c c', m.sessions.lookup k = some c → m.sessions.lookup k' = some c' →
    c.tunnelIp = c'.tunnelIp → k = k'
  ipv6_unshared : ∀ k k' c c' ip, m.sessions.lookup k = some c → m.sessions.lookup k' = some c' →
    c.tunnelIpv6 = some ip → c'.tunnelIpv6 = some ip → k = k'
  ip_pool : ∀ o, 2 ≤ o → o < m.ipAllocator.pool.nextOffset →
    Xor (∃! k, ∃ c, m.sessions.lookup k = some c ∧ c.tunnelIp = m.ipAllocator.offsetToIp o)
      (o ∈ m.ipAllocator.pool.released)
  ipv6_pool : ∀ a, m.ipv6Allocator = some a → ∀ o, 2 ≤ o → o < a.pool.nextOffset →
    ∃ ip, a.offsetToIp o = some ip ∧
      Xor (∃! k, ∃ c, m.sessions.lookup k = some c ∧ c.tunnelIpv6 = some ip) (o ∈ a.pool.released)

theorem ipLease_iff {sessions : SessionId → Option ClientSession} {k : SessionId} {ip : Block 4} :
    (∃ l, ipLease sessions k = some l ∧ l.addr = ip) ↔ ∃ c, sessions k = some c ∧ c.tunnelIp = ip := by
  simp only [ipLease, Option.map_eq_some_iff, exists_exists_and_eq_and, leaseOf]

theorem ipv6Lease_iff {sessions : SessionId → Option ClientSession} {k : SessionId} {ip : Block 16} :
    (∃ l, ipv6Lease sessions k = some l ∧ l.addr = ip) ↔ ∃ c, sessions k = some c ∧ c.tunnelIpv6 = some ip := by
  constructor
  · rintro ⟨l, hl, rfl⟩
    obtain ⟨c, hc, hl⟩ := Option.bind_eq_some_iff.mp hl
    obtain ⟨ip, hip, rfl⟩ := Option.map_eq_some_iff.mp hl
    exact ⟨c, hc, hip⟩
  · rintro ⟨c, hc, hip⟩
    refine ⟨⟨ip, k, true⟩, ?_, rfl⟩
    rw [ipv6Lease, hc, Option.bind_some, leaseV6Of, hip]
    rfl

theorem ipLease_own {sessions : SessionId → Option ClientSession} {k : SessionId} {l : Lease (Block 4) SessionId}
    (h : ipLease sessions k = some l) : l.owner = k ∧ l.listed = true := by
  obtain ⟨c, -, rfl⟩ := Option.map_eq_some_iff.mp h
  exact ⟨rfl, rfl⟩

theorem ipv6Lease_own {sessions : SessionId → Option ClientSession} {k : SessionId}
    {l : Lease (Block 16) SessionId} (h : ipv6Lease sessions k = some l) : l.owner = k ∧ l.listed = true := by
  obtain ⟨c, -, hl⟩ := Option.bind_eq_some_iff.mp h
  obtain ⟨ip, -, rfl⟩ := Option.map_eq_some_iff.mp hl
  exact ⟨rfl, rfl⟩

theorem Books.coherent (h : m.Books) : m.Coherent := by
  have hmap : ∀ ip k, m.ipToSession.lookup ip = some k ↔ ∃ c, m.sessions.lookup k = some c ∧ c.tunnelIp = ip :=
    fun ip k => (h.ip.index_iff_lease ipLease_own).trans ipLease_iff
  have hmapV6 : ∀ ip k, m.ipv6ToSession.lookup ip = some k ↔
      ∃ c, m.sessions.lookup k = some c ∧ c.tunnelIpv6 = some ip :=
    fun ip k => (h.ipv6.index_iff_lease ipv6Lease_own).trans ipv6Lease_iff
  refine ⟨h.count_eq, h.count_le, hmap, hmapV6, ?_, ?_, ?_, ?_⟩
  · intro k k' c c' hc hc' hsame
    have hk := (hmap c.tunnelIp k).mpr ⟨c, hc, rfl⟩
    have hk' := (hmap c.tunnelIp k').mpr ⟨c', hc', hsame.symm⟩
    exact Option.some.inj (hk.symm.trans hk')
  · intro k k' c c' ip hc hc' hip hip'
    have hk := (hmapV6 ip k).mpr ⟨c, hc, hip⟩
    have hk' := (hmapV6 ip k').mpr ⟨c', hc', hip'⟩
    exact Option.some.inj (hk.symm.trans hk')
  · intro o hle hlt
    have hpool : m.ipAllocator.offsetToIp o ∈ m.ipAllocator.addresses :=
      ⟨o, hle, (h.ipSound.handed hle hlt).1, rfl⟩
    have hxor := h.ip.leased_xor_free hpool
    simp only [ipLease_iff] at hxor
    rwa [IpAllocator.available, h.ipSound.mem_available_iff hle hlt rfl] at hxor
  · intro a ha o hle hlt
    have hsound := h.ipv6Sound ha
    have hbooks := h.ipv6
    rw [ipv6Addresses, ipv6Available, ha] at hbooks
    obtain ⟨hmax, hsome⟩ := hsound.handed hle hlt
    obtain ⟨ip, hip⟩ := Option.isSome_iff_exists.mp hsome
    have hxor := hbooks.leased_xor_free (a := ip) ⟨o, hle, hmax, hip⟩
    simp only [ipv6Lease_iff] at hxor
    rw [Ipv6Allocator.available, hsound.mem_available_iff hle hlt hip] at hxor
    exact ⟨ip, hip, hxor⟩

/-- After any operations all parts of the manager agree and the events account for the sessions; a creation that fails
changes nothing. -/
theorem lifecycle_coherent (base : Block 4) (prefixLen : UInt8) (hnet : IpAllocator.ValidNetwork base prefixLen)
    (m : SessionManager) (hnew : IsNew base prefixLen m) (ops : List LifecycleOp) :
    let r := exec LifecycleRun.step ⟨m, []⟩ ops
    r.manager.Coherent ∧
      (r.events.countP (·.isCreated) : ℤ) - r.events.countP (·.isRemoved) = r.manager.sessionCount ∧
      ∀ picker pickerV6 session clientAddr level now m' e,
        r.manager.sessions.lookup session.sessionId = none →
        r.manager.createSessionDualStackWithLevel picker pickerV6 session clientAddr level now = (m', .error e) →
        m'.sessions = r.manager.sessions ∧ m'.ipAllocator.available = r.manager.ipAllocator.available ∧
          m'.ipv6Available = r.manager.ipv6Available := by
  intro r
  have hsound : r.Sound := by
    refine exec_invariant LifecycleRun.Sound.step ops ⟨m, []⟩ ⟨hnew.books hnet.noWrap, ?_⟩
    cases hnew with
    | ipv4 => rfl
    | dualStack => rfl
  refine ⟨hsound.books.coherent, ?_, ?_⟩
  · have := hsound.events
    omega
  · intro picker pickerV6 session clientAddr level now m' e hfresh hfails
    obtain ⟨hbooks, houtcome⟩ := hsound.books.createSession picker pickerV6 session clientAddr level now
    have hpools := SessionManager.pools_eq_of_shape
      (r.manager.shape_createSession picker pickerV6 session clientAddr level now)
    rw [hfails] at hbooks houtcome hpools
    have hsame : m'.sessions = r.manager.sessions := by
      rcases houtcome with ⟨-, -, hsame, -⟩ | ⟨ips, hok, -⟩
      · rwa [removeSession, hfresh] at hsame
      · cases hok
    exact ⟨hsame, hsound.books.available_eq hbooks hpools fun k => congrArg (AList.lookup k) hsame⟩

end SessionManager

namespace LifecycleSample

def keys : SessionKeys :=
  ⟨Block.replicate 32 1, Block.replicate 32 2, Block.replicate 4 3, Block.replicate 4 4⟩

def addr : SocketAddr := .v4 (Block.replicate 4 9) 4433

def small : SessionManager :=
  (SessionManager.new (ipv4 10 0 0 0) 30 (ipv4 10 0 0 1) 60000 10).withRateLimits 0 0

def create (sessionId : SessionId) : LifecycleOp := .create .least .least (.new sessionId keys 0) addr .level3 0

theorem lifecycle_coherent_small :
    let r := exec LifecycleRun.step ⟨small, []⟩ [create 7, create 7]
    r.manager.Coherent ∧ r.events = [.created 7, .removed 7, .created 7] ∧
      (r.manager.createSessionDualStackWithLevel .least .least (.new 8 keys 0) addr .level3 0).1.sessions =
        r.manager.sessions := by
  have hnet : IpAllocator.ValidNetwork ⟨[10, 0, 0, 0], rfl⟩ 30 := ⟨by decide, by decide, by decide⟩
  obtain ⟨hcoherent, -, hfails⟩ := SessionManager.lifecycle_coherent _ 30 hnet small
    (.ipv4 ⟨[10, 0, 0, 1], rfl⟩ 60000 10 0 0) [create 7, create 7]
  refine ⟨hcoherent, by decide +kernel, ?_⟩
  refine (hfails .least .least (.new 8 keys 0) addr .level3 0 _ (.ipAllocation "no IPv4 addresses available")
    (by decide +kernel) (Prod.ext rfl (by decide +kernel))).1

end LifecycleSample

end HpnVpn
