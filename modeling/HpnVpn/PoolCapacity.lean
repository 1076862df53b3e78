import HpnVpn.SessionLifecycle
import Mathlib.Combinatorics.Enumerative.DoubleCounting
import Mathlib.Order.Interval.Finset.Nat

/-! How far into its pools a session manager gets.  Released offsets are used first, so a manager runs as one whose
pools end at the number of sessions; the IPv4 pool gets one further, because it is asked first. -/
namespace HpnVpn
open Wire Tables Leases Runs Ipv6Allocator IpAllocator

/-! ### Counting -/

theorem OffsetPool.Sound.card_holders {α ι H : Type} {toIp : Nat → Option α} {toOffset : α → Option Nat}
    {p : OffsetPool} (h : p.Sound toIp toOffset) {lease : H → Option (Lease α ι)} {index : α → Option ι}
    (hbooks : Balanced (p.addresses toIp) (p.available toIp) lease index) (holders : Finset H)
    (hholders : ∀ x, x ∈ holders ↔ ∃ l, lease x = some l) :
    holders.card + p.released.card + 2 = p.nextOffset := by
  let leased := Finset.Ico 2 p.nextOffset \ p.released
  let holds (x : H) (o : Nat) : Prop := ∃ l, lease x = some l ∧ toIp o = some l.addr
  have hreleased : p.released ⊆ Finset.Ico 2 p.nextOffset :=
    fun o ho => Finset.mem_Ico.mpr (h.released ho)
  have hmem : ∀ o, o ∈ leased ↔ (2 ≤ o ∧ o < p.nextOffset) ∧ o ∉ p.released := by
    intro o
    rw [Finset.mem_sdiff, Finset.mem_Ico]
  have hle : holders.card ≤ leased.card := by
    refine Finset.card_le_card_of_forall_subsingleton holds ?_ ?_
    · intro x hx
      obtain ⟨l, hl⟩ := (hholders x).mp hx
      obtain ⟨o, h2, hmax, ho⟩ := hbooks.in_pool hl
      have hfree := hbooks.not_free hl
      have hlt : o < p.nextOffset := by
        by_contra hge
        exact hfree ⟨o, .inr ⟨not_lt.mp hge, hmax⟩, ho⟩
      exact ⟨o, (hmem o).mpr ⟨⟨h2, hlt⟩, fun hr => hfree ⟨o, .inl hr, ho⟩⟩, l, hl, ho⟩
    · rintro o - x ⟨-, l, hl, ho⟩ y ⟨-, k, hk, ho'⟩
      exact hbooks.exclusive hl hk (Option.some.inj (ho.symm.trans ho'))
  have hge : leased.card ≤ holders.card := by
    refine Finset.card_le_card_of_forall_subsingleton' holds ?_ ?_
    · intro o ho
      obtain ⟨⟨h2, hlt⟩, hnot⟩ := (hmem o).mp ho
      obtain ⟨hmax, hsome⟩ := h.handed h2 hlt
      obtain ⟨a, ha⟩ := Option.isSome_iff_exists.mp hsome
      have hfree : a ∉ p.available toIp := fun hfree => hnot ((h.mem_available_iff h2 hlt ha).mp hfree)
      obtain ⟨x, l, hl, rfl⟩ := hbooks.covered ⟨o, h2, hmax, ha⟩ hfree
      exact ⟨x, (hholders x).mpr ⟨l, hl⟩, l, hl, ha⟩
    · rintro x - o ⟨ho, l, hl, ha⟩ o' ⟨ho', k, hk, ha'⟩
      cases hl.symm.trans hk
      obtain ⟨⟨h2, hlt⟩, -⟩ := (hmem o).mp ho
      obtain ⟨⟨h2', hlt'⟩, -⟩ := (hmem o').mp ho'
      exact h.eq_of_toIp (h.handed h2 hlt).1 (h.handed h2' hlt').1 ha ha'
  have hcard : leased.card = p.nextOffset - 2 - p.released.card := by
    rw [Finset.card_sdiff_of_subset hreleased, Nat.card_Ico]
  have hsub := Finset.card_le_card hreleased
  rw [Nat.card_Ico] at hsub
  have := h.two_le
  omega

theorem OffsetPool.Sound.nextOffset_le {α : Type} {toIp : Nat → Option α} {toOffset : α → Option Nat}
    {p : OffsetPool} (h : p.Sound toIp toOffset) (hone : 1 ≤ p.maxOffset) : p.nextOffset ≤ p.maxOffset + 1 := by
  by_contra hgt
  have := (@handed _ _ _ _ h (p.nextOffset - 1) (by omega) (by omega)).1
  omega

/-! ### Pools that end earlier -/

namespace IpAllocator

def room (a : IpAllocator) : Nat := a.pool.maxOffset - 1

def capped (limit : Nat) (a : IpAllocator) : IpAllocator := { a with pool := { a.pool with maxOffset := limit } }

variable {a : IpAllocator} {limit : Nat}

theorem allocate_of_empty {picker : Picker Nat} (hpick : picker.pick a.pool.released = none) :
    (a.pool.nextOffset ≤ a.pool.maxOffset →
        a.allocate picker = ({ a with pool := { a.pool with nextOffset := a.pool.nextOffset + 1 } },
          some (a.offsetToIp a.pool.nextOffset))) ∧
      (¬a.pool.nextOffset ≤ a.pool.maxOffset → a.allocate picker = (a, none)) := by
  rw [allocate, hpick]
  exact ⟨fun hle => if_pos hle, fun hfull => if_neg hfull⟩

theorem allocate_capped (picker : Picker Nat)
    (h : a.pool.released = ∅ → (a.pool.nextOffset ≤ a.pool.maxOffset ↔ a.pool.nextOffset ≤ limit)) :
    (a.capped limit).allocate picker = ((a.allocate picker).1.capped limit, (a.allocate picker).2) := by
  cases hpick : picker.pick a.pool.released with
  | some o =>
    unfold allocate
    rw [hpick, show picker.pick (a.capped limit).pool.released = some o from hpick]
    rfl
  | none =>
    have hiff := h (picker.pick_none hpick)
    obtain ⟨hgive, hnone⟩ := allocate_of_empty hpick
    obtain ⟨hgive', hnone'⟩ := @allocate_of_empty (a.capped limit) picker hpick
    by_cases hle : a.pool.nextOffset ≤ a.pool.maxOffset
    · rw [hgive hle, hgive' (hiff.mp hle)]
      rfl
    · rw [hnone hle, hnone' (fun hlimit => hle (hiff.mpr hlimit))]

theorem release_offsetToIp {o : Nat} (h2 : 2 ≤ o) (hle : o ≤ a.pool.maxOffset)
    (hfits : (ofBe32 a.base).toNat + o < 2 ^ 32) :
    a.release (a.offsetToIp o) = { a with pool := { a.pool with released := insert o a.pool.released } } := by
  rw [release, ipToOffset_offsetToIp a (by omega), if_pos hfits]
  dsimp only
  rw [OffsetPool.release, if_pos ⟨h2, hle⟩]

theorem release_capped (hlimit : limit ≤ max a.pool.maxOffset 1) (hwrap : (a.capped limit).NoWrap) {ip : Block 4}
    (hip : ip ∈ (a.capped limit).addresses) : (a.capped limit).release ip = (a.release ip).capped limit := by
  obtain ⟨o, h2, hle, ho⟩ := hip
  cases ho
  have hle : o ≤ limit := hle
  have hwrap : (ofBe32 a.base).toNat + limit < 2 ^ 32 := hwrap
  have hfits : (ofBe32 a.base).toNat + o < 2 ^ 32 := by omega
  have hcapped : (a.capped limit).release ((a.capped limit).offsetToIp o) = _ := release_offsetToIp h2 hle hfits
  have hreal : a.release ((a.capped limit).offsetToIp o) = _ :=
    release_offsetToIp h2 (show o ≤ a.pool.maxOffset by omega) hfits
  rw [hcapped, hreal]
  rfl

end IpAllocator

namespace Ipv6Allocator

def room (a : Ipv6Allocator) : Nat := min a.pool.maxOffset (2 ^ 64 - 1 - ofBE a.baseLow.bytes) - 1

def capped (limit : Nat) (a : Ipv6Allocator) : Ipv6Allocator :=
  { a with pool := { a.pool with maxOffset := limit } }

variable {a : Ipv6Allocator} {limit : Nat}

theorem offsetToIp_isSome {o : Nat} : (∃ ip, a.offsetToIp o = some ip) ↔ ofBE a.baseLow.bytes + o < 2 ^ 64 := by
  unfold offsetToIp
  split
  · next h => exact iff_of_true ⟨_, rfl⟩ h
  · next h => exact iff_of_false nofun h

theorem le_room {o : Nat} (h2 : 2 ≤ o) : o ≤ a.pool.maxOffset ∧ ofBE a.baseLow.bytes + o < 2 ^ 64 ↔ o ≤ a.room + 1 := by
  unfold room
  omega

theorem allocate_of_empty {picker : Picker Nat} (hpick : picker.pick a.pool.released = none)
    (h2 : 2 ≤ a.pool.nextOffset) :
    (a.pool.nextOffset ≤ a.room + 1 → ∃ ip, a.offsetToIp a.pool.nextOffset = some ip ∧
        a.allocate picker = ({ a with pool := { a.pool with nextOffset := a.pool.nextOffset + 1 } }, some ip)) ∧
      (¬a.pool.nextOffset ≤ a.room + 1 → a.allocate picker = (a, none)) := by
  constructor
  · intro hroom
    obtain ⟨hmax, hfits⟩ := (le_room h2).mpr hroom
    obtain ⟨ip, hip⟩ := offsetToIp_isSome.mpr hfits
    refine ⟨ip, hip, ?_⟩
    rw [allocate, hpick]
    rw [if_pos hmax, hip]
  · intro hfull
    rw [allocate, hpick]
    by_cases hmax : a.pool.nextOffset ≤ a.pool.maxOffset
    · cases hip : a.offsetToIp a.pool.nextOffset with
      | none => rw [if_pos hmax]
      | some ip => exact absurd ((le_room h2).mp ⟨hmax, offsetToIp_isSome.mp ⟨ip, hip⟩⟩) hfull
    · rw [if_neg hmax]

theorem allocate_capped (picker : Picker Nat) (h2 : 2 ≤ a.pool.nextOffset)
    (h : a.pool.released = ∅ → (a.pool.nextOffset ≤ a.room + 1 ↔ a.pool.nextOffset ≤ (a.capped limit).room + 1)) :
    (a.capped limit).allocate picker = ((a.allocate picker).1.capped limit, (a.allocate picker).2) := by
  cases hpick : picker.pick a.pool.released with
  | some o =>
    unfold allocate
    rw [hpick, show picker.pick (a.capped limit).pool.released = some o from hpick]
    rfl
  | none =>
    have hiff := h (picker.pick_none hpick)
    obtain ⟨hgive, hnone⟩ := allocate_of_empty hpick h2
    obtain ⟨hgive', hnone'⟩ := @allocate_of_empty (a.capped limit) picker hpick h2
    by_cases hroom : a.pool.nextOffset ≤ a.room + 1
    · obtain ⟨ip, hip, heq⟩ := hgive hroom
      obtain ⟨ip', hip', heq'⟩ := hgive' (hiff.mp hroom)
      cases hip.symm.trans hip'
      rw [heq, heq']
      rfl
    · rw [hnone hroom, hnone' (fun hle => hroom (hiff.mpr hle))]

theorem release_of_offsetToIp {o : Nat} (h2 : 2 ≤ o) (hle : o ≤ a.pool.maxOffset) {ip : Block 16}
    (hip : a.offsetToIp o = some ip) :
    a.release ip = { a with pool := { a.pool with released := insert o a.pool.released } } := by
  rw [release, ipToOffset_offsetToIp hip]
  dsimp only
  rw [OffsetPool.release, if_pos ⟨h2, hle⟩]

theorem release_capped (hlimit : limit ≤ max a.pool.maxOffset 1) {ip : Block 16}
    (hip : ip ∈ (a.capped limit).addresses) : (a.capped limit).release ip = (a.release ip).capped limit := by
  obtain ⟨o, h2, hle, ho⟩ := hip
  have hle : o ≤ limit := hle
  rw [release_of_offsetToIp h2 hle ho, @release_of_offsetToIp a o h2 (by omega) ip ho]
  rfl

end Ipv6Allocator

namespace SessionManager

def capacity (m : SessionManager) : Nat :=
  match m.ipv6Allocator with
  | none => min m.maxSessions m.ipAllocator.room
  | some a => min (min m.maxSessions m.ipAllocator.room) a.room

def reach (m : SessionManager) : Nat :=
  match m.ipv6Allocator with
  | none => min m.maxSessions m.ipAllocator.room
  | some a => min (min m.maxSessions m.ipAllocator.room) (a.room + 1)

variable {m' : SessionManager}

theorem capacity_eq_of_shape {m : SessionManager} (h : m'.shape = m.shape) :
    m'.capacity = m.capacity ∧ m'.reach = m.reach := by
  obtain ⟨hip, hrest⟩ := Prod.mk.inj h
  obtain ⟨hipv6, hmax⟩ := Prod.mk.inj hrest
  have hroom : m'.ipAllocator.room = m.ipAllocator.room := congrArg (fun x => x.2 - 1) hip
  unfold capacity reach
  rw [hmax, hroom]
  cases ha : m.ipv6Allocator <;> cases ha' : m'.ipv6Allocator <;> rw [ha, ha'] at hipv6
  case none.none => exact ⟨rfl, rfl⟩
  case some.some a a' =>
    have hroomV6 : a'.room = a.room :=
      congrArg (fun x : Block 8 × Block 8 × Nat => min x.2.2 (2 ^ 64 - 1 - ofBE x.2.1.bytes) - 1)
        (Option.some.inj hipv6)
    dsimp only
    rw [hroomV6]
    exact ⟨rfl, rfl⟩
  all_goals cases hipv6

theorem capacity_le (m : SessionManager) :
    m.capacity ≤ m.maxSessions ∧ m.capacity ≤ m.reach ∧ m.reach ≤ m.capacity + 1 ∧ m.reach ≤ m.ipAllocator.room := by
  unfold capacity reach
  cases m.ipv6Allocator with
  | none => dsimp only; omega
  | some a => dsimp only; omega

variable {a : Ipv6Allocator}

theorem capacity_le_room {m : SessionManager} (ha : m.ipv6Allocator = some a) : m.capacity ≤ a.room := by
  unfold capacity
  rw [ha]
  exact min_le_right _ _

def cappedAt (limit limitV6 : Nat) (m : SessionManager) : SessionManager :=
  { m with ipAllocator := m.ipAllocator.capped limit, ipv6Allocator := m.ipv6Allocator.map (·.capped limitV6) }

def capped (m : SessionManager) : SessionManager := m.cappedAt (m.reach + 1) (m.capacity + 1)

theorem capped_eq_of_shape {m : SessionManager} (h : m'.shape = m.shape) :
    m'.capped = m'.cappedAt (m.reach + 1) (m.capacity + 1) := by
  obtain ⟨hcapacity, hreach⟩ := capacity_eq_of_shape h
  rw [capped, hcapacity, hreach]

/-- The books of the manager balance in the part of the pools it uses; with an IPv6 pool every session has
an address of it. -/
structure Within (m : SessionManager) : Prop where
  books : m.capped.Books
  dual : ∀ {k c}, m.sessions.lookup k = some c → c.tunnelIpv6.isSome = m.ipv6Allocator.isSome

variable {m : SessionManager}

theorem card_sessions (h : m.Books) : m.sessions.keys.toFinset.card = m.sessionCount := by
  rw [List.toFinset_card_of_nodup m.sessions.keys_nodup, h.count_eq]

theorem mem_keys_iff {k : SessionId} : k ∈ m.sessions.keys.toFinset ↔ ∃ c, m.sessions.lookup k = some c := by
  rw [List.mem_toFinset, ← AList.mem_keys, ← AList.lookup_isSome, Option.isSome_iff_exists]

namespace Within

theorem card_ip (h : m.Within) :
    m.sessionCount + m.ipAllocator.pool.released.card + 2 = m.ipAllocator.pool.nextOffset := by
  have hcard := OffsetPool.Sound.card_holders h.books.ipSound h.books.ip m.sessions.keys.toFinset (by
    intro k
    rw [mem_keys_iff]
    simp only [ipLease, Option.map_eq_some_iff]
    constructor
    · rintro ⟨c, hc⟩
      exact ⟨_, c, hc, rfl⟩
    · rintro ⟨_, c, hc, -⟩
      exact ⟨c, hc⟩)
  have hcount := card_sessions h.books
  exact hcount ▸ hcard

theorem card_ipv6 (h : m.Within) {a : Ipv6Allocator} (ha : m.ipv6Allocator = some a) :
    m.sessionCount + a.pool.released.card + 2 = a.pool.nextOffset := by
  have hcapped : m.capped.ipv6Allocator = some (a.capped (m.capacity + 1)) := congrArg (Option.map _) ha
  have hbooks := h.books.ipv6
  rw [ipv6Addresses, ipv6Available, hcapped] at hbooks
  have hcard := OffsetPool.Sound.card_holders (h.books.ipv6Sound hcapped) hbooks
    m.sessions.keys.toFinset (by
      intro k
      rw [mem_keys_iff]
      constructor
      · rintro ⟨c, hc⟩
        have hdual := h.dual hc
        rw [ha] at hdual
        obtain ⟨ip, hip⟩ := Option.isSome_iff_exists.mp hdual
        obtain ⟨l, hl, -⟩ := (@ipv6Lease_iff (fun k => m.sessions.lookup k) k ip).mpr ⟨c, hc, hip⟩
        exact ⟨l, hl⟩
      · rintro ⟨l, hl⟩
        obtain ⟨c, hc, -⟩ := ipv6Lease_iff.mp ⟨l, hl, rfl⟩
        exact ⟨c, hc⟩)
  have hcount := card_sessions h.books
  exact hcount ▸ hcard

theorem nextOffset_le (h : m.Within) : m.ipAllocator.pool.nextOffset ≤ m.reach + 2 :=
  OffsetPool.Sound.nextOffset_le h.books.ipSound (Nat.le_add_left 1 m.reach)

theorem nextOffsetV6_le (h : m.Within) {a : Ipv6Allocator} (ha : m.ipv6Allocator = some a) :
    a.pool.nextOffset ≤ m.capacity + 2 := by
  have hcapped : m.capped.ipv6Allocator = some (a.capped (m.capacity + 1)) := congrArg (Option.map _) ha
  exact OffsetPool.Sound.nextOffset_le (h.books.ipv6Sound hcapped) (Nat.le_add_left 1 m.capacity)

theorem ip_iff (h : m.Within) (hlt : m.sessionCount < m.maxSessions) (hempty : m.ipAllocator.pool.released = ∅) :
    m.ipAllocator.pool.nextOffset ≤ m.ipAllocator.pool.maxOffset ↔ m.ipAllocator.pool.nextOffset ≤ m.reach + 1 := by
  have hcard := h.card_ip
  rw [hempty, Finset.card_empty] at hcard
  have hreach : m.reach = match m.ipv6Allocator with
      | none => min m.maxSessions m.ipAllocator.room
      | some a => min (min m.maxSessions m.ipAllocator.room) (a.room + 1) := rfl
  cases ha : m.ipv6Allocator with
  | none =>
    rw [ha] at hreach
    dsimp only [IpAllocator.room] at hreach
    omega
  | some a =>
    have hcardV6 := h.card_ipv6 ha
    have hnext := h.nextOffsetV6_le ha
    have hcapacity := capacity_le_room ha
    rw [ha] at hreach
    dsimp only [IpAllocator.room] at hreach
    omega

theorem ipv6_iff (h : m.Within) {a : Ipv6Allocator} (ha : m.ipv6Allocator = some a)
    (hlt : m.sessionCount < m.maxSessions) {picker : Picker Nat} {ip : Block 4}
    (hip : (m.ipAllocator.allocate picker).2 = some ip) (hempty : a.pool.released = ∅) :
    a.pool.nextOffset ≤ a.room + 1 ↔ a.pool.nextOffset ≤ (a.capped (m.capacity + 1)).room + 1 := by
  have hcard := h.card_ip
  have hcardV6 := h.card_ipv6 ha
  have hnext := h.nextOffset_le
  rw [hempty, Finset.card_empty] at hcardV6
  -- with an address left in the IPv4 pool, the sessions do not fill it
  have hroom : m.sessionCount + 1 ≤ m.ipAllocator.room := by
    have hreach := m.capacity_le.2.2.2
    cases hpick : picker.pick m.ipAllocator.pool.released with
    | some o =>
      have hpos := Finset.card_pos.mpr ⟨o, picker.pick_mem hpick⟩
      omega
    | none =>
      by_cases hle : m.ipAllocator.pool.nextOffset ≤ m.ipAllocator.pool.maxOffset
      · unfold IpAllocator.room
        omega
      · rw [(allocate_of_empty hpick).2 hle] at hip
        cases hip
  have hcapacity : m.capacity = min (min m.maxSessions m.ipAllocator.room) a.room := by
    unfold capacity
    rw [ha]
  have hcapped : (a.capped (m.capacity + 1)).room = min (m.capacity + 1) (2 ^ 64 - 1 - ofBE a.baseLow.bytes) - 1 := rfl
  have hroomV6 : a.room = min a.pool.maxOffset (2 ^ 64 - 1 - ofBE a.baseLow.bytes) - 1 := rfl
  omega

end Within

/-! ### Running in the part that is used -/

theorem limit_le (m : SessionManager) : m.reach + 1 ≤ max m.ipAllocator.pool.maxOffset 1 := by
  have := m.capacity_le.2.2.2
  unfold IpAllocator.room at this
  omega

theorem limitV6_le (ha : m.ipv6Allocator = some a) : m.capacity + 1 ≤ max a.pool.maxOffset 1 := by
  have hcapacity := capacity_le_room ha
  unfold Ipv6Allocator.room at hcapacity
  omega

theorem removeSession_capped (h : m.capped.Books) (sessionId : SessionId) :
    m.capped.removeSession sessionId = ((m.removeSession sessionId).1.capped, (m.removeSession sessionId).2) := by
  rw [capped_eq_of_shape (m.shape_removeSession sessionId)]
  unfold removeSession
  rw [show m.capped.sessions = m.sessions from rfl]
  cases hc : m.sessions.lookup sessionId with
  | none => rfl
  | some c =>
    have hlease : ipLease (fun k => m.sessions.lookup k) sessionId = some ⟨c.tunnelIp, sessionId, true⟩ :=
      congrArg (Option.map _) hc
    have hip : m.capped.ipAllocator.release c.tunnelIp = (m.ipAllocator.release c.tunnelIp).capped (m.reach + 1) :=
      release_capped m.limit_le h.ipNoWrap (h.ip.in_pool hlease)
    dsimp only
    rw [hip]
    cases hv6 : c.tunnelIpv6 with
    | none => rfl
    | some ip =>
      have hleaseV6 : ipv6Lease (fun k => m.sessions.lookup k) sessionId = some ⟨ip, sessionId, true⟩ := by
        rw [ipv6Lease, hc, Option.bind_some, leaseV6Of, hv6]
        rfl
      have hpool : ip ∈ m.capped.ipv6Addresses := h.ipv6.in_pool hleaseV6
      have hrelease : m.capped.ipv6Allocator.map (·.release ip) =
          (m.ipv6Allocator.map (·.release ip)).map (·.capped (m.capacity + 1)) := by
        show (m.ipv6Allocator.map (·.capped (m.capacity + 1))).map (·.release ip) = _
        have hcapped : m.capped.ipv6Allocator = m.ipv6Allocator.map (·.capped (m.capacity + 1)) := rfl
        rw [ipv6Addresses, hcapped] at hpool
        cases ha : m.ipv6Allocator with
        | none => rfl
        | some a =>
          rw [ha] at hpool
          exact congrArg some (release_capped (limitV6_le ha) hpool)
      dsimp only
      rw [hrelease]
      rfl

variable {picker pickerV6 : Picker Nat} {session : Session} {ip : Block 4}

theorem Within.removeSession (h : m.Within) (sessionId : SessionId) : (m.removeSession sessionId).1.Within where
  books := by
    have hbooks := h.books.removeSession sessionId
    rwa [removeSession_capped h.books] at hbooks
  dual := by
    intro k c hc
    rw [isSome_eq_of_shape (m.shape_removeSession sessionId)]
    rw [lookup_removeSession] at hc
    split at hc
    · cases hc
    · exact h.dual hc

theorem Within.release_allocated (h : m.Within) {a : IpAllocator}
    (hcapped : m.capped.ipAllocator.allocate picker = (a.capped (m.reach + 1), some ip))
    (halloc : m.ipAllocator.allocate picker = (a, some ip)) :
    (a.capped (m.reach + 1)).release ip = (a.release ip).capped (m.reach + 1) := by
  have hshape : a.shape = m.ipAllocator.shape := by
    rw [← m.ipAllocator.shape_allocate picker, halloc]
  have hmax : a.pool.maxOffset = m.ipAllocator.pool.maxOffset := congrArg Prod.snd hshape
  have hwrap := (noWrap_allocate m.capped.ipAllocator picker).mpr h.books.ipNoWrap
  rw [hcapped] at hwrap
  rcases allocate_spec h.books.ipSound picker with hfull | ⟨a', ip', heq, -, haddr, hmem, -⟩
  · cases (Prod.mk.inj (hcapped.symm.trans hfull)).2
  · obtain ⟨rfl, hip⟩ := Prod.mk.inj (heq.symm.trans hcapped)
    cases hip
    refine release_capped (hmax ▸ m.limit_le) hwrap ?_
    rw [haddr]
    exact OffsetPool.Sound.available_subset h.books.ipSound hmem

theorem createSession_capped (h : m.Within) (picker pickerV6 : Picker Nat) (session : Session)
    (clientAddr : SocketAddr) (level : SecurityLevel) (now : UInt64) :
    m.capped.createSessionDualStackWithLevel picker pickerV6 session clientAddr level now =
      ((m.createSessionDualStackWithLevel picker pickerV6 session clientAddr level now).1.capped,
        (m.createSessionDualStackWithLevel picker pickerV6 session clientAddr level now).2) := by
  have hremoved := h.removeSession session.sessionId
  have hshape := m.shape_removeSession session.sessionId
  obtain ⟨hcapacity, hreach⟩ := capacity_eq_of_shape hshape
  rw [capped_eq_of_shape (m.shape_createSession picker pickerV6 session clientAddr level now), ← hcapacity, ← hreach]
  unfold createSessionDualStackWithLevel
  rw [removeSession_capped h.books]
  dsimp only
  generalize (m.removeSession session.sessionId).1 = m' at hremoved ⊢
  rw [show m'.capped.maxSessions = m'.maxSessions from rfl, show m'.capped.sessionCount = m'.sessionCount from rfl]
  by_cases hfull : m'.maxSessions ≤ m'.sessionCount
  · rw [if_pos hfull, if_pos hfull]
    rfl
  rw [if_neg hfull, if_neg hfull]
  have hlt := not_le.mp hfull
  have hip : m'.capped.ipAllocator.allocate picker =
      ((m'.ipAllocator.allocate picker).1.capped (m'.reach + 1), (m'.ipAllocator.allocate picker).2) :=
    allocate_capped picker (hremoved.ip_iff hlt)
  rcases halloc : m'.ipAllocator.allocate picker with ⟨a, _ | ip⟩
  · rw [halloc] at hip
    rw [hip]
    rfl
  rw [halloc] at hip
  rw [hip]
  cases hv6 : m'.ipv6Allocator with
  | none =>
    rw [show m'.capped.ipv6Allocator = none from congrArg (Option.map _) hv6]
    rfl
  | some a6 =>
    have hcappedV6 : m'.capped.ipv6Allocator = some (a6.capped (m'.capacity + 1)) := congrArg (Option.map _) hv6
    have hnext := OffsetPool.Sound.two_le (hremoved.books.ipv6Sound hcappedV6)
    have hip6 : (a6.capped (m'.capacity + 1)).allocate pickerV6 =
        ((a6.allocate pickerV6).1.capped (m'.capacity + 1), (a6.allocate pickerV6).2) :=
      allocate_capped pickerV6 hnext (hremoved.ipv6_iff hv6 hlt (congrArg Prod.snd halloc))
    rw [hcappedV6, Option.map_some, hip6, Option.map_some]
    rcases a6.allocate pickerV6 with ⟨a6', _ | ip6⟩
    · dsimp only
      rw [hremoved.release_allocated hip halloc]
      rfl
    · rfl

theorem Within.createSession (h : m.Within) (picker pickerV6 : Picker Nat) (session : Session)
    (clientAddr : SocketAddr) (level : SecurityLevel) (now : UInt64) :
    (m.createSessionDualStackWithLevel picker pickerV6 session clientAddr level now).1.Within where
  books := by
    have hbooks := (h.books.createSession picker pickerV6 session clientAddr level now).1
    rwa [createSession_capped h] at hbooks
  dual := by
    intro k c hc
    rw [isSome_eq_of_shape (m.shape_createSession picker pickerV6 session clientAddr level now)]
    rcases createSession_cases picker pickerV6 m session clientAddr level now with
      ⟨e, -, hlookup⟩ | ⟨ip, ipv6, hok, hlookup⟩
    · rw [hlookup] at hc
      split at hc
      · cases hc
      · exact h.dual hc
    · rw [hlookup] at hc
      split at hc
      · cases hc
        exact isSome_of_createSession hok
      · exact h.dual hc

theorem Within.updateClientAddr (h : m.Within) (sessionId : SessionId) (newAddr : SocketAddr) :
    (m.updateClientAddr sessionId newAddr).Within where
  books := h.books.onSession sessionId () fun _ => ⟨rfl, rfl⟩
  dual := by
    intro k c hc
    rw [SessionManager.updateClientAddr, lookup_onSession] at hc
    split at hc
    · obtain ⟨c', hc', rfl⟩ := Option.map_eq_some_iff.mp hc
      show c'.tunnelIpv6.isSome = m.ipv6Allocator.isSome
      exact h.dual hc'
    · exact h.dual hc

theorem Within.step (r : LifecycleRun) (op : LifecycleOp) (h : r.manager.Within) :
    (r.step op).manager.Within ∧ (r.step op).manager.shape = r.manager.shape := by
  cases op with
  | create picker pickerV6 session clientAddr level now =>
    exact ⟨h.createSession picker pickerV6 session clientAddr level now, shape_createSession ..⟩
  | remove sessionId => exact ⟨h.removeSession sessionId, shape_removeSession ..⟩
  | cleanupExpired now =>
    rw [LifecycleRun.step]
    generalize (r.manager.cleanupExpired now).2 = expired
    induction expired generalizing r with
    | nil => exact ⟨h, rfl⟩
    | cons sessionId expired ih =>
      obtain ⟨hwithin, hshape⟩ := ih (r.remove sessionId) (h.removeSession sessionId)
      exact ⟨hwithin, hshape.trans (shape_removeSession ..)⟩
  | updateClientAddr sessionId newAddr => exact ⟨h.updateClientAddr sessionId newAddr, rfl⟩

/-- A fresh manager stays in the part of its pools up to `reach`, if no address there wraps around. -/
theorem Fresh.within (h : m.Fresh) (hwrap : (ofBe32 m.ipAllocator.base).toNat + m.reach + 1 < 2 ^ 32) : m.Within where
  books := by
    refine books ⟨h.sessions, h.ipToSession, h.ipv6ToSession, h.count, ?_, ?_⟩ ?_ hwrap
    · show { m.ipAllocator.pool with maxOffset := m.reach + 1 } = OffsetPool.new (m.reach + 1)
      rw [h.pool]
      rfl
    · intro a ha
      obtain ⟨a', ha', rfl⟩ := Option.map_eq_some_iff.mp ha
      show { a'.pool with maxOffset := m.capacity + 1 } = OffsetPool.new (m.capacity + 1)
      rw [h.poolV6 ha']
      rfl
    · show m.reach + 1 < 2 ^ 32
      omega
  dual := by
    intro k c hc
    rw [h.sessions] at hc
    cases hc

theorem exec_within (h : m.Within) (ops : List LifecycleOp) :
    let r := exec LifecycleRun.step ⟨m, []⟩ ops
    r.manager.Within ∧ r.manager.shape = m.shape := by
  have hstep : ∀ (r : LifecycleRun) op, r.manager.Within ∧ r.manager.shape = m.shape →
      (r.step op).manager.Within ∧ (r.step op).manager.shape = m.shape := by
    intro r op ⟨hwithin, hshape⟩
    obtain ⟨hwithin', hshape'⟩ := Within.step r op hwithin
    exact ⟨hwithin', hshape'.trans hshape⟩
  exact exec_invariant hstep ops ⟨m, []⟩ ⟨h, rfl⟩

theorem Within.handedOut (h : m.Within)
    {clientAddr : SocketAddr} {level : SecurityLevel} {now : UInt64} {ipv6 : Option (Block 16)}
    (hok : (m.createSessionDualStackWithLevel picker pickerV6 session clientAddr level now).2 = .ok (ip, ipv6)) :
    (∃ o, 2 ≤ o ∧ o ≤ m.reach + 1 ∧ ip = m.ipAllocator.offsetToIp o) ∧
      ∀ ip6 ∈ ipv6, ∃ a o, m.ipv6Allocator = some a ∧ 2 ≤ o ∧ o ≤ m.capacity + 1 ∧ a.offsetToIp o = some ip6 := by
  have hshape := m.shape_createSession picker pickerV6 session clientAddr level now
  have hcapped := capped_eq_of_shape hshape
  have hbooks := (h.createSession picker pickerV6 session clientAddr level now).books
  have hcases := createSession_cases picker pickerV6 m session clientAddr level now
  generalize m.createSessionDualStackWithLevel picker pickerV6 session clientAddr level now = r at *
  obtain ⟨m', result⟩ := r
  obtain rfl : result = .ok (ip, ipv6) := hok
  rcases hcases with ⟨e, he, -⟩ | ⟨ip', ipv6', heq, hlookup⟩
  · cases he
  cases Except.ok.inj heq
  have hentry := hlookup session.sessionId
  rw [if_pos rfl] at hentry
  rw [hcapped] at hbooks
  constructor
  · obtain ⟨l, hl, hlip⟩ := (@ipLease_iff (fun k => m'.sessions.lookup k) session.sessionId ip).mpr ⟨_, hentry, rfl⟩
    obtain ⟨o, h2, hle, ho⟩ := hbooks.ip.in_pool hl
    have hbase : m'.ipAllocator.base = m.ipAllocator.base := congrArg (fun x => x.1.1) hshape
    refine ⟨o, h2, hle, ?_⟩
    rw [← hlip, ← Option.some.inj ho, IpAllocator.offsetToIp, IpAllocator.offsetToIp, ← hbase]
    rfl
  · intro ip6 hip6
    obtain ⟨l, hl, hlip⟩ :=
      (@ipv6Lease_iff (fun k => m'.sessions.lookup k) session.sessionId ip6).mpr ⟨_, hentry, hip6⟩
    have hpool := hbooks.ipv6.in_pool hl
    have hipv6 : m'.ipv6Allocator.map (·.shape) = m.ipv6Allocator.map (·.shape) :=
      (Prod.mk.inj (Prod.mk.inj hshape).2).1
    rw [ipv6Addresses, show (cappedAt (m.reach + 1) (m.capacity + 1) m').ipv6Allocator =
      m'.ipv6Allocator.map (·.capped (m.capacity + 1)) from rfl] at hpool
    cases ha' : m'.ipv6Allocator with
    | none =>
      rw [ha'] at hpool
      exact absurd hpool (Set.notMem_empty _)
    | some a' =>
      rw [ha'] at hpool hipv6
      obtain ⟨o, h2, hle, ho⟩ := hpool
      obtain ⟨a, ha, hsame⟩ := Option.map_eq_some_iff.mp hipv6.symm
      refine ⟨a, o, ha, h2, hle, ?_⟩
      rw [offsetToIp_eq_of_shape hsame, ← hlip]
      exact ho

/-! ### Without room for a session -/

structure Shut (m : SessionManager) : Prop where
  empty : ∀ k, m.sessions.lookup k = none
  full : m.maxSessions ≤ m.sessionCount ∨ ∃ a, m.ipv6Allocator = some a ∧ a.pool.released = ∅ ∧
    2 ≤ a.pool.nextOffset ∧ a.room + 1 < a.pool.nextOffset

theorem Shut.removeSession (h : m.Shut) (sessionId : SessionId) : (m.removeSession sessionId).1 = m := by
  rw [SessionManager.removeSession, h.empty]

theorem Shut.createSession (h : m.Shut) (picker pickerV6 : Picker Nat) (session : Session)
    (clientAddr : SocketAddr) (level : SecurityLevel) (now : UInt64) :
    (m.createSessionDualStackWithLevel picker pickerV6 session clientAddr level now).1.Shut ∧
      ∃ e, (m.createSessionDualStackWithLevel picker pickerV6 session clientAddr level now).2 = .error e := by
  unfold createSessionDualStackWithLevel
  rw [h.removeSession]
  dsimp only
  split
  · exact ⟨h, _, rfl⟩
  · next hlt =>
    obtain ⟨a, ha, hempty, h2, hroom⟩ := h.full.resolve_left hlt
    split
    · exact ⟨⟨h.empty, h.full⟩, _, rfl⟩
    · have hpick : pickerV6.pick a.pool.released = none := hempty ▸ pickerV6.pick_empty
      rw [ha, Option.map_some, (allocate_of_empty hpick h2).2 (not_le.mpr hroom)]
      exact ⟨⟨h.empty, .inr ⟨a, rfl, hempty, h2, hroom⟩⟩, _, rfl⟩

theorem Shut.step (r : LifecycleRun) (op : LifecycleOp) (h : r.manager.Shut) : (r.step op).manager.Shut := by
  cases op with
  | create picker pickerV6 session clientAddr level now =>
    exact (h.createSession picker pickerV6 session clientAddr level now).1
  | remove sessionId =>
    show (r.manager.removeSession sessionId).1.Shut
    rwa [h.removeSession]
  | cleanupExpired now =>
    rw [LifecycleRun.step]
    generalize (r.manager.cleanupExpired now).2 = expired
    induction expired generalizing r with
    | nil => exact h
    | cons sessionId expired ih =>
      refine ih (r.remove sessionId) ?_
      show (r.manager.removeSession sessionId).1.Shut
      rwa [h.removeSession]
  | updateClientAddr sessionId newAddr =>
    refine ⟨?_, h.full⟩
    intro k
    show (r.manager.updateClientAddr sessionId newAddr).sessions.lookup k = none
    rw [updateClientAddr, lookup_onSession, h.empty, h.empty]
    split <;> rfl

theorem Fresh.shut (h : m.Fresh) (hroom : 1 ≤ m.ipAllocator.room) (hzero : m.capacity = 0) : m.Shut where
  empty k := by
    rw [h.sessions]
    rfl
  full := by
    unfold capacity at hzero
    rw [h.count]
    cases ha : m.ipv6Allocator with
    | none =>
      rw [ha] at hzero
      dsimp only at hzero
      exact .inl (by omega)
    | some a =>
      rw [ha] at hzero
      dsimp only at hzero
      by_cases hmax : m.maxSessions = 0
      · exact .inl (le_of_eq hmax)
      · have hnext : a.pool.nextOffset = 2 := congrArg OffsetPool.nextOffset (h.poolV6 ha)
        exact .inr ⟨a, rfl, congrArg OffsetPool.released (h.poolV6 ha), le_of_eq hnext.symm, by omega⟩

/-! ### Every address up to there is handed out -/

structure Filled (m₀ m : SessionManager) (n : Nat) : Prop where
  fresh : ∀ i, n ≤ i → i < 2 ^ 64 → m.sessions.lookup (UInt64.ofNat i) = none
  last : ∀ i, n = i + 1 → ∃ c, m.sessions.lookup (UInt64.ofNat i) = some c ∧
    c.tunnelIp = m₀.ipAllocator.offsetToIp (i + 2) ∧
    c.tunnelIpv6 = m₀.ipv6Allocator.bind fun a => a.offsetToIp (i + 2)
  ip : m.ipAllocator = { m₀.ipAllocator with pool := { m₀.ipAllocator.pool with nextOffset := n + 2 } }
  ipv6 : m.ipv6Allocator = m₀.ipv6Allocator.map fun a => { a with pool := { a.pool with nextOffset := n + 2 } }
  count : m.sessionCount = n
  max : m.maxSessions = m₀.maxSessions

variable {m₀ : SessionManager} {n : Nat}

theorem Fresh.filled (h : m.Fresh) : Filled m m 0 where
  fresh i _ _ := by
    rw [h.sessions]
    rfl
  last i hi := nomatch hi
  ip := by
    have hnext : m.ipAllocator.pool.nextOffset = 2 := congrArg OffsetPool.nextOffset h.pool
    rw [zero_add, ← hnext]
  ipv6 := by
    cases ha : m.ipv6Allocator with
    | none => rfl
    | some a =>
      have hnext : a.pool.nextOffset = 2 := congrArg OffsetPool.nextOffset (h.poolV6 ha)
      rw [Option.map_some, zero_add, ← hnext]
  count := h.count
  max := rfl

theorem ofNat_ne {i j : Nat} (hi : i < 2 ^ 64) (hj : j < 2 ^ 64) (hne : i ≠ j) : UInt64.ofNat i ≠ UInt64.ofNat j := by
  intro h
  have := congrArg UInt64.toNat h
  rw [UInt64.toNat_ofNat_of_lt' hi, UInt64.toNat_ofNat_of_lt' hj] at this
  exact hne this

theorem Filled.room_lt (hmax : m₀.ipAllocator.pool.maxOffset < 2 ^ 32) (hn : n ≤ m₀.capacity + 1) : n < 2 ^ 64 := by
  have := m₀.capacity_le
  unfold IpAllocator.room at this
  omega

theorem Filled.allocate (h₀ : m₀.Fresh) (h : Filled m₀ m n) (hn : n < m₀.ipAllocator.room) (picker : Picker Nat) :
    m.ipAllocator.allocate picker =
      ({ m₀.ipAllocator with pool := { m₀.ipAllocator.pool with nextOffset := n + 3 } },
        some (m₀.ipAllocator.offsetToIp (n + 2))) := by
  have hreleased : m₀.ipAllocator.pool.released = ∅ := congrArg OffsetPool.released h₀.pool
  have hpick : picker.pick m.ipAllocator.pool.released = none := by
    rw [h.ip]
    exact hreleased ▸ picker.pick_empty
  have hle : m.ipAllocator.pool.nextOffset ≤ m.ipAllocator.pool.maxOffset := by
    rw [h.ip]
    unfold IpAllocator.room at hn
    show n + 2 ≤ m₀.ipAllocator.pool.maxOffset
    omega
  rw [(allocate_of_empty hpick).1 hle, h.ip]
  rfl

theorem Filled.allocateV6 (h₀ : m₀.Fresh) (ha : m₀.ipv6Allocator = some a) (n : Nat) (picker : Picker Nat) :
    let filled : Ipv6Allocator := { a with pool := { a.pool with nextOffset := n + 2 } }
    (n < a.room → ∃ ip, a.offsetToIp (n + 2) = some ip ∧
        filled.allocate picker = ({ a with pool := { a.pool with nextOffset := n + 3 } }, some ip)) ∧
      (¬n < a.room → filled.allocate picker = (filled, none)) := by
  intro filled
  have hreleased : a.pool.released = ∅ := congrArg OffsetPool.released (h₀.poolV6 ha)
  have hpick : picker.pick filled.pool.released = none := hreleased ▸ picker.pick_empty
  obtain ⟨hgive, hnone⟩ := allocate_of_empty hpick (Nat.le_add_left 2 n)
  have hiff : filled.pool.nextOffset ≤ filled.room + 1 ↔ n < a.room := by
    show n + 2 ≤ a.room + 1 ↔ n < a.room
    omega
  rw [hiff] at hgive hnone
  exact ⟨hgive, hnone⟩

theorem Filled.create (h₀ : m₀.Fresh) (hmax : m₀.ipAllocator.pool.maxOffset < 2 ^ 32) (h : Filled m₀ m n)
    (hn : n < m₀.capacity) (picker pickerV6 : Picker Nat)
    (hid : session.sessionId = UInt64.ofNat n) (clientAddr : SocketAddr) (level : SecurityLevel) (now : UInt64) :
    let r := m.createSessionDualStackWithLevel picker pickerV6 session clientAddr level now
    Filled m₀ r.1 (n + 1) ∧
      r.2 = .ok (m₀.ipAllocator.offsetToIp (n + 2), m₀.ipv6Allocator.bind fun a => a.offsetToIp (n + 2)) := by
  intro r
  have hcap := m₀.capacity_le
  have hsmall : n + 1 < 2 ^ 64 := room_lt hmax (by omega)
  have hnone : m.sessions.lookup session.sessionId = none := by
    rw [hid]
    exact h.fresh n (le_refl n) (by omega)
  have hip := h.allocate h₀ (by omega) picker
  -- the manager that the session is entered in
  have hr : ∃ m' : SessionManager,
      r = (m'.insertSession session clientAddr (m₀.ipAllocator.offsetToIp (n + 2))
          (m₀.ipv6Allocator.bind fun a => a.offsetToIp (n + 2)) level now,
        .ok (m₀.ipAllocator.offsetToIp (n + 2), m₀.ipv6Allocator.bind fun a => a.offsetToIp (n + 2))) ∧
      m'.sessions = m.sessions ∧ m'.sessionCount = m.sessionCount ∧ m'.maxSessions = m.maxSessions ∧
      m'.ipAllocator = { m₀.ipAllocator with pool := { m₀.ipAllocator.pool with nextOffset := n + 3 } } ∧
      m'.ipv6Allocator = m₀.ipv6Allocator.map fun a => { a with pool := { a.pool with nextOffset := n + 3 } } := by
    have hlt : ¬m.maxSessions ≤ m.sessionCount := by
      rw [h.count, h.max]
      omega
    simp only [r, createSessionDualStackWithLevel, removeSession, hnone, if_neg hlt, hip, h.ipv6]
    cases ha : m₀.ipv6Allocator with
    | none => exact ⟨_, rfl, rfl, rfl, rfl, rfl, rfl⟩
    | some a =>
      have hroom : n < a.room := lt_of_lt_of_le hn (capacity_le_room ha)
      obtain ⟨ip, hip6, halloc⟩ := (allocateV6 h₀ ha n pickerV6).1 hroom
      simp only [Option.map_some, Option.bind_some, halloc, hip6]
      exact ⟨_, rfl, rfl, rfl, rfl, rfl, rfl⟩
  obtain ⟨m', hr, hsessions, hcount, hmaxSessions, hip', hipv6'⟩ := hr
  rw [hr]
  refine ⟨⟨?_, ?_, hip', hipv6', ?_, hmaxSessions.trans h.max⟩, rfl⟩
  · intro i hle hi
    rw [lookup_insertSession, if_neg (hid ▸ ofNat_ne hi (by omega) (by omega)), hsessions]
    exact h.fresh i (by omega) hi
  · intro i hi
    obtain rfl : n = i := by omega
    rw [← hid, lookup_insertSession, if_pos rfl]
    exact ⟨_, rfl, rfl, rfl⟩
  · show m'.sessionCount + 1 = n + 1
    rw [hcount, h.count]

def fill (n : Nat) : List LifecycleOp := (List.range n).map fun i => LifecycleSample.create (UInt64.ofNat i)

theorem exec_fill (h₀ : m₀.Fresh) (hmax : m₀.ipAllocator.pool.maxOffset < 2 ^ 32) (hn : n ≤ m₀.capacity) :
    Filled m₀ (exec LifecycleRun.step ⟨m₀, []⟩ (fill n)).manager n := by
  induction n with
  | zero => exact h₀.filled
  | succ n ih =>
    rw [fill, List.range_succ, List.map_append, exec_append]
    exact ((ih (by omega)).create h₀ hmax (by omega) .least .least rfl _ _ _).1

theorem exists_run_of_le_capacity (h₀ : m₀.Fresh) (hmax : m₀.ipAllocator.pool.maxOffset < 2 ^ 32) {o : Nat}
    (h2 : 2 ≤ o) (ho : o ≤ m₀.capacity + 1) :
    ∃ ops picker pickerV6 session clientAddr level now,
      ((exec LifecycleRun.step ⟨m₀, []⟩ ops).manager.createSessionDualStackWithLevel picker pickerV6 session
        clientAddr level now).2 = .ok (m₀.ipAllocator.offsetToIp o, m₀.ipv6Allocator.bind fun a => a.offsetToIp o) := by
  obtain ⟨n, rfl⟩ := Nat.exists_eq_add_of_le' h2
  have hfilled := exec_fill h₀ hmax (n := n) (by omega)
  exact ⟨fill n, .least, .least, .new (UInt64.ofNat n) LifecycleSample.keys 0, LifecycleSample.addr, .level3, 0,
    (hfilled.create h₀ hmax (by omega) .least .least rfl _ _ _).2⟩

theorem Filled.refuse (h₀ : m₀.Fresh) (h : Filled m₀ m n) (ha : m₀.ipv6Allocator = some a)
    (hfull : n = a.room) (hlt : n < m₀.maxSessions) (hroom : n < m₀.ipAllocator.room)
    (hfits : (ofBe32 m₀.ipAllocator.base).toNat + (n + 2) < 2 ^ 32) (picker pickerV6 : Picker Nat) (session : Session)
    (hnone : m.sessions.lookup session.sessionId = none) (clientAddr : SocketAddr) (level : SecurityLevel)
    (now : UInt64) :
    (m.createSessionDualStackWithLevel picker pickerV6 session clientAddr level now).1 =
      { m with ipAllocator := { m₀.ipAllocator with
          pool := { m₀.ipAllocator.pool with nextOffset := n + 3, released := {n + 2} } } } := by
  have hcount : ¬m.maxSessions ≤ m.sessionCount := by
    rw [h.count, h.max]
    omega
  have hreleased : m₀.ipAllocator.pool.released = ∅ := congrArg OffsetPool.released h₀.pool
  let given : IpAllocator := { m₀.ipAllocator with pool := { m₀.ipAllocator.pool with nextOffset := n + 3 } }
  have hrelease : given.release (m₀.ipAllocator.offsetToIp (n + 2)) =
      { given with pool := { given.pool with released := insert (n + 2) given.pool.released } } := by
    unfold IpAllocator.room at hroom
    have hle : n + 2 ≤ given.pool.maxOffset := show n + 2 ≤ m₀.ipAllocator.pool.maxOffset by omega
    exact release_offsetToIp (a := given) (Nat.le_add_left 2 n) hle hfits
  have hip := h.allocate h₀ hroom picker
  have hv6 : m.ipv6Allocator = some { a with pool := { a.pool with nextOffset := n + 2 } } := by
    rw [h.ipv6, ha]
    rfl
  simp only [createSessionDualStackWithLevel, removeSession, hnone, if_neg hcount, hip, hv6, Option.map_some,
    (allocateV6 h₀ ha n pickerV6).2 (not_lt.mpr (le_of_eq hfull.symm))]
  rw [hrelease]
  rw [hreleased]
  rfl

theorem createSession_reuse (session : Session) {o o6 : Nat}
    {ip6 : Block 16} (hnone : m.sessions.lookup session.sessionId = none) (hlt : m.sessionCount < m.maxSessions)
    (hpick : picker.pick m.ipAllocator.pool.released = some o) (ha : m.ipv6Allocator = some a)
    (hpickV6 : pickerV6.pick a.pool.released = some o6) (hip6 : a.offsetToIp o6 = some ip6) (clientAddr : SocketAddr)
    (level : SecurityLevel) (now : UInt64) :
    (m.createSessionDualStackWithLevel picker pickerV6 session clientAddr level now).2 =
      .ok (m.ipAllocator.offsetToIp o, some ip6) := by
  simp only [createSessionDualStackWithLevel, removeSession, hnone, if_neg (not_le.mpr hlt),
    IpAllocator.allocate, hpick, ha, Option.map_some, Ipv6Allocator.allocate, hpickV6, hip6]

/-- Where the IPv6 pool is narrower, the IPv4 pool gets one offset further, for a session that then finds no IPv6
address. -/
theorem exists_run_of_reach (h₀ : m₀.Fresh) (hmax : m₀.ipAllocator.pool.maxOffset < 2 ^ 32)
    (hreach : m₀.reach = m₀.capacity + 1) (hpos : 1 ≤ m₀.capacity)
    (hfits : (ofBe32 m₀.ipAllocator.base).toNat + (m₀.capacity + 2) < 2 ^ 32) :
    ∃ ops picker pickerV6 session clientAddr level now ipv6,
      ((exec LifecycleRun.step ⟨m₀, []⟩ ops).manager.createSessionDualStackWithLevel picker pickerV6 session
        clientAddr level now).2 = .ok (m₀.ipAllocator.offsetToIp (m₀.capacity + 2), ipv6) := by
  obtain ⟨a, ha, hroom, hlt, hltRoom⟩ : ∃ a, m₀.ipv6Allocator = some a ∧ a.room = m₀.capacity ∧
      m₀.capacity < m₀.maxSessions ∧ m₀.capacity < m₀.ipAllocator.room := by
    unfold reach at hreach
    unfold capacity at hreach ⊢
    cases ha : m₀.ipv6Allocator with
    | none =>
      rw [ha] at hreach
      dsimp only at hreach
      omega
    | some a =>
      rw [ha] at hreach
      dsimp only at hreach ⊢
      exact ⟨a, rfl, by omega, by omega, by omega⟩
  obtain ⟨n, hn⟩ := Nat.exists_eq_add_of_le' hpos
  have hfilled := exec_fill h₀ hmax (n := n + 1) (by omega)
  rw [hn] at hroom hlt hltRoom hfits ⊢
  have hmax4 : n + 3 ≤ m₀.ipAllocator.pool.maxOffset := by
    unfold IpAllocator.room at hltRoom
    omega
  refine ⟨fill (n + 1) ++ [LifecycleSample.create (UInt64.ofNat (n + 1)), .remove (UInt64.ofNat n)], .prefer (n + 3),
    .least, .new (UInt64.ofNat (n + 1)) LifecycleSample.keys 0, LifecycleSample.addr, .level3, 0, ?_⟩
  rw [exec_append]
  generalize exec LifecycleRun.step ⟨m₀, []⟩ (fill (n + 1)) = r at hfilled ⊢
  have hnone : r.manager.sessions.lookup (UInt64.ofNat (n + 1)) = none :=
    hfilled.fresh (n + 1) (le_refl _) (by omega)
  obtain ⟨c, hc, hcip, hcip6⟩ := hfilled.last n rfl
  have hrefused := hfilled.refuse h₀ ha hroom.symm hlt hltRoom hfits .least .least
    (.new (UInt64.ofNat (n + 1)) LifecycleSample.keys 0) hnone LifecycleSample.addr .level3 0
  let back : IpAllocator := { m₀.ipAllocator with
    pool := { m₀.ipAllocator.pool with nextOffset := n + 4, released := {n + 3} } }
  let filled : Ipv6Allocator := { a with pool := { a.pool with nextOffset := n + 3 } }
  let m₁ : SessionManager := { r.manager with ipAllocator := back }
  let m₂ : SessionManager := (m₁.removeSession (UInt64.ofNat n)).1
  have hrun : (exec LifecycleRun.step r [LifecycleSample.create (UInt64.ofNat (n + 1)),
      .remove (UInt64.ofNat n)]).manager = m₂ :=
    congrArg (fun m => (removeSession m (UInt64.ofNat n)).1) hrefused
  rw [hrun]
  -- the session that goes gives its own offset back to both pools
  rw [ha, Option.bind_some] at hcip6
  obtain ⟨hmaxV6, hfitsV6⟩ := (le_room (a := a) (Nat.le_add_left 2 n)).mpr (by omega)
  obtain ⟨ip6, hip6⟩ := offsetToIp_isSome.mpr hfitsV6
  have hip : m₂.ipAllocator = { back with pool := { back.pool with released := {n + 2, n + 3} } } := by
    have hrelease : back.release (m₀.ipAllocator.offsetToIp (n + 2)) =
        { back with pool := { back.pool with released := insert (n + 2) back.pool.released } } :=
      release_offsetToIp (a := back) (Nat.le_add_left 2 n)
        (show n + 2 ≤ m₀.ipAllocator.pool.maxOffset by omega)
        (show (ofBe32 m₀.ipAllocator.base).toNat + (n + 2) < 2 ^ 32 by omega)
    simp only [m₂, removeSession, m₁, hc, hcip, hrelease]
    rfl
  have hipv6 : m₂.ipv6Allocator = some { filled with pool := { filled.pool with released := {n + 2} } } := by
    have hrelease : filled.release ip6 =
        { filled with pool := { filled.pool with released := insert (n + 2) filled.pool.released } } :=
      release_of_offsetToIp (a := filled) (Nat.le_add_left 2 n) hmaxV6 hip6
    have hempty : filled.pool.released = ∅ := congrArg OffsetPool.released (h₀.poolV6 ha)
    have hv6 : r.manager.ipv6Allocator = some filled := by
      rw [hfilled.ipv6, ha]
      rfl
    simp only [m₂, removeSession, m₁, hc, hcip6, hip6, hv6, Option.map_some, hrelease]
    rw [hempty]
    rfl
  have hnone₂ : m₂.sessions.lookup (UInt64.ofNat (n + 1)) = none := by
    rw [lookup_removeSession]
    split
    · rfl
    · exact hnone
  have hlt₂ : m₂.sessionCount < m₂.maxSessions := by
    have hcount : m₂.sessionCount = n := by
      simp only [m₂, removeSession, m₁, hc, hfilled.count]
      rfl
    have hmax₂ : m₂.maxSessions = m₀.maxSessions := by
      simp only [m₂, removeSession, m₁, hc, hfilled.max]
    omega
  have hpick : (Picker.prefer (n + 3)).pick m₂.ipAllocator.pool.released = some (n + 3) := by
    rw [hip]
    exact if_pos (Finset.mem_insert_of_mem (Finset.mem_singleton_self _))
  have hpickV6 : Picker.least.pick ({n + 2} : Finset Nat) = some (n + 2) := Finset.min_singleton
  have hcreate := createSession_reuse (.new (UInt64.ofNat (n + 1)) LifecycleSample.keys 0) hnone₂ hlt₂
    hpick hipv6 hpickV6 hip6 LifecycleSample.addr .level3 0
  rw [hip] at hcreate
  exact ⟨_, hcreate⟩

end SessionManager

end HpnVpn
