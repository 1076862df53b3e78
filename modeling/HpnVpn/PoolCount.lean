import HpnVpn.PoolSafety

/-! How many sessions a server has addresses for: three fewer than the network has.  `get_max_sessions` and
`available` take off two. -/
namespace HpnVpn
open Wire Tables Runs

/-! ### The allocator -/

inductive AllocatorOp
  | allocate (picker : Picker Nat)
  | release (ip : Block 4)

namespace IpAllocator

variable (a : IpAllocator)

def availableCount : Nat := a.pool.maxOffset - (a.pool.nextOffset - 2) + a.pool.released.card

def step : AllocatorOp → IpAllocator
  | .allocate picker => (a.allocate picker).1
  | .release ip => a.release ip

/-- Exactly `n` more allocations succeed, whichever of the released addresses they take. -/
def Yields : Nat → IpAllocator → Prop
  | 0, a => ∀ picker, (a.allocate picker).2 = none
  | n + 1, a => ∀ picker, ∃ a' ip, a.allocate picker = (a', some ip) ∧ Yields n a'

def left : Nat := a.pool.released.card + (a.pool.maxOffset + 1 - a.pool.nextOffset)

theorem allocate_of_left (picker : Picker Nat) :
    (a.left = 0 ∧ (a.allocate picker).2 = none) ∨
      ∃ a' ip, a.allocate picker = (a', some ip) ∧ a.left = a'.left + 1 := by
  cases hpick : picker.pick a.pool.released with
  | some o =>
    right
    have hcard := Finset.card_erase_add_one (picker.pick_mem hpick)
    refine ⟨{ a with pool := { a.pool with released := a.pool.released.erase o } }, a.offsetToIp o, ?_, ?_⟩
    · rw [allocate, hpick]
    · simp only [left]
      omega
  | none =>
    have hempty : a.pool.released.card = 0 := Finset.card_eq_zero.mpr (picker.pick_none hpick)
    obtain ⟨hgive, hrefuse⟩ := allocate_of_empty hpick
    by_cases hle : a.pool.nextOffset ≤ a.pool.maxOffset
    · refine .inr ⟨_, _, hgive hle, ?_⟩
      simp only [left]
      omega
    · refine .inl ⟨?_, congrArg Prod.snd (hrefuse hle)⟩
      rw [left, hempty]
      omega

theorem yields_iff {n : Nat} (a : IpAllocator) : a.Yields n ↔ a.left = n := by
  induction n generalizing a with
  | zero =>
    constructor
    · intro h
      rcases a.allocate_of_left .least with ⟨hzero, -⟩ | ⟨a', ip, heq, -⟩
      · exact hzero
      · cases (congrArg Prod.snd heq).symm.trans (h .least)
    · intro hzero picker
      rcases a.allocate_of_left picker with ⟨-, hnone⟩ | ⟨a', ip, -, hleft⟩
      · exact hnone
      · omega
  | succ n ih =>
    constructor
    · intro h
      obtain ⟨a', ip, heq, hyields⟩ := h .least
      rcases a.allocate_of_left .least with ⟨-, hnone⟩ | ⟨b, ip', heq', hleft⟩
      · cases (congrArg Prod.snd heq).symm.trans hnone
      · obtain rfl : b = a' := congrArg Prod.fst (heq'.symm.trans heq)
        rw [hleft, (ih b).mp hyields]
    · intro hsucc picker
      rcases a.allocate_of_left picker with ⟨hzero, -⟩ | ⟨a', ip, heq, hleft⟩
      · omega
      · exact ⟨a', ip, heq, (ih a').mpr (by omega)⟩

def Bounded : Prop := 2 ≤ a.pool.nextOffset ∧ a.pool.nextOffset ≤ a.pool.maxOffset + 1

theorem Bounded.step (a : IpAllocator) (op : AllocatorOp) (h : a.Bounded) : (a.step op).Bounded := by
  obtain ⟨hlow, hhigh⟩ := h
  cases op with
  | allocate picker =>
    show (a.allocate picker).1.Bounded
    unfold allocate
    split
    · exact ⟨hlow, hhigh⟩
    · split
      · next hle => exact ⟨Nat.le_succ_of_le hlow, Nat.succ_le_succ hle⟩
      · exact ⟨hlow, hhigh⟩
  | release ip =>
    show (a.release ip).Bounded
    unfold release OffsetPool.release
    split
    · split <;> exact ⟨hlow, hhigh⟩
    · exact ⟨hlow, hhigh⟩

theorem yields_iff_of_bounded {a : IpAllocator} (h : a.Bounded) {n : Nat} : a.Yields n ↔ a.availableCount = n + 1 := by
  obtain ⟨hlow, hhigh⟩ := h
  rw [yields_iff, left, availableCount]
  omega

end IpAllocator

/-! ### The session manager -/

namespace SessionManager

def Adds (r : LifecycleRun) : LifecycleOp → Prop
  | .create picker pickerV6 session clientAddr level now =>
    r.manager.sessions.lookup session.sessionId = none ∧
      ∃ ips, (r.manager.createSessionDualStackWithLevel picker pickerV6 session clientAddr level now).2 = .ok ips
  | _ => False

/-- As many sessions as the manager allows can be created, one after the other. -/
def HoldsMax (m : SessionManager) : Prop :=
  ∃ ops, ops.length = m.maxSessions ∧ Meets Adds LifecycleRun.step ⟨m, []⟩ ops

structure Counted (m₀ m : SessionManager) (n : Nat) : Prop where
  ip : m.ipAllocator = { m₀.ipAllocator with pool := { m₀.ipAllocator.pool with nextOffset := n + 2 } }
  ipv6 : m.ipv6Allocator = m₀.ipv6Allocator.map fun a => { a with pool := { a.pool with nextOffset := n + 2 } }
  le_room : n ≤ m₀.ipAllocator.room
  le_roomV6 : ∀ a, m₀.ipv6Allocator = some a → n ≤ a.room

variable {m₀ : SessionManager} {n : Nat}

theorem Counted.step (h₀ : m₀.Fresh) {r : LifecycleRun} (h : Counted m₀ r.manager n) {op : LifecycleOp}
    (hadds : Adds r op) : Counted m₀ (r.step op).manager (n + 1) := by
  cases op with
  | create picker pickerV6 session clientAddr level now =>
    obtain ⟨hnone, ips, hok⟩ := hadds
    show Counted m₀ (r.manager.createSessionDualStackWithLevel picker pickerV6 session clientAddr level now).1 _
    have hpick : picker.pick r.manager.ipAllocator.pool.released = none := by
      have hreleased : m₀.ipAllocator.pool.released = ∅ := congrArg OffsetPool.released h₀.pool
      rw [h.ip]
      exact hreleased ▸ picker.pick_empty
    obtain ⟨hgive, hrefuse⟩ := IpAllocator.allocate_of_empty hpick
    simp only [createSessionDualStackWithLevel, SessionManager.removeSession, hnone] at hok ⊢
    split at hok
    case isTrue => cases hok
    rename_i hlt
    rw [if_neg hlt]
    by_cases hle : r.manager.ipAllocator.pool.nextOffset ≤ r.manager.ipAllocator.pool.maxOffset
    case neg =>
      rw [hrefuse hle] at hok
      cases hok
    have hip : r.manager.ipAllocator.allocate picker =
        ({ m₀.ipAllocator with pool := { m₀.ipAllocator.pool with nextOffset := n + 3 } },
          some (m₀.ipAllocator.offsetToIp (n + 2))) := by
      rw [hgive hle, h.ip]
      rfl
    have hroom : n + 1 ≤ m₀.ipAllocator.room := by
      rw [h.ip] at hle
      have hle : n + 2 ≤ m₀.ipAllocator.pool.maxOffset := hle
      unfold IpAllocator.room
      omega
    simp only [hip, h.ipv6] at hok ⊢
    cases ha : m₀.ipv6Allocator with
    | none =>
      refine ⟨rfl, by rw [ha]; rfl, hroom, ?_⟩
      intro a hsome
      cases ha.symm.trans hsome
    | some a =>
      rw [ha] at hok
      obtain ⟨hgiveV6, hrefuseV6⟩ := Filled.allocateV6 h₀ ha n pickerV6
      simp only [Option.map_some] at hok ⊢
      by_cases hroomV6 : n < a.room
      · obtain ⟨ip, -, halloc⟩ := hgiveV6 hroomV6
        simp only [halloc]
        refine ⟨rfl, by rw [ha]; rfl, hroom, ?_⟩
        intro b hb
        cases ha.symm.trans hb
        exact hroomV6
      · rw [hrefuseV6 hroomV6] at hok
        cases hok
  | _ => exact hadds.elim

theorem Counted.exec (h₀ : m₀.Fresh) {ops : List LifecycleOp} {r : LifecycleRun} (h : Counted m₀ r.manager n)
    (hadds : Meets Adds LifecycleRun.step r ops) :
    Counted m₀ (exec LifecycleRun.step r ops).manager (n + ops.length) := by
  induction ops generalizing r n with
  | nil => exact h
  | cons op ops ih =>
    have hrest := ih (h.step h₀ hadds.1) hadds.2
    rwa [List.length_cons, Nat.add_comm ops.length 1, ← Nat.add_assoc]

theorem meets_fill (h₀ : m₀.Fresh) (hmax : m₀.ipAllocator.pool.maxOffset < 2 ^ 32) (hn : n ≤ m₀.capacity) :
    Meets Adds LifecycleRun.step ⟨m₀, []⟩ (fill n) := by
  induction n with
  | zero => trivial
  | succ n ih =>
    have hfilled := exec_fill h₀ hmax (show n ≤ m₀.capacity by omega)
    have hcap := Filled.room_lt hmax (show n ≤ m₀.capacity + 1 by omega)
    rw [fill, List.range_succ, List.map_append, meets_append]
    exact ⟨ih (by omega), ⟨hfilled.fresh n (Nat.le_refl n) hcap, _,
      (hfilled.create h₀ hmax (by omega) .least .least rfl _ _ _).2⟩, trivial⟩

/-- A new manager has addresses for all the sessions it allows exactly if both pools are that large. -/
theorem Fresh.holdsMax_iff (h₀ : m₀.Fresh) (hmax : m₀.ipAllocator.pool.maxOffset < 2 ^ 32) :
    m₀.HoldsMax ↔ m₀.maxSessions ≤ m₀.ipAllocator.room ∧ ∀ a, m₀.ipv6Allocator = some a → m₀.maxSessions ≤ a.room := by
  constructor
  · rintro ⟨ops, hlength, hadds⟩
    have hcounted := Counted.exec h₀ (r := ⟨m₀, []⟩) (n := 0)
      ⟨h₀.filled.ip, h₀.filled.ipv6, Nat.zero_le _, fun _ _ => Nat.zero_le _⟩ hadds
    rw [Nat.zero_add, hlength] at hcounted
    exact ⟨hcounted.le_room, hcounted.le_roomV6⟩
  · rintro ⟨hroom, hroomV6⟩
    refine ⟨fill m₀.maxSessions, ?_, meets_fill h₀ hmax ?_⟩
    · rw [fill, List.length_map, List.length_range]
    · unfold capacity
      cases ha : m₀.ipv6Allocator with
      | none => exact Nat.le_min.mpr ⟨Nat.le_refl _, hroom⟩
      | some a => exact Nat.le_min.mpr ⟨Nat.le_min.mpr ⟨Nat.le_refl _, hroom⟩, hroomV6 a ha⟩

end SessionManager

/-! ### Accepted configurations -/

def Ipv6Settings.room (v : Ipv6Settings) : Nat :=
  (Ipv6Allocator.new (.fit 8 v.base.bytes) (.fit 8 (v.base.bytes.drop 8)) v.prefixLen).room

namespace PoolSettings
variable {s : PoolSettings}

theorem maxSessions_manager (s : PoolSettings) (sessionTimeout : Nat) (pps : UInt32) (bps : UInt64) :
    (s.manager sessionTimeout pps bps).maxSessions = s.maxSessions := by
  unfold manager
  split <;> rfl

theorem holdsMax_manager_iff (hmask : 16 ≤ s.prefixLen.toNat ∧ s.prefixLen.toNat ≤ 30) (sessionTimeout : Nat)
    (pps : UInt32) (bps : UInt64) :
    (s.manager sessionTimeout pps bps).HoldsMax ↔
      s.maxSessions + 3 ≤ 2 ^ (32 - s.prefixLen.toNat) ∧ ∀ v ∈ s.ipv6, s.maxSessions ≤ v.room := by
  have hoffset := maxOffset_manager hmask sessionTimeout pps bps
  have hsize := four_le_size hmask.2
  have hlt : 2 ^ (32 - s.prefixLen.toNat) < 2 ^ 32 := Nat.pow_lt_pow_right (by decide) (by omega)
  have hfour : s.maxSessions ≤ 2 ^ (32 - s.prefixLen.toNat) - 2 - 1 ↔
      s.maxSessions + 3 ≤ 2 ^ (32 - s.prefixLen.toNat) := by omega
  rw [(s.manager_fresh sessionTimeout pps bps).holdsMax_iff (by omega), maxSessions_manager, IpAllocator.room,
    hoffset, hfour, manager_ipv6Allocator]
  simp only [Option.map_eq_some_iff, forall_exists_index, and_imp, forall_apply_eq_imp_iff₂]
  rfl

theorem bounded_manager (hmask : 16 ≤ s.prefixLen.toNat ∧ s.prefixLen.toNat ≤ 30) (sessionTimeout : Nat)
    (pps : UInt32) (bps : UInt64) (ops : List AllocatorOp) :
    (exec IpAllocator.step (s.manager sessionTimeout pps bps).ipAllocator ops).Bounded := by
  refine exec_invariant IpAllocator.Bounded.step ops _ ?_
  have hoffset := maxOffset_manager hmask sessionTimeout pps bps
  have hsize := four_le_size hmask.2
  have hnext : (s.manager sessionTimeout pps bps).ipAllocator.pool.nextOffset = 2 :=
    congrArg OffsetPool.nextOffset (s.manager_fresh sessionTimeout pps bps).pool
  constructor <;> omega

end PoolSettings

/-- A server can take the sessions it allows exactly if they are at least three fewer than the network's addresses and
fit the IPv6 pool; its count of available addresses is always one too high. -/
theorem ServerConfig.whole_pool_used_iff (T : AddrText) (c : ServerConfig) (hvalid : c.validate T = .ok ()) :
    ∃ s m, c.poolSettings T = .ok s ∧ c.sessionManager T = .ok m ∧ m.maxSessions = s.maxSessions ∧
      (m.HoldsMax ↔ s.maxSessions + 3 ≤ 2 ^ (32 - s.prefixLen.toNat) ∧ ∀ v ∈ s.ipv6, s.maxSessions ≤ v.room) ∧
      ∀ ops n, (exec IpAllocator.step m.ipAllocator ops).Yields n ↔
        (exec IpAllocator.step m.ipAllocator ops).availableCount = n + 1 := by
  obtain ⟨s, hsettings, hmanager, hmask⟩ := exists_poolSettings hvalid
  exact ⟨s, _, hsettings, hmanager, s.maxSessions_manager .., PoolSettings.holdsMax_manager_iff hmask ..,
    fun ops n => IpAllocator.yields_iff_of_bounded (PoolSettings.bounded_manager hmask _ _ _ ops)⟩

namespace PoolSample

def roomy : ServerConfig := { ServerConfig.default with maxSessions := some 200 }

theorem whole_pool_used_roomy : ∃ m, roomy.sessionManager text = .ok m ∧ m.HoldsMax := by
  obtain ⟨s, m, hsettings, hmanager, -, hiff, -⟩ := ServerConfig.whole_pool_used_iff text roomy (by decide +kernel)
  have hs : roomy.poolSettings text =
      .ok ⟨⟨[10, 99, 0, 0], rfl⟩, 24, ⟨[10, 99, 0, 1], rfl⟩, none, 200⟩ := by decide +kernel
  cases hsettings.symm.trans hs
  exact ⟨m, hmanager, hiff.mpr ⟨by decide, nofun⟩⟩

/-- The default configuration allows 254 sessions, and says it has 254 addresses left, but only 253 can be had. -/
theorem default_pool_one_short :
    ∃ m, ServerConfig.default.validate text = .ok () ∧ ServerConfig.default.sessionManager text = .ok m ∧
      m.maxSessions = 254 ∧ ¬m.HoldsMax ∧ m.ipAllocator.availableCount = 254 ∧ m.ipAllocator.Yields 253 := by
  have hvalid : ServerConfig.default.validate text = .ok () := by decide +kernel
  obtain ⟨s, hsettings, hmanager, hmask⟩ := ServerConfig.exists_poolSettings hvalid
  have hs : ServerConfig.default.poolSettings text =
      .ok ⟨⟨[10, 99, 0, 0], rfl⟩, 24, ⟨[10, 99, 0, 1], rfl⟩, none, 254⟩ := by decide +kernel
  cases hsettings.symm.trans hs
  refine ⟨_, hvalid, hmanager, rfl, ?_, rfl, (IpAllocator.yields_iff _).mpr rfl⟩
  rw [PoolSettings.holdsMax_manager_iff hmask]
  exact fun h => absurd h.1 (by decide)

end PoolSample

end HpnVpn
