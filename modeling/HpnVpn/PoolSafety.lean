import HpnVpn.PoolCapacity
import HpnVpn.ServerConfig

/-! Which configurations hand out only addresses that a client may have.  The pools count up from the base as it is
written. -/
namespace HpnVpn
open Wire Tables Runs SessionManager

/-! ### What is configured -/

structure Ipv6Settings where
  base : Block 16
  prefixLen : UInt8
  serverIp : Block 16
deriving DecidableEq

/-- What the configuration says of the address pools. -/
structure PoolSettings where
  base : Block 4
  prefixLen : UInt8
  serverIp : Block 4
  ipv6 : Option Ipv6Settings
  maxSessions : Nat
deriving DecidableEq

def ServerConfig.poolSettings (T : AddrText) (c : ServerConfig) : Except ServerError PoolSettings := do
  let (base, prefixLen) ← c.parseIpv4Pool
  let serverIp ← c.parseServerTunnelIp
  if c.hasIpv6 then
    let (baseIpv6, prefixV6) ← okOr (← c.parseIpv6Pool T) (.config "IPv6 pool must be set when has_ipv6 is true")
    let serverIpv6 ← okOr (← c.parseServerTunnelIpv6 T) (.config "Server IPv6 must be set when has_ipv6 is true")
    return ⟨base, prefixLen, serverIp, some ⟨baseIpv6, prefixV6, serverIpv6⟩, c.getMaxSessions⟩
  else
    return ⟨base, prefixLen, serverIp, none, c.getMaxSessions⟩

namespace PoolSettings

def manager (s : PoolSettings) (sessionTimeout : Nat) (pps : UInt32) (bps : UInt64) : SessionManager :=
  match s.ipv6 with
  | some v =>
    (SessionManager.newDualStack s.base s.prefixLen s.serverIp (.fit 8 v.base.bytes)
      (.fit 8 (v.base.bytes.drop 8)) v.prefixLen v.serverIp sessionTimeout s.maxSessions).withRateLimits pps bps
  | none => (SessionManager.new s.base s.prefixLen s.serverIp sessionTimeout s.maxSessions).withRateLimits pps bps

structure UsableIpv4 (s : PoolSettings) (ip : Block 4) : Prop where
  inside : (ofBe32 ip).toNat / 2 ^ (32 - s.prefixLen.toNat) = (ofBe32 s.base).toNat / 2 ^ (32 - s.prefixLen.toNat)
  not_network : (ofBe32 ip).toNat % 2 ^ (32 - s.prefixLen.toNat) ≠ 0
  not_broadcast : (ofBe32 ip).toNat % 2 ^ (32 - s.prefixLen.toNat) ≠ 2 ^ (32 - s.prefixLen.toNat) - 1
  not_server : ip ≠ s.serverIp

end PoolSettings

structure Ipv6Settings.Usable (v : Ipv6Settings) (ip : Block 16) : Prop where
  inside : ofBE ip.bytes / 2 ^ (128 - v.prefixLen.toNat) = ofBE v.base.bytes / 2 ^ (128 - v.prefixLen.toNat)
  not_server : ip ≠ v.serverIp

/-- The first `count` offsets, from 2 on, leave neither the prefix nor meet the server. -/
structure Ipv6Settings.Fits (v : Ipv6Settings) (count : Nat) : Prop where
  room : ofBE v.base.bytes % 2 ^ (128 - v.prefixLen.toNat) + (count + 1) < 2 ^ (128 - v.prefixLen.toNat)
  server : ¬(ofBE v.base.bytes + 2 ≤ ofBE v.serverIp.bytes ∧ ofBE v.serverIp.bytes ≤ ofBE v.base.bytes + (count + 1))

namespace PoolSettings

def Usable (s : PoolSettings) (ip : Block 4) (ipv6 : Option (Block 16)) : Prop :=
  s.UsableIpv4 ip ∧ ∀ ip6 ∈ ipv6, ∀ v ∈ s.ipv6, v.Usable ip6

/-- The first `count` offsets, from 2 on, end before the broadcast address and do not meet the server. -/
structure FitsIpv4 (s : PoolSettings) (count : Nat) : Prop where
  room : (ofBe32 s.base).toNat % 2 ^ (32 - s.prefixLen.toNat) + (count + 1) < 2 ^ (32 - s.prefixLen.toNat) - 1
  server : ¬((ofBe32 s.base).toNat + 2 ≤ (ofBe32 s.serverIp).toNat ∧
    (ofBe32 s.serverIp).toNat ≤ (ofBe32 s.base).toNat + (count + 1))

/-- There is no room for a session, or both pools fit as far as they are used. -/
def Fits (s : PoolSettings) : Prop :=
  let m := s.manager 0 0 0
  m.capacity = 0 ∨ s.FitsIpv4 m.reach ∧ ∀ v ∈ s.ipv6, v.Fits m.capacity

end PoolSettings

/-! ### Arithmetic -/

section arithmetic
variable {base offset size count : Nat}

theorem add_div_eq (hsize : 0 < size) : (base + offset) / size = base / size + (base % size + offset) / size := by
  calc (base + offset) / size
      = (base % size + offset + size * (base / size)) / size := by
        congr 1
        have := Nat.mod_add_div base size
        omega
    _ = base / size + (base % size + offset) / size := by
        rw [Nat.add_mul_div_left _ _ hsize, Nat.add_comm]

theorem add_div_eq_iff (hsize : 0 < size) : (base + offset) / size = base / size ↔ base % size + offset < size := by
  rw [add_div_eq hsize, Nat.add_eq_left, Nat.div_eq_zero_iff]
  omega

theorem add_mod_div_eq_iff (hcount : 2 ≤ count) (hbase : base < size * count) (hoffset : offset < size) :
    (base + offset) % (size * count) / size = base / size ↔ base % size + offset < size := by
  have hsize : 0 < size := by omega
  have hquot : base / size < count := Nat.div_lt_of_lt_mul hbase
  rw [Nat.mod_mul_right_div_self, ← add_div_eq_iff hsize, add_div_eq hsize]
  have hcarry : (base % size + offset) / size ≤ 1 := by
    have := Nat.mod_lt base hsize
    exact Nat.lt_succ_iff.mp (Nat.div_lt_of_lt_mul (by omega))
  generalize (base % size + offset) / size = carry at hcarry ⊢
  obtain rfl | rfl : carry = 0 ∨ carry = 1 := by omega
  · rw [Nat.add_zero, Nat.mod_eq_of_lt hquot]
  · refine iff_of_false ?_ (by omega)
    by_cases hlast : base / size + 1 = count
    · rw [hlast, Nat.mod_self]
      omega
    · rw [Nat.mod_eq_of_lt (by omega)]
      omega

end arithmetic

/-! ### One address -/

namespace PoolSettings
variable {s : PoolSettings} {o : Nat}

theorem toNat_offsetToIp (a : IpAllocator) (h : o < 2 ^ 32) :
    (ofBe32 (a.offsetToIp o)).toNat = ((ofBe32 a.base).toNat + o) % 2 ^ 32 := by
  rw [IpAllocator.offsetToIp, ofBe32_be32, UInt32.toNat_add, IpAllocator.toNat_offset h]

theorem two_pow_thirtyTwo {n : Nat} (h : n ≤ 30) : 2 ^ 32 = 2 ^ (32 - n) * 2 ^ n := by
  rw [← Nat.pow_add, Nat.sub_add_cancel (h.trans (by decide))]

theorem base_add_lt (hmask : s.prefixLen.toNat ≤ 30)
    (h : (ofBe32 s.base).toNat % 2 ^ (32 - s.prefixLen.toNat) + o < 2 ^ (32 - s.prefixLen.toNat)) :
    (ofBe32 s.base).toNat + o < 2 ^ 32 := by
  have hlt := UInt32.toNat_lt (ofBe32 s.base)
  rw [two_pow_thirtyTwo hmask] at hlt ⊢
  generalize (ofBe32 s.base).toNat = base at *
  generalize 2 ^ (32 - s.prefixLen.toNat) = d at *
  have hdiv := Nat.mod_add_div base d
  calc base + o < d * (base / d + 1) := by
        rw [Nat.mul_succ]
        omega
    _ ≤ d * 2 ^ s.prefixLen.toNat := Nat.mul_le_mul_left d (Nat.div_lt_of_lt_mul hlt)

theorem usableIpv4_iff (hmask : 16 ≤ s.prefixLen.toNat ∧ s.prefixLen.toNat ≤ 30) {a : IpAllocator}
    (hbase : a.base = s.base) (h2 : 2 ≤ o) (ho : o + 2 ≤ 2 ^ (32 - s.prefixLen.toNat)) :
    s.UsableIpv4 (a.offsetToIp o) ↔
      (ofBe32 s.base).toNat % 2 ^ (32 - s.prefixLen.toNat) + o < 2 ^ (32 - s.prefixLen.toNat) - 1 ∧
        (ofBe32 s.base).toNat + o ≠ (ofBe32 s.serverIp).toNat := by
  have hpow := two_pow_thirtyTwo hmask.2
  have hcount : 2 ≤ 2 ^ s.prefixLen.toNat := Nat.le_self_pow (by omega) 2
  have hsmall : o < 2 ^ 32 := by
    have := Nat.pow_le_pow_right (show 0 < 2 by decide) (show 32 - s.prefixLen.toNat ≤ 32 by omega)
    omega
  have hlt : (ofBe32 s.base).toNat < 2 ^ 32 := UInt32.toNat_lt _
  have hvalue : (ofBe32 (a.offsetToIp o)).toNat = ((ofBe32 s.base).toNat + o) % 2 ^ 32 := by
    rw [toNat_offsetToIp a hsmall, hbase]
  have hinside : (ofBe32 (a.offsetToIp o)).toNat / 2 ^ (32 - s.prefixLen.toNat) =
      (ofBe32 s.base).toNat / 2 ^ (32 - s.prefixLen.toNat) ↔
        (ofBe32 s.base).toNat % 2 ^ (32 - s.prefixLen.toNat) + o < 2 ^ (32 - s.prefixLen.toNat) := by
    rw [hvalue, hpow]
    exact add_mod_div_eq_iff hcount (hpow ▸ hlt) (by omega)
  have hhost : (ofBe32 (a.offsetToIp o)).toNat % 2 ^ (32 - s.prefixLen.toNat) =
      ((ofBe32 s.base).toNat % 2 ^ (32 - s.prefixLen.toNat) + o) % 2 ^ (32 - s.prefixLen.toNat) := by
    rw [hvalue, hpow, Nat.mod_mul_right_mod, Nat.mod_add_mod]
  constructor
  · intro h
    have hroom := hinside.mp h.inside
    have hbroadcast := h.not_broadcast
    rw [hhost, Nat.mod_eq_of_lt hroom] at hbroadcast
    refine ⟨by omega, ?_⟩
    intro hserver
    apply h.not_server
    have hsame : (ofBe32 (a.offsetToIp o)).toNat = (ofBe32 s.serverIp).toNat := by
      rw [hvalue, hserver, Nat.mod_eq_of_lt (UInt32.toNat_lt _)]
    rw [← be32_ofBe32 (a.offsetToIp o), UInt32.toNat_inj.mp hsame, be32_ofBe32]
  · rintro ⟨hroom, hserver⟩
    have hlast := base_add_lt (s := s) (o := o) hmask.2 (by omega)
    refine ⟨hinside.mpr (by omega), ?_, ?_, ?_⟩
    · rw [hhost, Nat.mod_eq_of_lt (by omega)]
      omega
    · rw [hhost, Nat.mod_eq_of_lt (by omega)]
      omega
    · intro hsame
      apply hserver
      rw [← hsame, hvalue, Nat.mod_eq_of_lt hlast]

end PoolSettings

namespace Ipv6Settings
variable {v : Ipv6Settings} {a : Ipv6Allocator} {o : Nat} {ip : Block 16}

theorem ofBE_base (v : Ipv6Settings) :
    ofBE v.base.bytes =
      ofBE (Block.fit 8 v.base.bytes).bytes * 256 ^ 8 + ofBE (Block.fit 8 (v.base.bytes.drop 8)).bytes := by
  have hhigh : (Block.fit 8 v.base.bytes).bytes = v.base.bytes.take 8 := by
    show (v.base.bytes ++ _).take 8 = _
    rw [List.take_append_of_le_length (by simp)]
  have hlow : (Block.fit 8 (v.base.bytes.drop 8)).bytes = v.base.bytes.drop 8 := by
    show (v.base.bytes.drop 8 ++ _).take 8 = _
    rw [List.take_append_of_le_length (by simp), List.take_of_length_le (by simp)]
  rw [hhigh, hlow]
  calc ofBE v.base.bytes = ofBE (v.base.bytes.take 8 ++ v.base.bytes.drop 8) := by rw [List.take_append_drop]
    _ = ofBE (v.base.bytes.take 8) * 256 ^ 8 + ofBE (v.base.bytes.drop 8) := by
        rw [ofBE_append, List.length_drop, Block.length_bytes]

theorem ofBE_offsetToIp (hhigh : a.baseHigh = .fit 8 v.base.bytes) (hlow : a.baseLow = .fit 8 (v.base.bytes.drop 8))
    (hip : a.offsetToIp o = some ip) : ofBE ip.bytes = ofBE v.base.bytes + o := by
  obtain ⟨hlt, heq⟩ := Option.ite_none_right_eq_some.mp hip
  cases heq
  rw [Block.bytes_append, ofBE_append, ofBE_toBE hlt, Block.length_bytes, v.ofBE_base, hhigh, hlow, Nat.add_assoc]

theorem usable_iff (hhigh : a.baseHigh = .fit 8 v.base.bytes) (hlow : a.baseLow = .fit 8 (v.base.bytes.drop 8))
    (hip : a.offsetToIp o = some ip) :
    v.Usable ip ↔ ofBE v.base.bytes % 2 ^ (128 - v.prefixLen.toNat) + o < 2 ^ (128 - v.prefixLen.toNat) ∧
      ofBE v.base.bytes + o ≠ ofBE v.serverIp.bytes := by
  have hvalue := ofBE_offsetToIp hhigh hlow hip
  rw [← add_div_eq_iff (Nat.two_pow_pos _), ← hvalue]
  constructor
  · intro h
    refine ⟨h.inside, ?_⟩
    intro hserver
    apply h.not_server
    rw [← toBE_ofBE ip, hserver, toBE_ofBE]
  · rintro ⟨hinside, hserver⟩
    exact ⟨hinside, fun hsame => hserver (by rw [hsame])⟩

end Ipv6Settings

/-! ### Whole runs -/

namespace PoolSettings
variable {s : PoolSettings} {sessionTimeout : Nat} {pps : UInt32} {bps : UInt64}

theorem manager_ipAllocator (s : PoolSettings) (sessionTimeout : Nat) (pps : UInt32) (bps : UInt64) :
    (s.manager sessionTimeout pps bps).ipAllocator = .new s.base s.prefixLen := by
  unfold manager
  split <;> rfl

theorem manager_ipv6Allocator (s : PoolSettings) (sessionTimeout : Nat) (pps : UInt32) (bps : UInt64) :
    (s.manager sessionTimeout pps bps).ipv6Allocator = s.ipv6.map fun v =>
      .new (.fit 8 v.base.bytes) (.fit 8 (v.base.bytes.drop 8)) v.prefixLen := by
  unfold manager
  split <;> simp only [*] <;> rfl

theorem manager_shape (s : PoolSettings) (sessionTimeout : Nat) (pps : UInt32) (bps : UInt64) :
    (s.manager sessionTimeout pps bps).shape = (s.manager 0 0 0).shape := by
  unfold manager
  split <;> rfl

theorem manager_fresh (s : PoolSettings) (sessionTimeout : Nat) (pps : UInt32) (bps : UInt64) :
    (s.manager sessionTimeout pps bps).Fresh := by
  have hnew : SessionManager.IsNew s.base s.prefixLen (s.manager sessionTimeout pps bps) := by
    unfold manager
    split
    · exact .dualStack ..
    · exact .ipv4 ..
  exact hnew.fresh

theorem maxOffset_manager (hmask : 16 ≤ s.prefixLen.toNat ∧ s.prefixLen.toNat ≤ 30) (sessionTimeout : Nat)
    (pps : UInt32) (bps : UInt64) :
    (s.manager sessionTimeout pps bps).ipAllocator.pool.maxOffset = 2 ^ (32 - s.prefixLen.toNat) - 2 := by
  rw [manager_ipAllocator]
  refine IpAllocator.maxOffset_new ?_ ?_ s.base
  · rw [UInt8.le_iff_toNat_le]
    exact Nat.le_trans (by decide) hmask.1
  · rw [UInt8.le_iff_toNat_le]
    exact hmask.2

theorem four_le_size (hmask : s.prefixLen.toNat ≤ 30) : 4 ≤ 2 ^ (32 - s.prefixLen.toNat) :=
  Nat.pow_le_pow_right (show 0 < 2 by decide) (show 2 ≤ 32 - s.prefixLen.toNat by omega)

/-- Every address that a run of the manager hands out is usable. -/
def Safe (s : PoolSettings) (m : SessionManager) : Prop :=
  ∀ ops picker pickerV6 session clientAddr level now ip ipv6,
    ((exec LifecycleRun.step ⟨m, []⟩ ops).manager.createSessionDualStackWithLevel picker pickerV6 session
      clientAddr level now).2 = .ok (ip, ipv6) → s.Usable ip ipv6

theorem Fits.safe (hmask : 16 ≤ s.prefixLen.toNat ∧ s.prefixLen.toNat ≤ 30) (h : s.Fits) :
    s.Safe (s.manager sessionTimeout pps bps) := by
  intro ops picker pickerV6 session clientAddr level now ip ipv6 hok
  have hfresh := s.manager_fresh sessionTimeout pps bps
  have hmax := maxOffset_manager hmask sessionTimeout pps bps
  have hsize := four_le_size hmask.2
  obtain ⟨hcapacity, hreach⟩ := capacity_eq_of_shape (s.manager_shape sessionTimeout pps bps)
  have hip := s.manager_ipAllocator sessionTimeout pps bps
  have hipv6 := s.manager_ipv6Allocator sessionTimeout pps bps
  unfold Fits at h
  dsimp only at h
  rw [← hcapacity, ← hreach] at h
  generalize s.manager sessionTimeout pps bps = m at *
  by_cases hzero : m.capacity = 0
  · -- no session is ever created
    have hshut : m.Shut := hfresh.shut (by unfold IpAllocator.room; omega) hzero
    have hrun := exec_invariant SessionManager.Shut.step ops ⟨m, []⟩ hshut
    obtain ⟨-, e, he⟩ := hrun.createSession picker pickerV6 session clientAddr level now
    cases he.symm.trans hok
  obtain ⟨hfits, hfitsV6⟩ := h.resolve_left hzero
  have hwithin : m.Within := by
    refine hfresh.within ?_
    have := base_add_lt (s := s) (o := m.reach + 1) hmask.2 (Nat.lt_of_lt_of_le hfits.room (Nat.sub_le _ _))
    rw [hip]
    exact this
  obtain ⟨hrun, hshape⟩ := exec_within hwithin ops
  obtain ⟨hcapacity', hreach'⟩ := capacity_eq_of_shape hshape
  obtain ⟨⟨o, h2, hle, rfl⟩, hhanded⟩ := hrun.handedOut hok
  have hbase : (exec LifecycleRun.step ⟨m, []⟩ ops).manager.ipAllocator.base = s.base := by
    have : (exec LifecycleRun.step ⟨m, []⟩ ops).manager.ipAllocator.base = m.ipAllocator.base :=
      congrArg (fun x => x.1.1) hshape
    rw [this, hip]
    rfl
  rw [hreach'] at hle
  constructor
  · have hroom := hfits.room
    have hserver := hfits.server
    exact (usableIpv4_iff hmask hbase h2 (by omega)).mpr ⟨by omega, by omega⟩
  · intro ip6 hip6 v hv
    obtain ⟨a, o6, ha, h2, hle, ho⟩ := hhanded ip6 hip6
    rw [hcapacity'] at hle
    have hroom := (hfitsV6 v hv).room
    have hserver := (hfitsV6 v hv).server
    -- the pool is still the configured one
    have hshapeV6 : (exec LifecycleRun.step ⟨m, []⟩ ops).manager.ipv6Allocator.map (·.shape) =
        m.ipv6Allocator.map (·.shape) := (Prod.mk.inj (Prod.mk.inj hshape).2).1
    rw [ha, hipv6, Option.mem_def.mp hv] at hshapeV6
    obtain ⟨hhigh, hrest⟩ := Prod.mk.inj (Option.some.inj hshapeV6)
    exact (Ipv6Settings.usable_iff hhigh (Prod.mk.inj hrest).1 ho).mpr ⟨by omega, by omega⟩

theorem Safe.fitsIpv4 (hmask : 16 ≤ s.prefixLen.toNat ∧ s.prefixLen.toNat ≤ 30) {m : SessionManager}
    (hfresh : m.Fresh) (hip : m.ipAllocator = .new s.base s.prefixLen)
    (hmax : m.ipAllocator.pool.maxOffset = 2 ^ (32 - s.prefixLen.toNat) - 2) (h : s.Safe m)
    (hpos : 1 ≤ m.capacity) : s.FitsIpv4 m.reach := by
  have hpow : 2 ^ (32 - s.prefixLen.toNat) ≤ 2 ^ 32 := Nat.pow_le_pow_right (by decide) (Nat.sub_le _ _)
  have hlimit := m.capacity_le
  unfold IpAllocator.room at hlimit
  have hbase : m.ipAllocator.base = s.base := by
    rw [hip]
    rfl
  have hcheck : ∀ o, 2 ≤ o → o ≤ m.capacity + 1 →
      (ofBe32 s.base).toNat % 2 ^ (32 - s.prefixLen.toNat) + o < 2 ^ (32 - s.prefixLen.toNat) - 1 ∧
        (ofBe32 s.base).toNat + o ≠ (ofBe32 s.serverIp).toNat := by
    intro o h2 ho
    obtain ⟨ops, picker, pickerV6, session, clientAddr, level, now, hok⟩ :=
      exists_run_of_le_capacity hfresh (by omega) h2 ho
    exact (usableIpv4_iff hmask hbase h2 (by omega)).mp (h _ _ _ _ _ _ _ _ _ hok).1
  have hlast : ∀ o, 2 ≤ o → o ≤ m.reach + 1 →
      (ofBe32 s.base).toNat % 2 ^ (32 - s.prefixLen.toNat) + o < 2 ^ (32 - s.prefixLen.toNat) - 1 ∧
        (ofBe32 s.base).toNat + o ≠ (ofBe32 s.serverIp).toNat := by
    intro o h2 ho
    by_cases hle : o ≤ m.capacity + 1
    · exact hcheck o h2 hle
    · -- one further than the sessions go; the offset before it fits, so this one does not wrap around
      obtain rfl : o = m.capacity + 2 := by omega
      have hbefore := (hcheck (m.capacity + 1) (by omega) (by omega)).1
      have hfits := base_add_lt (s := s) (o := m.capacity + 2) hmask.2 (by omega)
      rw [← hbase] at hfits
      obtain ⟨ops, picker, pickerV6, session, clientAddr, level, now, ipv6, hok⟩ :=
        exists_run_of_reach hfresh (by omega) (by omega) hpos hfits
      exact (usableIpv4_iff hmask hbase h2 (by omega)).mp (h _ _ _ _ _ _ _ _ _ hok).1
  refine ⟨(hlast (m.reach + 1) (by omega) (Nat.le_refl _)).1, ?_⟩
  rintro ⟨hge, hle⟩
  exact (hlast ((ofBe32 s.serverIp).toNat - (ofBe32 s.base).toNat) (by omega) (by omega)).2 (by omega)

theorem Safe.fitsIpv6 {m : SessionManager} (hfresh : m.Fresh) (hmax : m.ipAllocator.pool.maxOffset < 2 ^ 32)
    {v : Ipv6Settings} (hv : s.ipv6 = some v)
    (hipv6 : m.ipv6Allocator = some (.new (.fit 8 v.base.bytes) (.fit 8 (v.base.bytes.drop 8)) v.prefixLen))
    (h : s.Safe m) (hpos : 1 ≤ m.capacity) : v.Fits m.capacity := by
  have hcheck : ∀ o, 2 ≤ o → o ≤ m.capacity + 1 →
      ofBE v.base.bytes % 2 ^ (128 - v.prefixLen.toNat) + o < 2 ^ (128 - v.prefixLen.toNat) ∧
        ofBE v.base.bytes + o ≠ ofBE v.serverIp.bytes := by
    intro o h2 ho
    obtain ⟨ops, picker, pickerV6, session, clientAddr, level, now, hok⟩ :=
      exists_run_of_le_capacity hfresh hmax h2 ho
    have hroom := capacity_le_room hipv6
    obtain ⟨-, hfits⟩ := (Ipv6Allocator.le_room h2).mpr (Nat.le_trans ho (Nat.succ_le_succ hroom))
    obtain ⟨ip6, hip6⟩ := Ipv6Allocator.offsetToIp_isSome.mpr hfits
    have husable := (h _ _ _ _ _ _ _ _ _ hok).2 ip6 (by rw [hipv6]; exact hip6) v hv
    exact (Ipv6Settings.usable_iff rfl rfl hip6).mp husable
  refine ⟨(hcheck (m.capacity + 1) (by omega) (Nat.le_refl _)).1, ?_⟩
  rintro ⟨hge, hle⟩
  exact (hcheck (ofBE v.serverIp.bytes - ofBE v.base.bytes) (by omega) (by omega)).2 (by omega)

theorem safe_iff_fits (hmask : 16 ≤ s.prefixLen.toNat ∧ s.prefixLen.toNat ≤ 30) :
    s.Safe (s.manager sessionTimeout pps bps) ↔ s.Fits := by
  refine ⟨?_, Fits.safe hmask⟩
  intro h
  have hfresh := s.manager_fresh sessionTimeout pps bps
  have hmax := maxOffset_manager hmask sessionTimeout pps bps
  have hip := s.manager_ipAllocator sessionTimeout pps bps
  have hipv6 := s.manager_ipv6Allocator sessionTimeout pps bps
  have hmax' := IpAllocator.maxOffset_lt s.base s.prefixLen
  rw [← hip] at hmax'
  obtain ⟨hcapacity, hreach⟩ := capacity_eq_of_shape (s.manager_shape sessionTimeout pps bps)
  unfold Fits
  dsimp only
  rw [← hcapacity, ← hreach]
  generalize s.manager sessionTimeout pps bps = m at *
  by_cases hzero : m.capacity = 0
  · exact .inl hzero
  · refine .inr ⟨h.fitsIpv4 hmask hfresh hip hmax (by omega), ?_⟩
    intro v hv
    rw [Option.mem_def.mp hv] at hipv6
    exact h.fitsIpv6 hfresh hmax' hv hipv6 (by omega)

end PoolSettings

namespace ServerConfig
variable {T : AddrText} {c : ServerConfig}

theorem parse_of_validateIpv6 (hipv6 : c.hasIpv6 = true) (h : c.validateIpv6 T = .ok ()) :
    ∃ base prefixLen server, c.parseIpv6Pool T = .ok (some (base, prefixLen)) ∧
      c.parseServerTunnelIpv6 T = .ok (some server) := by
  obtain ⟨pool, hpool, h⟩ := bind_ok_iff.mp h
  cases pool with
  | none => exact absurd hpool (parseIpv6Pool_ne_none hipv6)
  | some pool =>
    obtain ⟨base, prefixLen⟩ := pool
    obtain ⟨_, -, h⟩ := bind_ok_iff.mp h
    obtain ⟨server, hserver, h⟩ := bind_ok_iff.mp h
    obtain ⟨ip, hip, -⟩ := bind_ok_iff.mp h
    rw [okOr_eq_ok.mp hip] at hserver
    exact ⟨base, prefixLen, ip, hpool, hserver⟩

theorem exists_poolSettings (hvalid : c.validate T = .ok ()) :
    ∃ s, c.poolSettings T = .ok s ∧
      c.sessionManager T = .ok (s.manager (1000 * c.sessionTimeoutSecs.toNat) c.sessionRateLimitPps
        c.sessionRateLimitBps) ∧
      16 ≤ s.prefixLen.toNat ∧ s.prefixLen.toNat ≤ 30 := by
  have haccepted := hvalid
  obtain ⟨⟨base, prefixLen⟩, hpool, h⟩ := bind_ok_iff.mp haccepted
  obtain ⟨_, hmask, h⟩ := bind_ok_iff.mp h
  obtain ⟨serverIp, hserver, h⟩ := bind_ok_iff.mp h
  obtain ⟨_, -, h⟩ := bind_ok_iff.mp h
  obtain ⟨_, -, h⟩ := bind_ok_iff.mp h
  obtain ⟨⟨⟩, hvalidIpv6, -⟩ := bind_ok_iff.mp h
  have hbounds : 16 ≤ prefixLen.toNat ∧ prefixLen.toNat ≤ 30 := by
    obtain ⟨hge, hle⟩ := ensure_eq_ok.mp hmask
    exact ⟨UInt8.le_iff_toNat_le.mp hge, UInt8.le_iff_toNat_le.mp hle⟩
  by_cases hipv6 : c.hasIpv6 = true
  · obtain ⟨base6, prefix6, server6, hpool6, hserver6⟩ := parse_of_validateIpv6 hipv6 hvalidIpv6
    refine ⟨⟨base, prefixLen, serverIp, some ⟨base6, prefix6, server6⟩, c.getMaxSessions⟩, ?_, ?_, hbounds⟩
    · rw [poolSettings, hpool, ok_bind]
      dsimp only
      rw [hserver, ok_bind, if_pos hipv6, hpool6, ok_bind, okOr_some, ok_bind]
      rw [hserver6, ok_bind, okOr_some, ok_bind]
      rfl
    · rw [sessionManager, hvalid, ok_bind, hpool, ok_bind]
      dsimp only
      rw [hserver, ok_bind, if_pos hipv6, hpool6, ok_bind, okOr_some, ok_bind]
      rw [hserver6, ok_bind, okOr_some, ok_bind]
      rfl
  · refine ⟨⟨base, prefixLen, serverIp, none, c.getMaxSessions⟩, ?_, ?_, hbounds⟩
    · rw [poolSettings, hpool, ok_bind]
      dsimp only
      rw [hserver, ok_bind, if_neg hipv6]
      rfl
    · rw [sessionManager, hvalid, ok_bind, hpool, ok_bind]
      dsimp only
      rw [hserver, ok_bind, if_neg hipv6]
      rfl

/-- An accepted configuration hands out only usable addresses, in every run, exactly if its pools fit as far as they
are used. -/
theorem pools_safe_iff_fits (T : AddrText) (c : ServerConfig) (hvalid : c.validate T = .ok ()) :
    ∃ s m, c.poolSettings T = .ok s ∧ c.sessionManager T = .ok m ∧ (s.Safe m ↔ s.Fits) := by
  obtain ⟨s, hsettings, hmanager, hmask⟩ := exists_poolSettings hvalid
  exact ⟨s, _, hsettings, hmanager, PoolSettings.safe_iff_fits hmask⟩

end ServerConfig

namespace PoolSample

def text : AddrText := ⟨fun _ => none, fun _ => ""⟩

theorem pools_safe_iff_fits_default :
    ∃ m, ServerConfig.default.sessionManager text = .ok m ∧
      PoolSettings.Safe ⟨⟨[10, 99, 0, 0], rfl⟩, 24, ⟨[10, 99, 0, 1], rfl⟩, none, 254⟩ m := by
  obtain ⟨s, m, hsettings, hmanager, hiff⟩ :=
    ServerConfig.pools_safe_iff_fits text .default (by decide +kernel)
  have hs : ServerConfig.default.poolSettings text =
      .ok ⟨⟨[10, 99, 0, 0], rfl⟩, 24, ⟨[10, 99, 0, 1], rfl⟩, none, 254⟩ := by decide +kernel
  cases hsettings.symm.trans hs
  refine ⟨m, hmanager, hiff.mpr (.inr ⟨⟨by decide +kernel, by decide +kernel⟩, nofun⟩)⟩

def config : ServerConfig := { ServerConfig.default with serverTunnelIp := "10.99.0.2" }

theorem server_address_handed_out :
    ∃ s m, config.validate text = .ok () ∧ config.poolSettings text = .ok s ∧ config.sessionManager text = .ok m ∧
      (m.createSessionDualStackWithLevel .least .least (.new 7 LifecycleSample.keys 0) LifecycleSample.addr .level3 0).2 =
        .ok (s.serverIp, none) ∧
      ¬s.Safe m := by
  have hvalid : config.validate text = .ok () := by decide +kernel
  obtain ⟨s, hsettings, hmanager, -⟩ := ServerConfig.exists_poolSettings hvalid
  have hs : config.poolSettings text =
      .ok ⟨⟨[10, 99, 0, 0], rfl⟩, 24, ⟨[10, 99, 0, 2], rfl⟩, none, 254⟩ := by decide +kernel
  cases hsettings.symm.trans hs
  have hfirst : ((PoolSettings.manager ⟨⟨[10, 99, 0, 0], rfl⟩, 24, ⟨[10, 99, 0, 2], rfl⟩, none, 254⟩
      (1000 * config.sessionTimeoutSecs.toNat) config.sessionRateLimitPps
      config.sessionRateLimitBps).createSessionDualStackWithLevel .least .least (.new 7 LifecycleSample.keys 0)
        LifecycleSample.addr .level3 0).2 = .ok (⟨[10, 99, 0, 2], rfl⟩, none) := by decide +kernel
  refine ⟨_, _, hvalid, hsettings, hmanager, hfirst, ?_⟩
  intro hsafe
  exact (hsafe [] _ _ _ _ _ _ _ _ hfirst).1.not_server rfl

end PoolSample

end HpnVpn
