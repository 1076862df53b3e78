import HpnVpn.SessionManager

/-! The two address pools as sets of addresses.  Offsets stand for addresses one to one; an IPv4 address that wrapped
around the end of the address space is not read back and cannot be given back. -/
namespace HpnVpn
open Wire Tables

namespace OffsetPool

variable {α : Type} {toIp : Nat → Option α} {toOffset : α → Option Nat} {p : OffsetPool}

def addresses (toIp : Nat → Option α) (p : OffsetPool) : Set α :=
  {a | ∃ o, 2 ≤ o ∧ o ≤ p.maxOffset ∧ toIp o = some a}

def available (toIp : Nat → Option α) (p : OffsetPool) : Set α :=
  {a | ∃ o, (o ∈ p.released ∨ p.nextOffset ≤ o ∧ o ≤ p.maxOffset) ∧ toIp o = some a}

/-- Only offsets below the next one are released, each has an address, no two share one, and an address is read back
as no other offset. -/
structure Sound (toIp : Nat → Option α) (toOffset : α → Option Nat) (p : OffsetPool) : Prop where
  two_le : 2 ≤ p.nextOffset
  handed : ∀ {o}, 2 ≤ o → o < p.nextOffset → o ≤ p.maxOffset ∧ (toIp o).isSome
  released : ∀ {o}, o ∈ p.released → 2 ≤ o ∧ o < p.nextOffset
  eq_of_toIp : ∀ {o o' a}, o ≤ p.maxOffset → o' ≤ p.maxOffset → toIp o = some a → toIp o' = some a → o = o'
  eq_of_toOffset : ∀ {o o' a}, o ≤ p.maxOffset → toIp o = some a → toOffset a = some o' → o' = o

theorem sound_new {maxOffset : Nat}
    (hinj : ∀ {o o' a}, o ≤ maxOffset → o' ≤ maxOffset → toIp o = some a → toIp o' = some a → o = o')
    (hread : ∀ {o o' a}, o ≤ maxOffset → toIp o = some a → toOffset a = some o' → o' = o) :
    (OffsetPool.new maxOffset).Sound toIp toOffset where
  two_le := Nat.le_refl 2
  handed hle hlt := absurd hlt (Nat.not_lt.mpr hle)
  released ho := absurd ho (Finset.notMem_empty _)
  eq_of_toIp := hinj
  eq_of_toOffset := hread

theorem available_new (maxOffset : Nat) :
    available toIp (OffsetPool.new maxOffset) = addresses toIp (OffsetPool.new maxOffset) := by
  ext a
  constructor
  · rintro ⟨o, hmem | ⟨hle, hmax⟩, ho⟩
    · exact absurd hmem (Finset.notMem_empty o)
    · exact ⟨o, hle, hmax, ho⟩
  · rintro ⟨o, hle, hmax, ho⟩
    exact ⟨o, .inr ⟨hle, hmax⟩, ho⟩

theorem maxOffset_release (p : OffsetPool) (o : Nat) : (p.release o).maxOffset = p.maxOffset := by
  unfold release
  split
  · rfl
  · rfl

def handedOut (toIp : Nat → Option α) (p : OffsetPool) : Set α :=
  {a | ∃ o, 2 ≤ o ∧ o < p.nextOffset ∧ toIp o = some a}

theorem handedOut_release (toIp : Nat → Option α) (p : OffsetPool) (o : Nat) :
    handedOut toIp (p.release o) = handedOut toIp p := by
  unfold release
  split
  · rfl
  · rfl

theorem handedOut_advance (toIp : Nat → Option α) (p : OffsetPool) :
    handedOut toIp p ⊆ handedOut toIp { p with nextOffset := p.nextOffset + 1 } :=
  fun _ ⟨o, hle, hlt, ho⟩ => ⟨o, hle, Nat.lt_succ_of_lt hlt, ho⟩

namespace Sound

variable {o : Nat}

theorem released_le (h : p.Sound toIp toOffset) (ho : o ∈ p.released) : o ≤ p.maxOffset :=
  (h.handed (h.released ho).1 (h.released ho).2).1

theorem available_subset (h : p.Sound toIp toOffset) : available toIp p ⊆ addresses toIp p := by
  rintro a ⟨o, hmem | ⟨hle, hmax⟩, ho⟩
  · exact ⟨o, (h.released hmem).1, h.released_le hmem, ho⟩
  · exact ⟨o, h.two_le.trans hle, hmax, ho⟩

variable {a : α}

theorem mem_available_iff (h : p.Sound toIp toOffset) (hle : 2 ≤ o)
    (hlt : o < p.nextOffset) (ho : toIp o = some a) : a ∈ available toIp p ↔ o ∈ p.released := by
  constructor
  · rintro ⟨o', hmem | ⟨hle', hmax⟩, ho'⟩
    · rwa [h.eq_of_toIp (h.handed hle hlt).1 (h.released_le hmem) ho ho']
    · have := h.eq_of_toIp (h.handed hle hlt).1 hmax ho ho'
      omega
  · intro hmem
    exact ⟨o, .inl hmem, ho⟩

theorem reuse (h : p.Sound toIp toOffset) (hmem : o ∈ p.released) (ho : toIp o = some a) :
    a ∈ available toIp p ∧
      Sound toIp toOffset { p with released := p.released.erase o } ∧
      available toIp { p with released := p.released.erase o } = available toIp p \ {a} := by
  refine ⟨⟨o, .inl hmem, ho⟩, ⟨h.two_le, h.handed, fun hr => h.released (Finset.mem_of_mem_erase hr),
    h.eq_of_toIp, h.eq_of_toOffset⟩, ?_⟩
  ext b
  constructor
  · rintro ⟨o', hr | hrest, ho'⟩
    · obtain ⟨hne, hr⟩ := Finset.mem_erase.mp hr
      refine ⟨⟨o', .inl hr, ho'⟩, ?_⟩
      rintro rfl
      exact hne (h.eq_of_toIp (h.released_le hr) (h.released_le hmem) ho' ho)
    · refine ⟨⟨o', .inr hrest, ho'⟩, ?_⟩
      rintro rfl
      obtain rfl := h.eq_of_toIp hrest.2 (h.released_le hmem) ho' ho
      exact Nat.not_lt.mpr hrest.1 (h.released hmem).2
  · rintro ⟨⟨o', hr | hrest, ho'⟩, hne⟩
    · refine ⟨o', .inl (Finset.mem_erase.mpr ⟨?_, hr⟩), ho'⟩
      rintro rfl
      exact hne (Option.some.inj (ho'.symm.trans ho))
    · exact ⟨o', .inr hrest, ho'⟩

theorem advance (h : p.Sound toIp toOffset) (hle : p.nextOffset ≤ p.maxOffset) (ho : toIp p.nextOffset = some a) :
    a ∈ available toIp p ∧
      Sound toIp toOffset { p with nextOffset := p.nextOffset + 1 } ∧
      available toIp { p with nextOffset := p.nextOffset + 1 } = available toIp p \ {a} := by
  refine ⟨⟨_, .inr ⟨Nat.le_refl _, hle⟩, ho⟩, ⟨h.two_le.trans (Nat.le_succ _), ?_, ?_, h.eq_of_toIp,
    h.eq_of_toOffset⟩, ?_⟩
  · intro o h2 hlt
    rcases Nat.lt_succ_iff_lt_or_eq.mp hlt with hlt | rfl
    · exact h.handed h2 hlt
    · exact ⟨hle, Option.isSome_of_eq_some ho⟩
  · intro o hr
    exact ⟨(h.released hr).1, Nat.lt_succ_of_lt (h.released hr).2⟩
  · ext b
    constructor
    · rintro ⟨o, hr | ⟨hnext, hmax⟩, hb⟩
      · refine ⟨⟨o, .inl hr, hb⟩, ?_⟩
        rintro rfl
        have := h.eq_of_toIp (h.released_le hr) hle hb ho
        have := (h.released hr).2
        omega
      · refine ⟨⟨o, .inr ⟨(Nat.le_succ _).trans hnext, hmax⟩, hb⟩, ?_⟩
        rintro rfl
        have := h.eq_of_toIp hmax hle hb ho
        dsimp only at hnext
        omega
    · rintro ⟨⟨o, hr | ⟨hnext, hmax⟩, hb⟩, hne⟩
      · exact ⟨o, .inl hr, hb⟩
      · refine ⟨o, .inr ⟨?_, hmax⟩, hb⟩
        have : o ≠ p.nextOffset := by
          rintro rfl
          exact hne (Option.some.inj (hb.symm.trans ho))
        show p.nextOffset + 1 ≤ o
        omega

theorem release_handedOut (h : p.Sound toIp toOffset) (hout : a ∈ handedOut toIp p)
    (hread : toOffset a = some o) : Sound toIp toOffset (p.release o) := by
  obtain ⟨o', hle, hlt, ho⟩ := hout
  have hmax := (h.handed hle hlt).1
  obtain rfl := h.eq_of_toOffset hmax ho hread
  rw [OffsetPool.release, if_pos ⟨hle, hmax⟩]
  refine ⟨h.two_le, h.handed, ?_, h.eq_of_toIp, h.eq_of_toOffset⟩
  intro o' hr
  rcases Finset.mem_insert.mp hr with rfl | hr
  · exact ⟨hle, hlt⟩
  · exact h.released hr

theorem release (h : p.Sound toIp toOffset) (hpool : a ∈ addresses toIp p)
    (hout : a ∉ available toIp p) (hread : toOffset a = some o) :
    Sound toIp toOffset (p.release o) ∧ available toIp (p.release o) = insert a (available toIp p) := by
  obtain ⟨o', hle, hmax, ho⟩ := hpool
  obtain rfl := h.eq_of_toOffset hmax ho hread
  have hlt : o < p.nextOffset := by
    by_contra hge
    exact hout ⟨o, .inr ⟨Nat.not_lt.mp hge, hmax⟩, ho⟩
  rw [OffsetPool.release, if_pos ⟨hle, hmax⟩]
  refine ⟨⟨h.two_le, h.handed, ?_, h.eq_of_toIp, h.eq_of_toOffset⟩, ?_⟩
  · intro o' hr
    rcases Finset.mem_insert.mp hr with rfl | hr
    · exact ⟨hle, hlt⟩
    · exact h.released hr
  · ext b
    constructor
    · rintro ⟨o', hr | hrest, hb⟩
      · rcases Finset.mem_insert.mp hr with rfl | hr
        · exact .inl (Option.some.inj (hb.symm.trans ho))
        · exact .inr ⟨o', .inl hr, hb⟩
      · exact .inr ⟨o', .inr hrest, hb⟩
    · rintro (rfl | ⟨o', hr | hrest, hb⟩)
      · exact ⟨o, .inl (Finset.mem_insert_self _ _), ho⟩
      · exact ⟨o', .inl (Finset.mem_insert_of_mem hr), hb⟩
      · exact ⟨o', .inr hrest, hb⟩

end Sound

end OffsetPool

/-! ### IPv4 -/

namespace IpAllocator

def addresses (a : IpAllocator) : Set (Block 4) := a.pool.addresses fun o => some (a.offsetToIp o)

def available (a : IpAllocator) : Set (Block 4) := a.pool.available fun o => some (a.offsetToIp o)

def Sound (a : IpAllocator) : Prop := a.pool.Sound (fun o => some (a.offsetToIp o)) a.ipToOffset

/-- A network of 1 to 30 bits without host bits in its base. -/
structure ValidNetwork (base : Block 4) (prefixLen : UInt8) : Prop where
  one_le : 1 ≤ prefixLen
  le_thirty : prefixLen ≤ 30
  host_zero : (ofBe32 base).toNat % 2 ^ (32 - prefixLen.toNat) = 0

theorem maxOffset_new {prefixLen : UInt8} (hone : 1 ≤ prefixLen) (hle : prefixLen ≤ 30) (base : Block 4) :
    (IpAllocator.new base prefixLen).pool.maxOffset = 2 ^ (32 - prefixLen.toNat) - 2 := by
  rw [UInt8.le_iff_toNat_le] at hone hle
  have hone' : 1 ≤ prefixLen.toNat := hone
  have hle' : prefixLen.toNat ≤ 30 := hle
  show ((1 : UInt32) <<< (32 - prefixLen.toUInt32)).toNat - 2 = _
  have hbits : (32 - prefixLen.toUInt32 : UInt32).toNat = 32 - prefixLen.toNat := by
    rw [UInt32.toNat_sub_of_le]
    · rfl
    · rw [UInt32.le_iff_toNat_le, UInt8.toNat_toUInt32]
      show _ ≤ 32
      omega
  have hpow : 2 ^ (32 - prefixLen.toNat) < 2 ^ 32 := Nat.pow_lt_pow_right (by decide) (by omega)
  rw [UInt32.toNat_shiftLeft, hbits, Nat.mod_eq_of_lt (show 32 - prefixLen.toNat < 32 by omega),
    UInt32.toNat_one, Nat.shiftLeft_eq, Nat.one_mul, Nat.mod_eq_of_lt hpow]

/-- The last address does not pass the end of the address space. -/
def NoWrap (a : IpAllocator) : Prop := (ofBe32 a.base).toNat + a.pool.maxOffset < 2 ^ 32

variable (base : Block 4) (prefixLen : UInt8)

theorem maxOffset_lt : (IpAllocator.new base prefixLen).pool.maxOffset < 2 ^ 32 :=
  Nat.lt_of_le_of_lt (Nat.sub_le _ _) (UInt32.toNat_lt _)

theorem toNat_offset {o : Nat} (h : o < 2 ^ 32) : (UInt32.ofNat o).toNat = o := UInt32.toNat_ofNat_of_lt' h

/-- An address at or above the base is read back as its offset; one below it, past the end, as none. -/
theorem ipToOffset_offsetToIp (a : IpAllocator) {o : Nat} (h : o < 2 ^ 32) :
    a.ipToOffset (a.offsetToIp o) = if (ofBe32 a.base).toNat + o < 2 ^ 32 then some o else none := by
  have hsum : (ofBe32 a.base + UInt32.ofNat o).toNat = ((ofBe32 a.base).toNat + o) % 2 ^ 32 := by
    rw [UInt32.toNat_add, toNat_offset h]
  rw [ipToOffset, offsetToIp, ofBe32_be32]
  by_cases hfits : (ofBe32 a.base).toNat + o < 2 ^ 32
  · rw [Nat.mod_eq_of_lt hfits] at hsum
    have hle : ofBe32 a.base ≤ ofBe32 a.base + UInt32.ofNat o := by
      rw [UInt32.le_iff_toNat_le, hsum]
      omega
    rw [if_pos hle, if_pos hfits, UInt32.toNat_sub_of_le _ _ hle, hsum, Nat.add_sub_cancel_left]
  · have hlt : ¬ofBe32 a.base ≤ ofBe32 a.base + UInt32.ofNat o := by
      rw [UInt32.le_iff_toNat_le, hsum]
      omega
    rw [if_neg hlt, if_neg hfits]

theorem sound_mk {maxOffset : Nat} (hmax : maxOffset < 2 ^ 32) :
    (IpAllocator.mk base prefixLen (.new maxOffset)).Sound := by
  refine OffsetPool.sound_new ?_ ?_
  · intro o o' a ho ho' ha ha'
    have hip := be32_injective (Option.some.inj (ha.trans ha'.symm))
    have hoffset := UInt32.add_right_inj _ |>.mp hip
    rw [← toNat_offset (ho.trans_lt hmax), hoffset, toNat_offset (ho'.trans_lt hmax)]
  · intro o o' a ho ha hread
    cases ha
    rw [ipToOffset_offsetToIp _ (ho.trans_lt hmax)] at hread
    exact (Option.some.inj (Option.ite_none_right_eq_some.mp hread).2).symm

theorem sound_new : (IpAllocator.new base prefixLen).Sound :=
  sound_mk base prefixLen (maxOffset_lt base prefixLen)

private theorem add_le_of_dvd {a m n : Nat} (hlt : a < n) (ha : m ∣ a) (hn : m ∣ n) : a + m ≤ n := by
  obtain ⟨k, rfl⟩ := ha
  obtain ⟨j, rfl⟩ := hn
  calc m * k + m = m * (k + 1) := (Nat.mul_succ m k).symm
    _ ≤ m * j := Nat.mul_le_mul_left m (Nat.lt_of_mul_lt_mul_left hlt)

theorem ValidNetwork.noWrap {base : Block 4} {prefixLen : UInt8} (h : ValidNetwork base prefixLen) :
    (IpAllocator.new base prefixLen).NoWrap := by
  have hbase : (ofBe32 base).toNat < 2 ^ 32 := UInt32.toNat_lt _
  have hsize : 2 ^ (32 - prefixLen.toNat) ∣ 2 ^ 32 := Nat.pow_dvd_pow 2 (Nat.sub_le _ _)
  -- base and end of the range are multiples of the size of the network
  have hroom : (ofBe32 base).toNat + 2 ^ (32 - prefixLen.toNat) ≤ 2 ^ 32 :=
    add_le_of_dvd hbase (Nat.dvd_of_mod_eq_zero h.host_zero) hsize
  rw [NoWrap, maxOffset_new h.one_le h.le_thirty]
  show (ofBe32 base).toNat + _ < _
  omega

def shape (a : IpAllocator) : Block 4 × Nat := (a.base, a.pool.maxOffset)

theorem shape_allocate (a : IpAllocator) (picker : Picker Nat) : (a.allocate picker).1.shape = a.shape := by
  unfold allocate
  split
  · rfl
  · split
    all_goals rfl

theorem shape_release (a : IpAllocator) (ip : Block 4) : (a.release ip).shape = a.shape := by
  unfold release
  split
  · exact congrArg (Prod.mk a.base) (OffsetPool.maxOffset_release ..)
  · rfl

variable {a a' : IpAllocator}

theorem noWrap_iff_of_shape (h : a'.shape = a.shape) : a'.NoWrap ↔ a.NoWrap := by
  obtain ⟨hbase, hmax⟩ := Prod.mk.inj h
  rw [NoWrap, NoWrap, hbase, hmax]

theorem noWrap_allocate (a : IpAllocator) (picker : Picker Nat) : (a.allocate picker).1.NoWrap ↔ a.NoWrap :=
  noWrap_iff_of_shape (a.shape_allocate picker)

theorem noWrap_release (a : IpAllocator) (ip : Block 4) : (a.release ip).NoWrap ↔ a.NoWrap :=
  noWrap_iff_of_shape (a.shape_release ip)

theorem addresses_eq_of_shape (h : a'.shape = a.shape) : a'.addresses = a.addresses := by
  obtain ⟨hbase, hmax⟩ := Prod.mk.inj h
  unfold addresses OffsetPool.addresses offsetToIp
  rw [hbase, hmax]

theorem addresses_release (a : IpAllocator) (ip : Block 4) : (a.release ip).addresses = a.addresses :=
  addresses_eq_of_shape (a.shape_release ip)

variable {picker : Picker Nat}

theorem allocate_none (h : a.allocate picker = (a', none)) : a' = a := by
  unfold allocate at h
  split at h
  · cases h
  · split at h
    · cases h
    · exact (Prod.mk.inj h).1.symm

theorem allocate_spec (h : a.Sound) (picker : Picker Nat) :
    (a.allocate picker = (a, none)) ∨
      ∃ a' ip, a.allocate picker = (a', some ip) ∧ a'.Sound ∧ a'.addresses = a.addresses ∧
        ip ∈ a.available ∧ a'.available = a.available \ {ip} := by
  unfold allocate
  cases hpick : picker.pick a.pool.released with
  | some o =>
    right
    obtain ⟨hmem, hsound, havail⟩ := OffsetPool.Sound.reuse h (picker.pick_mem hpick) rfl
    exact ⟨_, _, rfl, hsound, rfl, hmem, havail⟩
  | none =>
    by_cases hle : a.pool.nextOffset ≤ a.pool.maxOffset
    · right
      rw [if_pos hle]
      obtain ⟨hmem, hsound, havail⟩ := OffsetPool.Sound.advance h hle rfl
      exact ⟨_, _, rfl, hsound, rfl, hmem, havail⟩
    · left
      rw [if_neg hle]

theorem sound_allocate (h : a.Sound) (picker : Picker Nat) : (a.allocate picker).1.Sound := by
  rcases allocate_spec h picker with heq | ⟨a', ip, heq, hsound, -⟩
  all_goals rwa [heq]

variable {ip : Block 4}

theorem release_sound (h : a.Sound) (hpool : ip ∈ a.addresses) (hout : ip ∉ a.available) :
    (a.release ip).Sound ∧ (a.release ip).available ⊆ insert ip a.available := by
  rw [release]
  cases hread : a.ipToOffset ip with
  | none => exact ⟨h, Set.subset_insert ip a.available⟩
  | some o =>
    obtain ⟨hsound, havail⟩ := OffsetPool.Sound.release h hpool hout hread
    exact ⟨hsound, havail.subset⟩

theorem release_spec (h : a.Sound) (hwrap : a.NoWrap) (hpool : ip ∈ a.addresses) (hout : ip ∉ a.available) :
    (a.release ip).Sound ∧ (a.release ip).available = insert ip a.available := by
  obtain ⟨o, hle, hmax, hip⟩ := hpool
  have hread : a.ipToOffset ip = some o := by
    cases hip
    rw [NoWrap] at hwrap
    rw [ipToOffset_offsetToIp a (by omega), if_pos (by omega)]
  rw [release, hread]
  exact OffsetPool.Sound.release h ⟨o, hle, hmax, hip⟩ hout hread

def handedOut (a : IpAllocator) : Set (Block 4) := a.pool.handedOut fun o => some (a.offsetToIp o)

theorem handedOut_release (a : IpAllocator) (ip : Block 4) : (a.release ip).handedOut = a.handedOut := by
  unfold release
  split
  · exact OffsetPool.handedOut_release ..
  · rfl

theorem release_handedOut (h : a.Sound) (hout : ip ∈ a.handedOut) : (a.release ip).Sound := by
  unfold release
  split
  · rename_i o hread
    exact OffsetPool.Sound.release_handedOut h hout hread
  · exact h

theorem handedOut_allocate (h : a.Sound)
    (halloc : a.allocate picker = (a', some ip)) : a.handedOut ⊆ a'.handedOut ∧ ip ∈ a'.handedOut := by
  unfold allocate at halloc
  split at halloc
  · rename_i o hpick
    cases halloc
    obtain ⟨hle, hlt⟩ := OffsetPool.Sound.released h (picker.pick_mem hpick)
    exact ⟨Set.Subset.refl _, o, hle, hlt, rfl⟩
  · split at halloc
    · cases halloc
      exact ⟨OffsetPool.handedOut_advance .., a.pool.nextOffset, OffsetPool.Sound.two_le h, Nat.lt_succ_self _, rfl⟩
    · cases halloc

theorem available_allocate_release (h : a.Sound) (halloc : a.allocate picker = (a', some ip)) :
    (a'.release ip).available = a.available ↔ (a'.ipToOffset ip).isSome := by
  rcases allocate_spec h picker with hfull | ⟨b, ip', heq, hsound, haddr, hmem, havail⟩
  · cases hfull.symm.trans halloc
  · obtain ⟨rfl, hip⟩ := Prod.mk.inj (heq.symm.trans halloc)
    obtain rfl := Option.some.inj hip
    have hout : ip' ∉ b.available := fun hin => (havail ▸ hin).2 rfl
    cases hread : b.ipToOffset ip' with
    | none =>
      rw [release, hread]
      refine ⟨fun hsame => absurd (hsame ▸ hmem) hout, fun hsome => absurd hsome Bool.false_ne_true⟩
    | some o =>
      have hpool : ip' ∈ b.addresses := haddr ▸ h.available_subset hmem
      have hrelease : (b.release ip').available = insert ip' b.available := by
        rw [release, hread]
        exact (OffsetPool.Sound.release hsound hpool hout hread).2
      rw [hrelease, havail, Set.insert_sdiff_singleton, Set.insert_eq_of_mem hmem]
      exact iff_of_true rfl rfl

theorem ipToOffset_allocate (a : IpAllocator) (picker : Picker Nat) :
    (a.allocate picker).1.ipToOffset = a.ipToOffset := by
  unfold allocate
  split
  · rfl
  · split
    all_goals rfl

end IpAllocator

/-! ### IPv6 -/

namespace Ipv6Allocator

def addresses (a : Ipv6Allocator) : Set (Block 16) := a.pool.addresses a.offsetToIp

def available (a : Ipv6Allocator) : Set (Block 16) := a.pool.available a.offsetToIp

def Sound (a : Ipv6Allocator) : Prop := a.pool.Sound a.offsetToIp a.ipToOffset

variable {a : Ipv6Allocator} {ip : Block 16}

theorem ipToOffset_offsetToIp {o : Nat} (h : a.offsetToIp o = some ip) : a.ipToOffset ip = some o := by
  obtain ⟨hlt, heq⟩ := Option.ite_none_right_eq_some.mp h
  cases heq
  have htake : ((a.baseHigh.append (toBE 8 (ofBE a.baseLow.bytes + o))).bytes).take 8 = a.baseHigh.bytes := by
    rw [Block.bytes_append, List.take_left' (Block.length_bytes _)]
  have hdrop : ofBE (((a.baseHigh.append (toBE 8 (ofBE a.baseLow.bytes + o))).bytes).drop 8) =
      ofBE a.baseLow.bytes + o := by
    rw [Block.bytes_append, List.drop_left' (Block.length_bytes _), ofBE_toBE hlt]
  unfold ipToOffset
  rw [if_neg (not_not.mpr htake)]
  rw [hdrop, if_pos (Nat.le_add_right _ _), Nat.add_sub_cancel_left]

def shape (a : Ipv6Allocator) : Block 8 × Block 8 × Nat := (a.baseHigh, a.baseLow, a.pool.maxOffset)

theorem shape_allocate (a : Ipv6Allocator) (picker : Picker Nat) : (a.allocate picker).1.shape = a.shape := by
  unfold allocate
  split
  · rfl
  · split
    · split
      all_goals rfl
    · rfl

theorem shape_release (a : Ipv6Allocator) (ip : Block 16) : (a.release ip).shape = a.shape := by
  unfold release
  split
  · exact congrArg (fun n => (a.baseHigh, a.baseLow, n)) (OffsetPool.maxOffset_release ..)
  · rfl

variable {a' : Ipv6Allocator}

theorem offsetToIp_eq_of_shape (h : a'.shape = a.shape) : a'.offsetToIp = a.offsetToIp := by
  obtain ⟨hhigh, hrest⟩ := Prod.mk.inj h
  funext o
  unfold offsetToIp
  rw [hhigh, (Prod.mk.inj hrest).1]

theorem addresses_eq_of_shape (h : a'.shape = a.shape) : a'.addresses = a.addresses := by
  have hmax : a'.pool.maxOffset = a.pool.maxOffset := congrArg (fun x => x.2.2) h
  unfold addresses OffsetPool.addresses
  rw [offsetToIp_eq_of_shape h, hmax]

theorem addresses_release (a : Ipv6Allocator) (ip : Block 16) : (a.release ip).addresses = a.addresses :=
  addresses_eq_of_shape (a.shape_release ip)

theorem sound_mk (baseHigh baseLow : Block 8) (prefixLen : UInt8) (maxOffset : Nat) :
    (Ipv6Allocator.mk baseHigh baseLow prefixLen (.new maxOffset)).Sound := by
  refine OffsetPool.sound_new ?_ ?_
  · intro o o' a _ _ ha ha'
    exact Option.some.inj ((ipToOffset_offsetToIp ha).symm.trans (ipToOffset_offsetToIp ha'))
  · intro o o' a _ ha hread
    exact (Option.some.inj ((ipToOffset_offsetToIp ha).symm.trans hread)).symm

theorem sound_new (baseHigh baseLow : Block 8) (prefixLen : UInt8) :
    (Ipv6Allocator.new baseHigh baseLow prefixLen).Sound :=
  sound_mk ..

theorem allocate_spec (h : a.Sound) (picker : Picker Nat) :
    (a.allocate picker = (a, none)) ∨
      ∃ a' ip, a.allocate picker = (a', some ip) ∧ a'.Sound ∧ a'.addresses = a.addresses ∧
        ip ∈ a.available ∧ a'.available = a.available \ {ip} := by
  unfold allocate
  cases hpick : picker.pick a.pool.released with
  | some o =>
    right
    have hreleased := picker.pick_mem hpick
    -- a released offset was handed out, so it has an address
    obtain ⟨hle, hlt⟩ := OffsetPool.Sound.released h hreleased
    obtain ⟨ip, hip⟩ := Option.isSome_iff_exists.mp (OffsetPool.Sound.handed h hle hlt).2
    obtain ⟨hmem, hsound, havail⟩ := OffsetPool.Sound.reuse h hreleased hip
    exact ⟨_, ip, congrArg (Prod.mk _) hip, hsound, rfl, hmem, havail⟩
  | none =>
    by_cases hle : a.pool.nextOffset ≤ a.pool.maxOffset
    · rw [if_pos hle]
      cases hip : a.offsetToIp a.pool.nextOffset with
      | none => exact .inl rfl
      | some ip =>
        right
        obtain ⟨hmem, hsound, havail⟩ := OffsetPool.Sound.advance h hle hip
        exact ⟨_, _, rfl, hsound, rfl, hmem, havail⟩
    · left
      rw [if_neg hle]

theorem sound_allocate (h : a.Sound) (picker : Picker Nat) : (a.allocate picker).1.Sound := by
  rcases allocate_spec h picker with heq | ⟨a', ip, heq, hsound, -⟩
  · rwa [heq]
  · rwa [heq]

variable {picker : Picker Nat}

theorem allocate_none (hs : a.Sound) (h : a.allocate picker = (a', none)) : a' = a := by
  rcases allocate_spec hs picker with heq | ⟨b, ip, heq, -⟩
  · exact (Prod.mk.inj (h.symm.trans heq)).1
  · cases heq.symm.trans h

theorem release_spec (h : a.Sound) (hpool : ip ∈ a.addresses) (hout : ip ∉ a.available) :
    (a.release ip).Sound ∧ (a.release ip).available = insert ip a.available := by
  obtain ⟨o, hle, hmax, hip⟩ := hpool
  have hread := ipToOffset_offsetToIp hip
  rw [release, hread]
  exact OffsetPool.Sound.release h ⟨o, hle, hmax, hip⟩ hout hread

def handedOut (a : Ipv6Allocator) : Set (Block 16) := a.pool.handedOut a.offsetToIp

theorem handedOut_release (a : Ipv6Allocator) (ip : Block 16) : (a.release ip).handedOut = a.handedOut := by
  unfold release
  split
  · exact OffsetPool.handedOut_release ..
  · rfl

theorem release_handedOut (h : a.Sound) (hout : ip ∈ a.handedOut) : (a.release ip).Sound := by
  unfold release
  split
  · rename_i o hread
    exact OffsetPool.Sound.release_handedOut h hout hread
  · exact h

theorem handedOut_allocate (h : a.Sound)
    (halloc : a.allocate picker = (a', some ip)) : a.handedOut ⊆ a'.handedOut ∧ ip ∈ a'.handedOut := by
  unfold allocate at halloc
  split at halloc
  · rename_i o hpick
    obtain ⟨rfl, hip⟩ := Prod.mk.inj halloc
    obtain ⟨hle, hlt⟩ := OffsetPool.Sound.released h (picker.pick_mem hpick)
    exact ⟨Set.Subset.refl _, o, hle, hlt, hip⟩
  · split at halloc
    · split at halloc
      · rename_i hip
        cases halloc
        exact ⟨OffsetPool.handedOut_advance .., a.pool.nextOffset, OffsetPool.Sound.two_le h, Nat.lt_succ_self _, hip⟩
      · cases halloc
    · cases halloc

theorem available_allocate_release (h : a.Sound)
    (halloc : a.allocate picker = (a', some ip)) : (a'.release ip).available = a.available := by
  rcases allocate_spec h picker with hfull | ⟨b, ip', heq, hsound, haddr, hmem, havail⟩
  · cases hfull.symm.trans halloc
  · obtain ⟨rfl, hip⟩ := Prod.mk.inj (heq.symm.trans halloc)
    obtain rfl := Option.some.inj hip
    have hpool : ip' ∈ b.addresses := haddr ▸ h.available_subset hmem
    have hout : ip' ∉ b.available := fun hin => (havail ▸ hin).2 rfl
    rw [(release_spec hsound hpool hout).2, havail, Set.insert_sdiff_singleton, Set.insert_eq_of_mem hmem]

end Ipv6Allocator

end HpnVpn
