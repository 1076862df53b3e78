import Mathlib.Data.Set.Insert

/-! Leases of addresses from a pool.  A holder has at most one lease: an address, its owner, and whether the index
shows it.  The books are consistent if no address is leased twice or free while leased and the index shows just the
leases marked so; they balance if nothing of the pool is lost. -/
namespace Leases
open Function

structure Lease (α ι : Type) where
  addr : α
  owner : ι
  listed : Bool

variable {α ι H : Type}

structure Consistent (pool free : Set α) (lease : H → Option (Lease α ι)) (index : α → Option ι) : Prop where
  exclusive : ∀ {x y l k}, lease x = some l → lease y = some k → l.addr = k.addr → x = y
  in_pool : ∀ {x l}, lease x = some l → l.addr ∈ pool
  not_free : ∀ {x l}, lease x = some l → l.addr ∉ free
  index_iff : ∀ {a i}, index a = some i ↔ ∃ x l, lease x = some l ∧ l.addr = a ∧ l.owner = i ∧ l.listed = true

structure Balanced (pool free : Set α) (lease : H → Option (Lease α ι)) (index : α → Option ι) : Prop
    extends Consistent pool free lease index where
  covered : ∀ {a}, a ∈ pool → a ∉ free → ∃ x l, lease x = some l ∧ l.addr = a

theorem consistent_empty (pool free : Set α) : Consistent pool free (fun _ : H => none) fun _ => (none : Option ι) where
  exclusive h := nomatch h
  in_pool h := nomatch h
  not_free h := nomatch h
  index_iff := ⟨nofun, nofun⟩

theorem balanced_empty (pool : Set α) : Balanced pool pool (fun _ : H => none) fun _ => (none : Option ι) where
  toConsistent := consistent_empty pool pool
  covered ha hfree := absurd ha hfree

variable {pool free : Set α} {index : α → Option ι}

theorem Balanced.mem_free_iff {lease : H → Option (Lease α ι)}
    (h : Balanced pool free lease index) (hsub : free ⊆ pool) {a : α} :
    a ∈ free ↔ a ∈ pool ∧ ∀ {x l}, lease x = some l → l.addr ≠ a := by
  constructor
  · intro ha
    refine ⟨hsub ha, ?_⟩
    rintro x l hl rfl
    exact h.not_free hl ha
  · rintro ⟨hpool, hnot⟩
    by_contra hfree
    obtain ⟨x, l, hl, haddr⟩ := h.covered hpool hfree
    exact hnot hl haddr

theorem Balanced.leased_xor_free {lease : H → Option (Lease α ι)}
    (h : Balanced pool free lease index) {a : α} (ha : a ∈ pool) :
    Xor (∃! x, ∃ l, lease x = some l ∧ l.addr = a) (a ∈ free) := by
  by_cases hfree : a ∈ free
  · refine .inr ⟨hfree, ?_⟩
    rintro ⟨x, ⟨l, hl, rfl⟩, -⟩
    exact h.not_free hl hfree
  · obtain ⟨x, l, hl, haddr⟩ := h.covered ha hfree
    refine .inl ⟨⟨x, ⟨l, hl, haddr⟩, ?_⟩, hfree⟩
    rintro y ⟨k, hk, haddr'⟩
    exact h.exclusive hk hl (haddr'.trans haddr.symm)

/-- If holders lease for themselves and all leases are listed, the index is the inverse of the leases. -/
theorem Consistent.index_iff_lease {lease : ι → Option (Lease α ι)}
    (h : Consistent pool free lease index) (hown : ∀ {x l}, lease x = some l → l.owner = x ∧ l.listed = true)
    {a : α} {x : ι} : index a = some x ↔ ∃ l, lease x = some l ∧ l.addr = a := by
  rw [h.index_iff]
  constructor
  · rintro ⟨y, l, hl, haddr, hx, -⟩
    rw [(hown hl).1] at hx
    exact ⟨l, hx ▸ hl, haddr⟩
  · rintro ⟨l, hl, haddr⟩
    exact ⟨x, l, hl, haddr, hown hl⟩

section
variable [DecidableEq H]

theorem update_eq_some {β : Type} {f : H → Option β} {x y : H} {o : Option β} {b : β} :
    update f x o y = some b ↔ (y = x ∧ o = some b) ∨ (y ≠ x ∧ f y = some b) := by
  by_cases h : y = x
  · subst h
    simp
  · simp [h]

theorem update_none {β : Type} {f : H → Option β} {x : H} (h : f x = none) : update f x none = f := by
  rw [← h, update_eq_self]

namespace Consistent

variable {pool free : Set α} {lease : H → Option (Lease α ι)} {index : α → Option ι}

variable {x : H} {a : α}

theorem take (h : Consistent pool free lease index) (hx : lease x = none) (hfree : a ∈ free)
    (hpool : a ∈ pool) (i : ι) :
    Consistent pool (free \ {a}) (update lease x (some ⟨a, i, false⟩)) index := by
  have hother : ∀ {y l}, lease y = some l → y ≠ x ∧ l.addr ≠ a := by
    intro y l hl
    constructor
    · rintro rfl
      cases hx.symm.trans hl
    · rintro rfl
      exact h.not_free hl hfree
  constructor
  case exclusive =>
    intro y z l k hl hk haddr
    rcases update_eq_some.mp hl with ⟨hy, hl'⟩ | ⟨-, hl'⟩ <;> rcases update_eq_some.mp hk with ⟨hz, hk'⟩ | ⟨-, hk'⟩
    · exact hy.trans hz.symm
    · obtain rfl := Option.some.inj hl'
      exact absurd haddr.symm (hother hk').2
    · obtain rfl := Option.some.inj hk'
      exact absurd haddr (hother hl').2
    · exact h.exclusive hl' hk' haddr
  case in_pool =>
    intro y l hl
    rcases update_eq_some.mp hl with ⟨-, hl⟩ | ⟨-, hl⟩
    · cases hl
      exact hpool
    · exact h.in_pool hl
  case not_free =>
    intro y l hl
    rcases update_eq_some.mp hl with ⟨-, hl⟩ | ⟨-, hl⟩
    · cases hl
      exact fun hmem => hmem.2 rfl
    · exact fun hmem => h.not_free hl hmem.1
  case index_iff =>
    intro b j
    rw [h.index_iff]
    constructor
    · rintro ⟨y, l, hl, hrest⟩
      exact ⟨y, l, update_eq_some.mpr (.inr ⟨(hother hl).1, hl⟩), hrest⟩
    · rintro ⟨y, l, hl, hb, hj, hlisted⟩
      rcases update_eq_some.mp hl with ⟨-, hl⟩ | ⟨-, hl⟩
      · cases hl
        cases hlisted
      · exact ⟨y, l, hl, hb, hj, hlisted⟩

variable {i : ι}

theorem give (h : Consistent pool free lease index) (hx : lease x = some ⟨a, i, false⟩)
    {free' : Set α} (hsub : free' ⊆ insert a free) : Consistent pool free' (update lease x none) index := by
  have hold : ∀ {y l}, update lease x none y = some l → y ≠ x ∧ lease y = some l := fun hl =>
    (update_eq_some.mp hl).resolve_left fun hnone => nomatch hnone.2
  constructor
  case exclusive =>
    intro y z l k hl hk haddr
    exact h.exclusive (hold hl).2 (hold hk).2 haddr
  case in_pool =>
    intro y l hl
    exact h.in_pool (hold hl).2
  case not_free =>
    intro y l hl hmem
    obtain ⟨hne, hl⟩ := hold hl
    rcases hsub hmem with haddr | hmem
    · exact hne (h.exclusive hl hx haddr)
    · exact h.not_free hl hmem
  case index_iff =>
    intro b j
    rw [h.index_iff]
    constructor
    · rintro ⟨y, l, hl, hb, hj, hlisted⟩
      refine ⟨y, l, update_eq_some.mpr (.inr ⟨?_, hl⟩), hb, hj, hlisted⟩
      rintro rfl
      cases hx.symm.trans hl
      cases hlisted
    · rintro ⟨y, l, hl, hrest⟩
      exact ⟨y, l, (hold hl).2, hrest⟩

theorem move (h : Consistent pool free lease index) {y : H} {l : Lease α ι} (hx : lease x = some l)
    (hy : lease y = none) : Consistent pool free (update (update lease x none) y (some l)) index := by
  -- the holder of a lease before the move
  have hold : ∀ {z k}, update (update lease x none) y (some l) z = some k →
      (z = y ∧ lease x = some k) ∨ (z ≠ x ∧ lease z = some k) := by
    intro z k hk
    rcases update_eq_some.mp hk with ⟨hz, hk⟩ | ⟨-, hk⟩
    · exact .inl ⟨hz, hx.trans hk⟩
    · exact .inr ((update_eq_some.mp hk).resolve_left fun hnone => nomatch hnone.2)
  have hnew : ∀ {z k}, lease z = some k → ∃ z', update (update lease x none) y (some l) z' = some k := by
    intro z k hk
    by_cases hz : z = x
    · refine ⟨y, ?_⟩
      rw [update_self, ← hx, ← hz, hk]
    · refine ⟨z, update_eq_some.mpr (.inr ⟨?_, update_eq_some.mpr (.inr ⟨hz, hk⟩)⟩)⟩
      rintro rfl
      cases hy.symm.trans hk
  constructor
  case exclusive =>
    intro z z' k k' hk hk' haddr
    rcases hold hk with ⟨hz, hl⟩ | ⟨hz, hl⟩ <;> rcases hold hk' with ⟨hz', hl'⟩ | ⟨hz', hl'⟩
    · exact hz.trans hz'.symm
    · exact absurd (h.exclusive hl' hl haddr.symm) hz'
    · exact absurd (h.exclusive hl hl' haddr) hz
    · exact h.exclusive hl hl' haddr
  case in_pool =>
    intro z k hk
    rcases hold hk with ⟨-, hk⟩ | ⟨-, hk⟩
    all_goals exact h.in_pool hk
  case not_free =>
    intro z k hk
    rcases hold hk with ⟨-, hk⟩ | ⟨-, hk⟩
    all_goals exact h.not_free hk
  case index_iff =>
    intro b j
    rw [h.index_iff]
    constructor
    · rintro ⟨z, k, hk, hrest⟩
      obtain ⟨z', hk'⟩ := hnew hk
      exact ⟨z', k, hk', hrest⟩
    · rintro ⟨z, k, hk, hrest⟩
      rcases hold hk with ⟨-, hk⟩ | ⟨-, hk⟩
      · exact ⟨x, k, hk, hrest⟩
      · exact ⟨z, k, hk, hrest⟩

variable [DecidableEq α]

theorem relist (h : Consistent pool free lease index) {b : Bool} (hx : lease x = some ⟨a, i, b⟩) (b' : Bool) :
    Consistent pool free (update lease x (some ⟨a, i, b'⟩)) (update index a (if b' then some i else none)) := by
  have hold : ∀ {y l}, update lease x (some ⟨a, i, b'⟩) y = some l → ∃ k, lease y = some k ∧ k.addr = l.addr := by
    intro y l hl
    rcases update_eq_some.mp hl with ⟨rfl, hnew⟩ | ⟨-, hsame⟩
    · cases hnew
      exact ⟨_, hx, rfl⟩
    · exact ⟨l, hsame, rfl⟩
  constructor
  case exclusive =>
    intro y z l k hl hk haddr
    obtain ⟨l', hl', heq⟩ := hold hl
    obtain ⟨k', hk', heq'⟩ := hold hk
    exact h.exclusive hl' hk' (heq.trans (haddr.trans heq'.symm))
  case in_pool =>
    intro y l hl
    obtain ⟨l', hl', heq⟩ := hold hl
    exact heq ▸ h.in_pool hl'
  case not_free =>
    intro y l hl
    obtain ⟨l', hl', heq⟩ := hold hl
    exact heq ▸ h.not_free hl'
  case index_iff =>
    intro c j
    by_cases hc : c = a
    · subst hc
      rw [update_self]
      constructor
      · intro hj
        cases b' with
        | false => cases hj
        | true => exact ⟨x, _, update_self .., rfl, Option.some.inj hj, rfl⟩
      · rintro ⟨y, l, hl, haddr, hj, hlisted⟩
        obtain ⟨k, hk, heq⟩ := hold hl
        obtain rfl := h.exclusive hk hx (heq.trans haddr)
        rw [update_self] at hl
        cases hl
        rw [show b' = true from hlisted, if_pos rfl]
        exact congrArg some hj
    · rw [update_of_ne hc, h.index_iff]
      constructor
      · rintro ⟨y, l, hl, haddr, hrest⟩
        refine ⟨y, l, update_eq_some.mpr (.inr ⟨?_, hl⟩), haddr, hrest⟩
        rintro rfl
        cases hx.symm.trans hl
        exact hc haddr.symm
      · rintro ⟨y, l, hl, haddr, hrest⟩
        rcases update_eq_some.mp hl with ⟨-, hl⟩ | ⟨-, hl⟩
        · cases hl
          exact absurd haddr.symm hc
        · exact ⟨y, l, hl, haddr, hrest⟩

theorem list (h : Consistent pool free lease index) {b : Bool} (hx : lease x = some ⟨a, i, b⟩) :
    Consistent pool free (update lease x (some ⟨a, i, true⟩)) (update index a (some i)) :=
  h.relist hx true

theorem unlist (h : Consistent pool free lease index) {b : Bool} (hx : lease x = some ⟨a, i, b⟩) :
    Consistent pool free (update lease x (some ⟨a, i, false⟩)) (update index a none) :=
  h.relist hx false

end Consistent

namespace Balanced

variable {pool free : Set α} {lease : H → Option (Lease α ι)} {index : α → Option ι}

theorem takeListed [DecidableEq α] (h : Balanced pool free lease index) {x : H} (hx : lease x = none) {a : α}
    (hfree : a ∈ free) (hpool : a ∈ pool) (i : ι) :
    Balanced pool (free \ {a}) (update lease x (some ⟨a, i, true⟩)) (update index a (some i)) where
  toConsistent := by
    have hlisted := (h.toConsistent.take hx hfree hpool i).list (update_self ..)
    rwa [update_idem] at hlisted
  covered := by
    intro b hb hnot
    by_cases hba : b = a
    · exact ⟨x, _, update_self .., hba.symm⟩
    · obtain ⟨y, l, hl, haddr⟩ := h.covered hb fun hmem => hnot ⟨hmem, hba⟩
      refine ⟨y, l, update_eq_some.mpr (.inr ⟨?_, hl⟩), haddr⟩
      rintro rfl
      cases hx.symm.trans hl

theorem giveListed [DecidableEq α] (h : Balanced pool free lease index) {x : H} {a : α} {i : ι} {b : Bool}
    (hx : lease x = some ⟨a, i, b⟩) :
    Balanced pool (insert a free) (update lease x none) (update index a none) where
  toConsistent := by
    have hgiven := (h.toConsistent.unlist hx).give (update_self ..) (Set.Subset.refl _)
    rwa [update_idem] at hgiven
  covered := by
    intro b hb hnot
    obtain ⟨y, l, hl, haddr⟩ := h.covered hb fun hmem => hnot (.inr hmem)
    refine ⟨y, l, update_eq_some.mpr (.inr ⟨?_, hl⟩), haddr⟩
    rintro rfl
    cases hx.symm.trans hl
    exact hnot (.inl haddr.symm)

end Balanced

end

end Leases
