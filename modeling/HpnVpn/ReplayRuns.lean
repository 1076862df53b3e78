import HpnVpn.HandshakeReplay
import HpnVpn.Runs

/-! The cache of client randoms over runs: it stores what was accepted lately and nothing else. -/
namespace HpnVpn
open Wire Tables Runs

namespace HandshakeReplayCache
variable {c : HandshakeReplayCache} {accepted : List (Block 32 × Nat)} {clock now : Nat} {random : Block 32}

/-- Every entry is a random that was accepted, with its time, and there are no more than the hard cap allows. -/
structure Recorded (c : HandshakeReplayCache) (accepted : List (Block 32 × Nat)) : Prop where
  entry : ∀ random seen, c.entries.lookup random = some seen → (random, seen) ∈ accepted
  len_le : c.len ≤ c.hardCap

theorem maxEntries_sweep (c : HandshakeReplayCache) (now : Nat) : (c.sweep now).maxEntries = c.maxEntries := by
  unfold sweep
  split <;> rfl

theorem maxEntries_checkAndInsert (c : HandshakeReplayCache) (random : Block 32) (now : Nat) :
    (c.checkAndInsert random now).1.maxEntries = c.maxEntries := by
  rw [← c.maxEntries_sweep now]
  unfold checkAndInsert
  dsimp only
  split
  · rfl
  · split <;> rfl

theorem hardCap_sweep (c : HandshakeReplayCache) (now : Nat) : (c.sweep now).hardCap = c.hardCap := by
  rw [hardCap, maxEntries_sweep, hardCap]

theorem len_sweep_le (c : HandshakeReplayCache) (now : Nat) : (c.sweep now).len ≤ c.len := by
  unfold sweep
  split
  · exact List.length_filter_le _ _
  · exact le_rfl

theorem Recorded.sweep (h : c.Recorded accepted) (now : Nat) : (c.sweep now).Recorded accepted := by
  refine ⟨?_, (c.len_sweep_le now).trans (h.len_le.trans_eq (c.hardCap_sweep now).symm)⟩
  intro random seen hseen
  unfold HandshakeReplayCache.sweep at hseen
  split at hseen
  · rw [lookup_retain] at hseen
    exact h.entry random seen (Option.filter_eq_some_iff.mp hseen).1
  · exact h.entry random seen hseen

theorem Recorded.insert (h : c.Recorded accepted) (hroom : ¬(c.hardCap ≤ c.len ∧ random ∉ c.entries)) (now : Nat) :
    Recorded { c with entries := c.entries.insert random now } (accepted ++ [(random, now)]) := by
  constructor
  · intro random' seen hseen
    by_cases hne : random' = random
    · subst hne
      rw [AList.lookup_insert] at hseen
      cases hseen
      exact List.mem_append_right _ List.mem_cons_self
    · rw [AList.lookup_insert_ne hne] at hseen
      exact List.mem_append_left _ (h.entry random' seen hseen)
  · show (c.entries.insert random now).entries.length ≤ c.hardCap
    rw [← List.length_map Sigma.fst]
    by_cases hmem : random ∈ c.entries
    · obtain ⟨seen, hseen⟩ := Option.isSome_iff_exists.mp (AList.lookup_isSome.mpr hmem)
      exact (keys_length_insert_of_some hseen now).trans_le ((List.length_map _).trans_le h.len_le)
    · have hlt : c.len < c.hardCap := Nat.lt_of_not_le fun hle => hroom ⟨hle, hmem⟩
      have hlen : (c.entries.insert random now).keys.length = c.entries.keys.length + 1 :=
        keys_length_insert (AList.lookup_eq_none.mpr hmem) now
      exact hlen.trans_le (Nat.succ_le_of_lt ((List.length_map _).trans_lt hlt))

theorem Recorded.checkAndInsert (h : c.Recorded accepted) (random : Block 32) (now : Nat) :
    (c.checkAndInsert random now).1.Recorded
      (if (c.checkAndInsert random now).2 then accepted ++ [(random, now)] else accepted) := by
  have hswept := h.sweep now
  unfold HandshakeReplayCache.checkAndInsert
  dsimp only
  split
  · exact hswept
  split
  · exact hswept
  · next hroom => exact hswept.insert hroom now

theorem Recorded.refused (h : c.Recorded accepted) (hmax : c.maxEntries < 2 ^ 64)
    (hrefused : (c.checkAndInsert random now).2 = false) :
    (∃ t, (random, t) ∈ accepted ∧ now - t < c.ttl) ∨
      ∃ others : Finset (Block 32), random ∉ others ∧ c.hardCap ≤ others.card ∧
        ∀ other ∈ others, ∃ t, (other, t) ∈ accepted ∧ now - t < c.ttl := by
  have hswept := h.sweep now
  unfold HandshakeReplayCache.checkAndInsert at hrefused
  dsimp only at hrefused
  split at hrefused
  case isTrue hlive =>
      obtain ⟨seen, hseen, hlt⟩ := Option.any_eq_true _ _ |>.mp hlive
      rw [ttl_sweep] at hlt
      exact .inl ⟨seen, hswept.entry random seen hseen, of_decide_eq_true hlt⟩
  case isFalse =>
      split at hrefused
      case isFalse => cases hrefused
      case isTrue hfull =>
          obtain ⟨hcap, habsent⟩ := hfull
          -- the cache was swept, because the hard cap is not below the soft one
          have hsoft : c.maxEntries ≤ c.len := by
            have hle := c.len_sweep_le now
            rw [hardCap_sweep, hardCap] at hcap
            omega
          refine .inr ⟨(c.sweep now).entries.keys.toFinset, ?_, ?_, ?_⟩
          · rwa [List.mem_toFinset, ← AList.mem_keys]
          · rw [List.toFinset_card_of_nodup (c.sweep now).entries.keys_nodup, ← c.hardCap_sweep now]
            exact hcap.trans_eq (List.length_map _).symm
          · intro other hother
            rw [List.mem_toFinset, ← AList.mem_keys, ← AList.lookup_isSome] at hother
            obtain ⟨seen, hseen⟩ := Option.isSome_iff_exists.mp hother
            refine ⟨seen, hswept.entry other seen hseen, ?_⟩
            rw [HandshakeReplayCache.sweep, if_pos hsoft, lookup_retain] at hseen
            exact of_decide_eq_true (Option.filter_eq_some_iff.mp hseen).2

end HandshakeReplayCache

/-- The cache and the randoms it accepted, each with its time. -/
structure ReplayRun where
  cache : HandshakeReplayCache
  accepted : List (Block 32 × Nat)
  clock : Nat

/-- A client random and how long after the one before it comes. -/
structure RandomArrival where
  random : Block 32
  wait : Nat

namespace ReplayRun

def start (ttl : Nat) (maxEntries : UInt64) : ReplayRun := ⟨.withParams ttl maxEntries.toNat, [], 0⟩

def step (r : ReplayRun) (a : RandomArrival) : ReplayRun where
  cache := (r.cache.checkAndInsert a.random (r.clock + a.wait)).1
  accepted := if (r.cache.checkAndInsert a.random (r.clock + a.wait)).2 then r.accepted ++ [(a.random, r.clock + a.wait)]
    else r.accepted
  clock := r.clock + a.wait

/-- What the cache promises after every arrival. -/
structure Guards (ttl maxEntries : Nat) (r : ReplayRun) : Prop where
  /-- No random was accepted twice within the time to live. -/
  once : r.accepted.Pairwise fun a b => a.1 = b.1 → ttl ≤ b.2 - a.2
  bounded : r.cache.len ≤ maxEntries + maxEntries / 10
  /-- A random that was not accepted within the time to live is refused only if as many others were as the cache may
  hold. -/
  refused : ∀ a : RandomArrival, (r.cache.checkAndInsert a.random (r.clock + a.wait)).2 = false →
    (∀ t, (a.random, t) ∈ r.accepted → ttl ≤ r.clock + a.wait - t) →
    ∃ others : Finset (Block 32), a.random ∉ others ∧ min (maxEntries + maxEntries / 10) (2 ^ 64 - 1) ≤ others.card ∧
      ∀ other ∈ others, ∃ t, (other, t) ∈ r.accepted ∧ r.clock + a.wait - t < ttl

structure Sound (ttl maxEntries : Nat) (r : ReplayRun) : Prop where
  ttl_eq : r.cache.ttl = ttl
  maxEntries_eq : r.cache.maxEntries = maxEntries
  recorded : r.cache.Recorded r.accepted
  remembers : r.cache.Remembers r.accepted r.clock
  once : r.accepted.Pairwise fun a b => a.1 = b.1 → ttl ≤ b.2 - a.2

variable {ttl maxEntries : Nat}

theorem Sound.step (r : ReplayRun) (a : RandomArrival) (h : r.Sound ttl maxEntries) :
    (r.step a).Sound ttl maxEntries where
  ttl_eq := (r.cache.ttl_checkAndInsert _ _).trans h.ttl_eq
  maxEntries_eq := (r.cache.maxEntries_checkAndInsert _ _).trans h.maxEntries_eq
  recorded := h.recorded.checkAndInsert a.random _
  remembers := h.remembers.checkAndInsert (Nat.le_add_right _ _) a.random
  once := by
    rw [ReplayRun.step]
    split
    case isFalse => exact h.once
    case isTrue hfresh =>
      rw [List.pairwise_append]
      refine ⟨h.once, List.pairwise_singleton _ _, ?_⟩
      rintro ⟨random, t⟩ hmem b hb rfl
      obtain rfl := List.mem_singleton.mp hb
      exact h.ttl_eq ▸ h.remembers.expired_of_fresh (Nat.le_add_right _ _) hfresh hmem

theorem Sound.guards {r : ReplayRun} (h : r.Sound ttl maxEntries) (hmax : maxEntries < 2 ^ 64) :
    r.Guards ttl maxEntries := by
  obtain ⟨rfl, rfl, hrecorded, -, honce⟩ := h
  refine ⟨honce, hrecorded.len_le.trans (Nat.min_le_left _ _), ?_⟩
  intro a hrefused hexpired
  obtain ⟨t, hmem, hlt⟩ | hothers := hrecorded.refused hmax hrefused
  · exact absurd (hexpired t hmem) (Nat.not_le.mpr hlt)
  · exact hothers

/-- After any arrivals no random was accepted twice within the time to live, the cache is within its hard cap, and a new
random is refused only if the cap is reached by others that are live. -/
theorem guards_exec (ttl : Nat) (maxEntries : UInt64) (arrivals : List RandomArrival) :
    (exec step (start ttl maxEntries) arrivals).Guards ttl maxEntries.toNat := by
  have hstart : (start ttl maxEntries).Sound ttl maxEntries.toNat :=
    ⟨rfl, rfl, ⟨nofun, Nat.zero_le _⟩, HandshakeReplayCache.remembers_nil .., .nil⟩
  exact (exec_invariant Sound.step arrivals _ hstart).guards maxEntries.toNat_lt

end ReplayRun

end HpnVpn
