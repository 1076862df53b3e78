import HpnVpn.Bytes
import HpnVpn.Tables

/-! The cache of client randoms seen lately, which drops a repeated init before any expensive work. -/
namespace HpnVpn
open Wire Tables

/-- When each random was seen.  Times are nanoseconds of the monotonic clock. -/
structure HandshakeReplayCache where
  entries : Table (Block 32) Nat
  ttl : Nat
  maxEntries : Nat

namespace HandshakeReplayCache

def defaultTtl : Nat := 60 * 10 ^ 9
def defaultMaxEntries : Nat := 262144

def withParams (ttl maxEntries : Nat) : HandshakeReplayCache := ⟨∅, ttl, maxEntries⟩

def new : HandshakeReplayCache := withParams defaultTtl defaultMaxEntries

def len (c : HandshakeReplayCache) : Nat := c.entries.entries.length

/-- Above the configured size by a tenth, new randoms are refused. -/
def hardCap (c : HandshakeReplayCache) : Nat := min (c.maxEntries + c.maxEntries / 10) (2 ^ 64 - 1)

def sweep (c : HandshakeReplayCache) (now : Nat) : HandshakeReplayCache :=
  if c.maxEntries ≤ c.len then { c with entries := retain c.entries fun _ seen => now - seen < c.ttl } else c

def checkAndInsert (c : HandshakeReplayCache) (clientRandom : Block 32) (now : Nat) : HandshakeReplayCache × Bool :=
  let c := c.sweep now
  if (c.entries.lookup clientRandom).any fun seen => now - seen < c.ttl then (c, false)
  else if c.hardCap ≤ c.len ∧ clientRandom ∉ c.entries then (c, false)
  else ({ c with entries := c.entries.insert clientRandom now }, true)

/-! ### What the cache remembers -/

/-- Every random that was accepted less than the time to live before `clock` is in the cache. -/
structure Remembers (c : HandshakeReplayCache) (accepted : List (Block 32 × Nat)) (clock : Nat) : Prop where
  past : ∀ random t, (random, t) ∈ accepted → t ≤ clock
  recent : ∀ random t, (random, t) ∈ accepted → clock - t < c.ttl →
    ∃ seen, c.entries.lookup random = some seen ∧ t ≤ seen

variable {c : HandshakeReplayCache} {accepted : List (Block 32 × Nat)} {clock now : Nat}

theorem remembers_nil (c : HandshakeReplayCache) (clock : Nat) : c.Remembers [] clock :=
  ⟨fun _ _ h => absurd h List.not_mem_nil, fun _ _ h => absurd h List.not_mem_nil⟩

theorem ttl_sweep (c : HandshakeReplayCache) (now : Nat) : (c.sweep now).ttl = c.ttl := by
  unfold sweep
  split
  · rfl
  · rfl

theorem ttl_checkAndInsert (c : HandshakeReplayCache) (random : Block 32) (now : Nat) :
    (c.checkAndInsert random now).1.ttl = c.ttl := by
  unfold checkAndInsert
  dsimp only
  split
  · exact c.ttl_sweep now
  · split
    all_goals exact c.ttl_sweep now

theorem Remembers.mono (h : c.Remembers accepted clock) (hle : clock ≤ now) : c.Remembers accepted now := by
  refine ⟨fun random t hmem => (h.past random t hmem).trans hle, ?_⟩
  intro random t hmem hlt
  exact h.recent random t hmem (Nat.lt_of_le_of_lt (Nat.sub_le_sub_right hle t) hlt)

theorem Remembers.sweep (h : c.Remembers accepted clock) (hle : clock ≤ now) :
    (c.sweep now).Remembers accepted now := by
  refine ⟨(h.mono hle).past, ?_⟩
  intro random t hmem hlt
  rw [ttl_sweep] at hlt
  obtain ⟨seen, hseen, hge⟩ := (h.mono hle).recent random t hmem hlt
  refine ⟨seen, ?_, hge⟩
  unfold HandshakeReplayCache.sweep
  split
  · have hkeep : now - seen < c.ttl := by omega
    rw [lookup_retain, hseen, Option.filter_some, if_pos (decide_eq_true hkeep)]
  · exact hseen

theorem Remembers.expired_of_fresh (h : c.Remembers accepted clock) (hle : clock ≤ now) {random : Block 32}
    (hfresh : (c.checkAndInsert random now).2 = true) {t : Nat} (hmem : (random, t) ∈ accepted) :
    c.ttl ≤ now - t := by
  by_contra hlt
  have hswept := h.sweep hle
  obtain ⟨seen, hseen, hge⟩ := hswept.recent random t hmem (by rw [ttl_sweep]; omega)
  have hlive : (((c.sweep now).entries.lookup random).any fun seen => now - seen < (c.sweep now).ttl) = true := by
    rw [hseen, ttl_sweep]
    exact decide_eq_true (by omega)
  rw [checkAndInsert, if_pos hlive] at hfresh
  cases hfresh

theorem Remembers.checkAndInsert (h : c.Remembers accepted clock) (hle : clock ≤ now) (random : Block 32) :
    (c.checkAndInsert random now).1.Remembers
      (if (c.checkAndInsert random now).2 then accepted ++ [(random, now)] else accepted) now := by
  have hswept := h.sweep hle
  unfold HandshakeReplayCache.checkAndInsert
  dsimp only
  split
  · exact hswept
  split
  · exact hswept
  rw [if_pos rfl]
  constructor
  · intro r t hmem
    rcases List.mem_append.mp hmem with hold | hnew
    · exact hswept.past r t hold
    · cases List.mem_singleton.mp hnew
      exact Nat.le_refl now
  · intro r t hmem hlt
    by_cases hr : r = random
    · subst hr
      refine ⟨now, AList.lookup_insert _, ?_⟩
      rcases List.mem_append.mp hmem with hold | hnew
      · exact hswept.past r t hold
      · cases List.mem_singleton.mp hnew
        exact Nat.le_refl now
    · have hold : (r, t) ∈ accepted := by
        rcases List.mem_append.mp hmem with hold | hnew
        · exact hold
        · cases List.mem_singleton.mp hnew
          exact absurd rfl hr
      obtain ⟨seen, hseen, hge⟩ := hswept.recent r t hold hlt
      exact ⟨seen, (AList.lookup_insert_ne hr).trans hseen, hge⟩

end HandshakeReplayCache

end HpnVpn
