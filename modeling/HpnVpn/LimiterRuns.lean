import HpnVpn.FixedWindow
import HpnVpn.RateLimit
import HpnVpn.Runs

/-! Sequences of requests to the handshake limiter, with its clean-ups, against the log of those allowed. -/
namespace HpnVpn
open Wire Tables Runs FixedWindow HandshakeRateLimiter

def IpAddr.SameNetwork : IpAddr → IpAddr → Prop
  | v4 a, v4 b => a = b
  | v6 a, v6 b => a.bytes.take 8 = b.bytes.take 8
  | _, _ => False

instance : (a b : IpAddr) → Decidable (a.SameNetwork b)
  | .v4 a, .v4 b => inferInstanceAs (Decidable (a = b))
  | .v6 a, .v6 b => inferInstanceAs (Decidable (a.bytes.take 8 = b.bytes.take 8))
  | .v4 _, .v6 _ => isFalse id
  | .v6 _, .v4 _ => isFalse id

theorem bytes_fit_take (a : Block 16) :
    (Block.fit 16 (a.bytes.take 8)).bytes = a.bytes.take 8 ++ List.replicate 8 0 := by
  have hlength : (a.bytes.take 8).length = 8 := by simp [a.length_eq]
  show (a.bytes.take 8 ++ List.replicate 16 0).take 16 = _
  rw [List.take_append, hlength, List.take_of_length_le (by omega), List.take_replicate]
  rfl

theorem rateLimitKey_eq_iff {a b : IpAddr} : rateLimitKey a = rateLimitKey b ↔ a.SameNetwork b := by
  cases a with
  | v4 a =>
    cases b with
    | v4 b => exact IpAddr.v4.injEq a b ▸ Iff.rfl
    | v6 b => exact ⟨fun h => IpAddr.noConfusion h, False.elim⟩
  | v6 a =>
    cases b with
    | v4 b => exact ⟨fun h => IpAddr.noConfusion h, False.elim⟩
    | v6 b =>
      constructor
      · intro h
        have hbytes := congrArg Block.bytes (IpAddr.v6.inj h)
        rw [bytes_fit_take, bytes_fit_take] at hbytes
        exact List.append_cancel_right hbytes
      · intro h
        exact congrArg (fun bytes => IpAddr.v6 (.fit 16 bytes)) h

namespace HandshakeRateLimiter

variable {l : HandshakeRateLimiter} {key : IpAddr} {now : Nat} {entry : RateLimitEntry}

def openEntry (l : HandshakeRateLimiter) (key : IpAddr) (now : Nat) : Option RateLimitEntry :=
  (l.requests.lookup key).filter fun entry => now - entry.windowStart ≤ l.window

@[simp] theorem window_maybeCleanup (l : HandshakeRateLimiter) (now : Nat) :
    (l.maybeCleanup now).window = l.window := by
  unfold maybeCleanup
  split <;> rfl

@[simp] theorem maxPerWindow_maybeCleanup (l : HandshakeRateLimiter) (now : Nat) :
    (l.maybeCleanup now).maxPerWindow = l.maxPerWindow := by
  unfold maybeCleanup
  split <;> rfl

theorem lookup_maybeCleanup (l : HandshakeRateLimiter) (key : IpAddr) (now : Nat) :
    (l.maybeCleanup now).requests.lookup key = l.requests.lookup key ∨
      (l.maybeCleanup now).requests.lookup key = l.openEntry key now := by
  unfold maybeCleanup
  split
  · exact .inr lookup_retain
  · exact .inl rfl

theorem openEntry_cleanup {later : Nat} (h : now ≤ later) :
    (l.cleanup now).openEntry key later = l.openEntry key later := by
  unfold openEntry cleanup
  rw [lookup_retain, Option.filter_filter]
  congr 1
  funext entry
  rw [Bool.eq_iff_iff, Bool.and_eq_true, decide_eq_true_eq, decide_eq_true_eq]
  dsimp only
  omega

theorem openEntry_maybeCleanup_of_le {later : Nat} (h : now ≤ later) :
    (l.maybeCleanup now).openEntry key later = l.openEntry key later := by
  unfold maybeCleanup
  split
  · exact openEntry_cleanup h
  · rfl

@[simp] theorem openEntry_maybeCleanup : (l.maybeCleanup now).openEntry key now = l.openEntry key now :=
  openEntry_maybeCleanup_of_le le_rfl

theorem openEntry_eq_some : l.openEntry key now = some entry ↔
    l.requests.lookup key = some entry ∧ now - entry.windowStart ≤ l.window := by
  rw [openEntry, Option.filter_eq_some_iff, decide_eq_true_eq]

theorem allow_cases (l : HandshakeRateLimiter) (addr : IpAddr) (now : Nat) :
    ((l.allow addr now).2 = false ∧
      ((∀ key, (l.allow addr now).1.requests.lookup key = (l.maybeCleanup now).requests.lookup key) ∨
        l.maxPerWindow = 0)) ∨
    ((l.allow addr now).2 = true ∧ l.openEntry (rateLimitKey addr) now = none ∧
      (l.allow addr now).1.requests = (l.maybeCleanup now).requests.insert (rateLimitKey addr) ⟨1, now⟩) ∨
    (∃ entry, (l.allow addr now).2 = true ∧ l.openEntry (rateLimitKey addr) now = some entry ∧
      entry.count < l.maxPerWindow ∧
      (l.allow addr now).1.requests =
        (l.maybeCleanup now).requests.insert (rateLimitKey addr) { entry with count := entry.count + 1 }) := by
  rw [← openEntry_maybeCleanup, ← maxPerWindow_maybeCleanup l now]
  unfold allow
  dsimp only
  generalize l.maybeCleanup now = l
  generalize rateLimitKey addr = key
  split
  · exact .inl ⟨rfl, .inl fun _ => rfl⟩
  cases hlookup : l.requests.lookup key with
  | none =>
    have hopen : l.openEntry key now = none := by
      rw [openEntry, hlookup]
      rfl
    dsimp only [Option.getD_none]
    rw [if_neg (by omega)]
    split
    · exact .inl ⟨rfl, .inr (by omega)⟩
    · exact .inr (.inl ⟨rfl, hopen, rfl⟩)
  | some entry =>
    dsimp only [Option.getD_some]
    split
    · have hopen : l.openEntry key now = none := by
        rw [openEntry, hlookup]
        exact Option.filter_some_neg (decide_eq_false (by omega))
      exact .inr (.inl ⟨rfl, hopen, rfl⟩)
    · split
      · refine .inl ⟨rfl, .inl ?_⟩
        intro k
        by_cases hk : k = key
        · rw [hk, AList.lookup_insert, hlookup]
        · exact AList.lookup_insert_ne hk
      · exact .inr (.inr ⟨entry, rfl, openEntry_eq_some.mpr ⟨hlookup, by omega⟩, by omega, rfl⟩)

@[simp] theorem window_allow (l : HandshakeRateLimiter) (addr : IpAddr) (now : Nat) :
    (l.allow addr now).1.window = l.window := by
  rw [← window_maybeCleanup l now]
  unfold allow
  dsimp only
  split_ifs <;> rfl

@[simp] theorem maxPerWindow_allow (l : HandshakeRateLimiter) (addr : IpAddr) (now : Nat) :
    (l.allow addr now).1.maxPerWindow = l.maxPerWindow := by
  rw [← maxPerWindow_maybeCleanup l now]
  unfold allow
  dsimp only
  split_ifs <;> rfl

end HandshakeRateLimiter

/-- The limiter and the requests it allowed. -/
structure LimiterRun where
  limiter : HandshakeRateLimiter
  allowed : List (Event IpAddr)
  clock : Nat

namespace LimiterRun

def start (maxPerMinute maxTrackedIps now : Nat) : LimiterRun := ⟨.withLimits maxPerMinute maxTrackedIps now, [], now⟩

def step (r : LimiterRun) (request : Event IpAddr) : LimiterRun :=
  let (limiter, allowed) := r.limiter.allow request.item request.time
  ⟨limiter, if allowed then request :: r.allowed else r.allowed, request.time⟩

def InOrder (r : LimiterRun) (request : Event IpAddr) : Prop := r.clock ≤ request.time

def allowedTo (r : LimiterRun) (addr : IpAddr) : List (Event IpAddr) :=
  r.allowed.filter fun request => request.item.SameNetwork addr

/-- No network was allowed more than the limit within any minute. -/
def Limited (maxPerMinute : Nat) (r : LimiterRun) : Prop :=
  ∀ addr first, (span first HandshakeRateLimiter.rateLimitWindow (r.allowedTo addr)).length ≤ maxPerMinute

/-- A request that finds no open window finds no request of its network that was allowed within the last minute. -/
def Timely (r : LimiterRun) (request : Event IpAddr) : Prop :=
  r.limiter.openEntry (rateLimitKey request.item) request.time = none →
    ∀ earlier ∈ r.allowedTo request.item, earlier.time + HandshakeRateLimiter.rateLimitWindow < request.time

instance (r : LimiterRun) (request : Event IpAddr) : Decidable (r.InOrder request) :=
  inferInstanceAs (Decidable (r.clock ≤ request.time))

instance (r : LimiterRun) (request : Event IpAddr) : Decidable (r.Timely request) :=
  inferInstanceAs (Decidable (_ → ∀ earlier ∈ r.allowedTo request.item, _))

/-- An entry counts what was allowed in its window, and every minute that ends later is within it. -/
structure Counts (maxPerMinute : Nat) (log : List (Event IpAddr)) (clock : Nat) (entry : RateLimitEntry) : Prop where
  recent : ∃ w : Window IpAddr, w.start = entry.windowStart ∧ w.events.length = entry.count ∧
    Recent HandshakeRateLimiter.rateLimitWindow log w
  le_max : entry.count ≤ maxPerMinute
  start_le : entry.windowStart ≤ clock

structure Sound (maxPerMinute : Nat) (r : LimiterRun) : Prop where
  window_eq : r.limiter.window = HandshakeRateLimiter.rateLimitWindow
  max_eq : r.limiter.maxPerWindow = maxPerMinute
  counts : ∀ addr entry, r.limiter.requests.lookup (rateLimitKey addr) = some entry →
    Counts maxPerMinute (r.allowedTo addr) r.clock entry
  limited : r.Limited maxPerMinute

variable {maxPerMinute : Nat} {r : LimiterRun} {request : Event IpAddr} {addr : IpAddr}

theorem sound_start (maxPerMinute maxTrackedIps now : Nat) :
    (start maxPerMinute maxTrackedIps now).Sound maxPerMinute where
  window_eq := rfl
  max_eq := rfl
  counts := fun _ _ h => nomatch h
  limited := fun _ _ => Nat.zero_le _

theorem allowedTo_congr {a b : IpAddr} (h : rateLimitKey a = rateLimitKey b) : r.allowedTo a = r.allowedTo b := by
  apply List.filter_congr
  intro request _
  rw [decide_eq_decide, ← rateLimitKey_eq_iff, ← rateLimitKey_eq_iff, h]

theorem allowedTo_step_self (h : (r.limiter.allow request.item request.time).2 = true) :
    (r.step request).allowedTo request.item = request :: r.allowedTo request.item := by
  have hself : request.item.SameNetwork request.item := rateLimitKey_eq_iff.mp rfl
  unfold allowedTo step
  dsimp only
  rw [if_pos h]
  exact List.filter_cons_of_pos (decide_eq_true hself)

theorem allowedTo_step_of_ne (h : (r.limiter.allow request.item request.time).2 = true →
    rateLimitKey request.item ≠ rateLimitKey addr) : (r.step request).allowedTo addr = r.allowedTo addr := by
  unfold allowedTo step
  dsimp only
  split
  · rename_i hallowed
    rw [List.filter_cons_of_neg]
    simpa only [decide_eq_true_eq, ← rateLimitKey_eq_iff] using h hallowed
  · rfl

theorem Counts.limited {log : List (Event IpAddr)} {entry : RateLimitEntry} {clock : Nat}
    (h : Counts maxPerMinute (request :: log) clock entry) (hclock : clock ≤ request.time)
    (hlog : ∀ first, (span first HandshakeRateLimiter.rateLimitWindow log).length ≤ maxPerMinute) (first : Nat) :
    (span first HandshakeRateLimiter.rateLimitWindow (request :: log)).length ≤ maxPerMinute := by
  by_cases hlate : request.time ≤ first + HandshakeRateLimiter.rateLimitWindow
  · obtain ⟨w, hstart, hcount, hrecent⟩ := h.recent
    have hstart' := h.start_le
    have hspan : (span first HandshakeRateLimiter.rateLimitWindow (request :: log)).Sublist w.events :=
      hrecent.span_sublist (by omega)
    calc (span first HandshakeRateLimiter.rateLimitWindow (request :: log)).length ≤ w.events.length := hspan.length_le
      _ = entry.count := hcount
      _ ≤ maxPerMinute := h.le_max
  · rw [span, List.filter_cons_of_neg (by simp; omega)]
    exact hlog first

theorem Sound.counts_allowed (h : r.Sound maxPerMinute) (hmax : 0 < maxPerMinute) (hclock : r.clock ≤ request.time)
    (htimely : r.Timely request) (hallowed : (r.limiter.allow request.item request.time).2 = true) :
    ∃ entry, (r.limiter.allow request.item request.time).1.requests =
        (r.limiter.maybeCleanup request.time).requests.insert (rateLimitKey request.item) entry ∧
      Counts maxPerMinute (request :: r.allowedTo request.item) request.time entry := by
  obtain ⟨hrefused, -⟩ | ⟨-, hopen, hrequests⟩ | ⟨entry, -, hopen, hcount, hrequests⟩ :=
    r.limiter.allow_cases request.item request.time
  · exact absurd (hrefused.symm.trans hallowed) Bool.false_ne_true
  · exact ⟨_, hrequests, ⟨_, rfl, rfl, (recent_new (htimely hopen)).push request⟩, hmax, le_rfl⟩
  · have hcounts := h.counts request.item entry (openEntry_eq_some.mp hopen).1
    obtain ⟨w, hstart, hevents, hrecent⟩ := hcounts.recent
    refine ⟨_, hrequests, ⟨w.push request, hstart, ?_, hrecent.push request⟩, ?_, hcounts.start_le.trans hclock⟩
    · rw [Window.push, List.length_cons, hevents]
    · rw [h.max_eq] at hcount
      exact hcount

theorem Sound.counts_cleanup (h : r.Sound maxPerMinute) (hclock : r.clock ≤ request.time) {entry : RateLimitEntry}
    (hlookup : (r.limiter.maybeCleanup request.time).requests.lookup (rateLimitKey addr) = some entry) :
    Counts maxPerMinute (r.allowedTo addr) request.time entry := by
  have hold : r.limiter.requests.lookup (rateLimitKey addr) = some entry := by
    rcases r.limiter.lookup_maybeCleanup (rateLimitKey addr) request.time with hsame | hopen
    · exact hsame.symm.trans hlookup
    · exact (openEntry_eq_some.mp (hopen.symm.trans hlookup)).1
  have hcounts := h.counts addr entry hold
  exact ⟨hcounts.recent, hcounts.le_max, hcounts.start_le.trans hclock⟩

theorem Sound.step (h : r.Sound maxPerMinute) (hmax : 0 < maxPerMinute) (hclock : r.InOrder request)
    (htimely : r.Timely request) : (r.step request).Sound maxPerMinute := by
  have hwindow : (r.step request).limiter.window = HandshakeRateLimiter.rateLimitWindow :=
    (r.limiter.window_allow request.item request.time).trans h.window_eq
  have hlimit : (r.step request).limiter.maxPerWindow = maxPerMinute :=
    (r.limiter.maxPerWindow_allow request.item request.time).trans h.max_eq
  cases hallowed : (r.limiter.allow request.item request.time).2 with
  | false =>
    have hlog : ∀ addr, (r.step request).allowedTo addr = r.allowedTo addr := by
      intro addr
      exact allowedTo_step_of_ne fun htrue => absurd (hallowed.symm.trans htrue) Bool.false_ne_true
    have hlookup : ∀ key, (r.step request).limiter.requests.lookup key =
        (r.limiter.maybeCleanup request.time).requests.lookup key := by
      obtain ⟨-, hsame | hzero⟩ | ⟨htrue, -⟩ | ⟨_, htrue, -⟩ := r.limiter.allow_cases request.item request.time
      · exact hsame
      · exact absurd (h.max_eq.symm.trans hzero) (Nat.ne_of_gt hmax)
      all_goals exact absurd (hallowed.symm.trans htrue) Bool.false_ne_true
    refine ⟨hwindow, hlimit, ?_, ?_⟩
    · intro addr entry hentry
      rw [hlookup] at hentry
      rw [hlog]
      exact h.counts_cleanup hclock hentry
    · intro addr first
      rw [hlog]
      exact h.limited addr first
  | true =>
    obtain ⟨counted, hrequests, hcounts⟩ := h.counts_allowed hmax hclock htimely hallowed
    have hself : ∀ addr, rateLimitKey addr = rateLimitKey request.item →
        (r.step request).allowedTo addr = request :: r.allowedTo request.item := by
      intro addr hkey
      rw [allowedTo_congr hkey, allowedTo_step_self hallowed]
    have hother : ∀ addr, rateLimitKey addr ≠ rateLimitKey request.item →
        (r.step request).allowedTo addr = r.allowedTo addr := by
      intro addr hkey
      exact allowedTo_step_of_ne fun _ => Ne.symm hkey
    refine ⟨hwindow, hlimit, ?_, ?_⟩
    · intro addr entry hentry
      replace hentry : ((r.limiter.allow request.item request.time).1.requests).lookup (rateLimitKey addr) =
        some entry := hentry
      rw [hrequests] at hentry
      by_cases hkey : rateLimitKey addr = rateLimitKey request.item
      · rw [hkey, AList.lookup_insert] at hentry
        rw [hself addr hkey, ← Option.some.inj hentry]
        exact hcounts
      · rw [AList.lookup_insert_ne hkey] at hentry
        rw [hother addr hkey]
        exact h.counts_cleanup hclock hentry
    · intro addr first
      by_cases hkey : rateLimitKey addr = rateLimitKey request.item
      · rw [hself addr hkey]
        exact hcounts.limited le_rfl (h.limited request.item) first
      · rw [hother addr hkey]
        exact h.limited addr first

end LimiterRun

inductive LimiterCall
  | allow (addr : IpAddr)
  | cleanup

def LimiterCall.requests (calls : List (Event LimiterCall)) : List (Event IpAddr) :=
  calls.filterMap fun c =>
    match c.item with
    | .allow addr => some ⟨c.time, addr⟩
    | .cleanup => none

namespace HandshakeRateLimiter

variable {l : HandshakeRateLimiter} {key : IpAddr} {now : Nat} {entry : RateLimitEntry}

def call (l : HandshakeRateLimiter) (c : Event LimiterCall) : HandshakeRateLimiter :=
  match c.item with
  | .allow addr => (l.allow addr c.time).1
  | .cleanup => l.cleanup c.time

/-- What a list of calls is answered. -/
def answers (l : HandshakeRateLimiter) : List (Event LimiterCall) → List Bool
  | [] => []
  | c :: calls =>
    match c.item with
    | .allow addr => (l.allow addr c.time).2 :: (l.call c).answers calls
    | .cleanup => (l.call c).answers calls

/-- After the clean-up due at its time, a call finds fewer keys than the cap. -/
def HasRoom (l : HandshakeRateLimiter) (c : Event LimiterCall) : Prop :=
  (l.maybeCleanup c.time).requests.keys.length < l.maxTrackedIps

instance (l : HandshakeRateLimiter) (c : Event LimiterCall) : Decidable (l.HasRoom c) :=
  inferInstanceAs (Decidable (_ < _))

def count (maxPerWindow now : Nat) : Option RateLimitEntry → RateLimitEntry × Bool
  | none => (⟨1, now⟩, true)
  | some entry =>
    if maxPerWindow ≤ entry.count then (entry, false) else ({ entry with count := entry.count + 1 }, true)

theorem allow_eq_count (hmax : 0 < l.maxPerWindow) (addr : IpAddr)
    (hroom : (l.maybeCleanup now).requests.keys.length < l.maxTrackedIps) :
    let counted := count l.maxPerWindow now (l.openEntry (rateLimitKey addr) now)
    (l.allow addr now).2 = counted.2 ∧ (l.allow addr now).1.requests =
      (l.maybeCleanup now).requests.insert (rateLimitKey addr) counted.1 := by
  have hcap : (l.maybeCleanup now).maxTrackedIps = l.maxTrackedIps := by
    unfold maybeCleanup
    split <;> rfl
  rw [← hcap] at hroom
  rw [← maxPerWindow_maybeCleanup l now] at hmax ⊢
  rw [← openEntry_maybeCleanup]
  unfold allow
  generalize l.maybeCleanup now = l at *
  generalize rateLimitKey addr = key
  rw [if_neg (fun h => absurd h.2 (Nat.not_le.mpr hroom))]
  unfold openEntry
  cases l.requests.lookup key with
  | none =>
    dsimp only [Option.getD_none]
    rw [if_neg (by omega), if_neg (Nat.not_le.mpr hmax)]
    exact ⟨rfl, rfl⟩
  | some entry =>
    dsimp only [Option.getD_some]
    split
    · rw [Option.filter_some_neg (by simpa using by omega)]
      exact ⟨rfl, rfl⟩
    · rw [Option.filter_some_pos (by simpa using by omega), count]
      split
      all_goals exact ⟨rfl, rfl⟩

def Tracks (l : HandshakeRateLimiter) (now : Nat) (entries : IpAddr → Option RateLimitEntry) : Prop :=
  ∀ key later, now ≤ later →
    l.openEntry key later = (entries key).filter fun entry => later - entry.windowStart ≤ l.window

theorem Tracks.allow {entries : IpAddr → Option RateLimitEntry} {time : Nat} (h : l.Tracks now entries)
    (hmax : 0 < l.maxPerWindow) (addr : IpAddr) (hnow : now ≤ time)
    (hroom : (l.maybeCleanup time).requests.keys.length < l.maxTrackedIps) :
    (l.allow addr time).1.Tracks time (Function.update entries (rateLimitKey addr)
      (some (count l.maxPerWindow time ((entries (rateLimitKey addr)).filter fun entry =>
        time - entry.windowStart ≤ l.window)).1)) := by
  intro key later hle
  have hrequests := (allow_eq_count hmax addr hroom).2
  rw [h _ time hnow] at hrequests
  rw [openEntry, hrequests, window_allow]
  by_cases hkey : key = rateLimitKey addr
  · rw [hkey, AList.lookup_insert, Function.update_self]
  · rw [AList.lookup_insert_ne hkey, Function.update_of_ne hkey, ← h key later (hnow.trans hle),
      ← openEntry_maybeCleanup_of_le hle, openEntry, window_maybeCleanup]

end HandshakeRateLimiter

namespace LimiterSample

def address : IpAddr := .v4 (.fit 4 [203, 0, 113, 7])

def burst : List (Event IpAddr) :=
  ⟨1000000000, address⟩ :: (List.replicate 4 ⟨61000000000, address⟩ ++ List.replicate 5 ⟨61000000001, address⟩)

end LimiterSample

end HpnVpn
