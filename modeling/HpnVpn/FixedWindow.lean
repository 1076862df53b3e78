import HpnVpn.Tables

/-! Counting in fixed windows: events go in the window found open, and a new one opens once that is over.  A throttle
is such a counter with a lock, set when the window holds enough. -/
namespace FixedWindow

structure Event (α : Type) where
  time : Nat
  item : α
deriving DecidableEq

/-- The events a counter holds, newest first, and when it began to collect them. -/
structure Window (α : Type) where
  events : List (Event α)
  start : Nat

variable {α : Type} {width now first : Nat} {log : List (Event α)} {w : Window α}

def span (first width : Nat) (log : List (Event α)) : List (Event α) :=
  log.filter fun e => first ≤ e.time ∧ e.time ≤ first + width

theorem span_sublist_span {width' : Nat} (h : width ≤ width') (first : Nat) (log : List (Event α)) :
    (span first width log).Sublist (span first width' log) := by
  apply List.monotone_filter_right
  intro e he
  simp only [decide_eq_true_eq] at he ⊢
  omega

theorem card_items_le [DecidableEq α] {part whole : List (Event α)} (h : part.Sublist whole) :
    (part.map (·.item)).toFinset.card ≤ (whole.map (·.item)).toFinset.card := by
  apply Finset.card_le_card
  intro x hx
  exact List.mem_toFinset.mpr ((h.map (·.item)).subset (List.mem_toFinset.mp hx))

namespace Window

def roll (width now : Nat) (w : Window α) : Window α := if width < now - w.start then ⟨[], now⟩ else w

def push (e : Event α) (w : Window α) : Window α := ⟨e :: w.events, w.start⟩

theorem roll_cases (width now : Nat) (w : Window α) :
    (width < now - w.start ∧ w.roll width now = ⟨[], now⟩) ∨ (now ≤ w.start + width ∧ w.roll width now = w) := by
  unfold roll
  split
  · exact .inl ⟨‹_›, rfl⟩
  · exact .inr ⟨by omega, rfl⟩

theorem start_roll_le (width : Nat) (h : w.start ≤ now) : (w.roll width now).start ≤ now := by
  obtain ⟨-, hroll⟩ | ⟨-, hroll⟩ := roll_cases width now w
  · rw [hroll]
  · rw [hroll]
    exact h

theorem le_start_roll (width now : Nat) (w : Window α) : now ≤ (w.roll width now).start + width := by
  obtain ⟨-, hroll⟩ | ⟨hnow, hroll⟩ := roll_cases width now w
  · rw [hroll]
    exact Nat.le_add_right now width
  · rw [hroll]
    exact hnow

end Window

/-- What the window holds is the newest part of the log, and the rest was over before the window began. -/
def Recent (width : Nat) (log : List (Event α)) (w : Window α) : Prop :=
  ∃ old, log = w.events ++ old ∧ ∀ e ∈ old, e.time + width < w.start

theorem recent_new (h : ∀ e ∈ log, e.time + width < now) : Recent width log ⟨[], now⟩ := ⟨log, rfl, h⟩

theorem Recent.push (h : Recent width log w) (e : Event α) : Recent width (e :: log) (w.push e) := by
  obtain ⟨old, rfl, hold⟩ := h
  exact ⟨old, rfl, hold⟩

theorem Recent.span_sublist (h : Recent width log w) (hstart : w.start ≤ first + width) :
    (span first width log).Sublist w.events := by
  obtain ⟨old, rfl, hold⟩ := h
  have hempty : span first width old = [] := by
    apply List.filter_eq_nil_iff.mpr
    intro e he
    have := hold e he
    simp only [decide_eq_true_eq]
    omega
  rw [span, List.filter_append, show old.filter _ = [] from hempty, List.append_nil]
  exact List.filter_sublist

/-! ### Throttles -/

/-- How long a window is, what makes it full, and when a lock that is set at some time ends. -/
structure Rule (α : Type) where
  width : Nat
  enough : List (Event α) → Bool
  release : Nat → Nat

/-- The last event stays known after its window was emptied by a lock. -/
structure Throttle (α : Type) where
  window : Window α
  lockedUntil : Nat
  last : Nat

namespace Throttle

variable {rule : Rule α} {t : Throttle α} {e : Event α} {history : List (Event α × Bool)}

def initial : Throttle α := ⟨⟨[], 0⟩, 0, 0⟩

/-- Count an event; a full window sets the lock if there is none, and is emptied. -/
def record (rule : Rule α) (e : Event α) (t : Throttle α) : Throttle α × Bool :=
  let window := (t.window.roll rule.width e.time).push e
  if rule.enough window.events ∧ t.lockedUntil ≤ e.time then
    (⟨⟨[], window.start⟩, rule.release e.time, e.time⟩, true)
  else (⟨window, t.lockedUntil, e.time⟩, false)

theorem record_cases (rule : Rule α) (e : Event α) (t : Throttle α) :
    (rule.enough ((t.window.roll rule.width e.time).push e).events = true ∧ t.lockedUntil ≤ e.time ∧
      t.record rule e = (⟨⟨[], (t.window.roll rule.width e.time).start⟩, rule.release e.time, e.time⟩, true)) ∨
    (¬(rule.enough ((t.window.roll rule.width e.time).push e).events = true ∧ t.lockedUntil ≤ e.time) ∧
      t.record rule e = (⟨(t.window.roll rule.width e.time).push e, t.lockedUntil, e.time⟩, false)) := by
  unfold record
  dsimp only
  split
  · rename_i h
    exact .inl ⟨h.1, h.2, rfl⟩
  · exact .inr ⟨‹_›, rfl⟩

/-- The events since the lock was last set; a history tells for each event whether it set the lock. -/
def sinceLock (history : List (Event α × Bool)) : List (Event α) :=
  (history.takeWhile fun x => !x.2).map (·.1)

/-! A lock that should be set is set. -/

/-- The event is not before the last one, and if the window is over then so is every event in it. -/
def Timely (rule : Rule α) (now : Nat) (t : Throttle α) : Prop :=
  t.last ≤ now ∧ (rule.width < now - t.window.start → t.window.events = [] ∨ t.last + rule.width < now)

structure Complete (rule : Rule α) (history : List (Event α × Bool)) (t : Throttle α) : Prop where
  recent : Recent rule.width (sinceLock history) t.window
  le_last : ∀ x ∈ sinceLock history, x.time ≤ t.last
  start_le : t.window.start ≤ t.last

theorem complete_initial (rule : Rule α) : Complete rule [] initial where
  recent := ⟨[], rfl, fun _ h => nomatch h⟩
  le_last := fun _ h => nomatch h
  start_le := le_rfl

theorem Complete.roll (h : Complete rule history t) (htimely : t.Timely rule now) :
    Recent rule.width (sinceLock history) (t.window.roll rule.width now) := by
  obtain ⟨hover, hroll⟩ | ⟨-, hroll⟩ := Window.roll_cases rule.width now t.window
  · rw [hroll]
    apply recent_new
    obtain ⟨old, hlog, hold⟩ := h.recent
    intro x hx
    rcases htimely.2 hover with hempty | hlast
    · -- An empty window leaves only what was over before it began.
      rw [hlog, hempty, List.nil_append] at hx
      have := hold x hx
      omega
    · have := h.le_last x hx
      omega
  · rw [hroll]
    exact h.recent

theorem Complete.record (h : Complete rule history t) (htimely : t.Timely rule e.time) :
    Complete rule ((e, (t.record rule e).2) :: history) (t.record rule e).1 := by
  have hstart := Window.start_roll_le rule.width (h.start_le.trans htimely.1)
  obtain ⟨-, -, hrecord⟩ | ⟨-, hrecord⟩ := record_cases rule e t
  · rw [hrecord]
    exact ⟨⟨[], rfl, fun _ h => nomatch h⟩, fun _ h => (nomatch h), hstart⟩
  · rw [hrecord]
    refine ⟨(h.roll htimely).push e, ?_, hstart⟩
    intro x hx
    rcases List.mem_cons.mp hx with rfl | hx
    · exact le_rfl
    · exact (h.le_last x hx).trans htimely.1

theorem Complete.locked (h : Complete rule history t) (htimely : t.Timely rule e.time)
    (hwidth : e.time ≤ first + rule.width) (hrelease : e.time < rule.release e.time)
    (henough : (span first rule.width (e :: sinceLock history)).Sublist
        ((t.window.roll rule.width e.time).push e).events →
      rule.enough ((t.window.roll rule.width e.time).push e).events = true) :
    e.time < (t.record rule e).1.lockedUntil := by
  have hstart := Window.start_roll_le rule.width (h.start_le.trans htimely.1)
  have hspan := ((h.roll htimely).push e).span_sublist (hstart.trans hwidth)
  obtain ⟨-, -, hrecord⟩ | ⟨hno, hrecord⟩ := record_cases rule e t
  · rw [hrecord]
    exact hrelease
  · rw [hrecord]
    exact Nat.lt_of_not_le fun hfree => hno ⟨henough hspan, hfree⟩

/-! A lock that is set was called for, and it lasts. -/

structure Sound (history : List (Event α × Bool)) (t : Throttle α) : Prop where
  logged : t.window.events.Sublist (history.map (·.1))
  start_le_of_mem : ∀ x ∈ t.window.events, t.window.start ≤ x.time ∧ x.time ≤ t.last
  start_le : t.window.start ≤ t.last
  last_le : ∀ now, (∀ x ∈ history, x.1.time ≤ now) → t.last ≤ now

theorem sound_initial : Sound [] (initial : Throttle α) :=
  ⟨List.Sublist.refl [], fun _ h => (nomatch h), le_rfl, fun now _ => Nat.zero_le now⟩

theorem Sound.push (rule : Rule α) (h : Sound history t) (hlast : t.last ≤ e.time) :
    ((t.window.roll rule.width e.time).push e).events.Sublist (e :: history.map (·.1)) ∧
      ∀ x ∈ ((t.window.roll rule.width e.time).push e).events,
        (t.window.roll rule.width e.time).start ≤ x.time ∧ x.time ≤ e.time := by
  have hstart := Window.start_roll_le rule.width (h.start_le.trans hlast)
  have hroll : (t.window.roll rule.width e.time).events.Sublist (history.map (·.1)) ∧
      ∀ x ∈ (t.window.roll rule.width e.time).events,
        (t.window.roll rule.width e.time).start ≤ x.time ∧ x.time ≤ e.time := by
    obtain ⟨-, hroll⟩ | ⟨-, hroll⟩ := Window.roll_cases rule.width e.time t.window
    · rw [hroll]
      exact ⟨List.nil_sublist _, fun _ h => nomatch h⟩
    · rw [hroll]
      refine ⟨h.logged, ?_⟩
      intro x hx
      have hx' := h.start_le_of_mem x hx
      exact ⟨hx'.1, hx'.2.trans hlast⟩
  refine ⟨hroll.1.cons_cons e, ?_⟩
  intro x hx
  rcases List.mem_cons.mp hx with rfl | hx
  · exact ⟨hstart, le_rfl⟩
  · exact hroll.2 x hx

theorem Sound.record (h : Sound history t) (hlast : t.last ≤ e.time) :
    Sound ((e, (t.record rule e).2) :: history) (t.record rule e).1 := by
  have hstart := Window.start_roll_le rule.width (h.start_le.trans hlast)
  obtain ⟨-, -, hrecord⟩ | ⟨-, hrecord⟩ := record_cases rule e t
  · rw [hrecord]
    exact ⟨List.nil_sublist _, fun _ h => (nomatch h), hstart, fun now hle => hle _ List.mem_cons_self⟩
  · rw [hrecord]
    have hpush := h.push rule hlast
    exact ⟨hpush.1, hpush.2, hstart, fun now hle => hle _ List.mem_cons_self⟩

theorem Sound.enough_of_fired (h : Sound history t) (hlast : t.last ≤ e.time) (hfired : (t.record rule e).2 = true) :
    ∃ events, events.Sublist (e :: history.map (·.1)) ∧
      (∀ x ∈ events, x.time ≤ e.time ∧ e.time ≤ x.time + rule.width) ∧ rule.enough events = true := by
  have hpush := h.push rule hlast
  obtain ⟨henough, -, -⟩ | ⟨-, hrecord⟩ := record_cases rule e t
  · refine ⟨_, hpush.1, ?_, henough⟩
    intro x hx
    have hx' := hpush.2 x hx
    have hle := Window.le_start_roll rule.width e.time t.window
    exact ⟨hx'.2, by omega⟩
  · rw [hrecord] at hfired
    exact Bool.noConfusion hfired

structure Holds (rule : Rule α) (history : List (Event α × Bool)) (t : Throttle α) : Prop where
  release_le : ∀ x ∈ history, x.2 = true → rule.release x.1.time ≤ t.lockedUntil
  source : t.lockedUntil = 0 ∨ ∃ x ∈ history, x.2 = true ∧ t.lockedUntil = rule.release x.1.time

theorem holds_initial (rule : Rule α) : Holds rule [] initial := ⟨fun _ h => (nomatch h), .inl rfl⟩

theorem Holds.record (h : Holds rule history t) (hrelease : e.time ≤ rule.release e.time) :
    Holds rule ((e, (t.record rule e).2) :: history) (t.record rule e).1 := by
  obtain ⟨-, hfree, hrecord⟩ | ⟨-, hrecord⟩ := record_cases rule e t
  · rw [hrecord]
    refine ⟨?_, .inr ⟨_, List.mem_cons_self, rfl, rfl⟩⟩
    intro x hx hfired
    rcases List.mem_cons.mp hx with rfl | hx
    · exact le_rfl
    · exact (h.release_le x hx hfired).trans (hfree.trans hrelease)
  · rw [hrecord]
    constructor
    · intro x hx hfired
      rcases List.mem_cons.mp hx with rfl | hx
      · exact Bool.noConfusion hfired
      · exact h.release_le x hx hfired
    · rcases h.source with hzero | ⟨x, hx, hfired⟩
      · exact .inl hzero
      · exact .inr ⟨x, List.mem_cons_of_mem _ hx, hfired⟩

/-! ### Tables of throttles -/

section Follows

open Tables

variable {κ ν : Type} [DecidableEq κ] {view : Throttle α → ν} {absent : ν}
  {Inv : List (Event α × Bool) → Throttle α → Prop} {table : Table κ ν}
  {log log' : κ → List (Event α × Bool)} {count : ν → ν × Bool} {k : κ}

def Follows (view : Throttle α → ν) (absent : ν) (Inv : List (Event α × Bool) → Throttle α → Prop)
    (table : Table κ ν) (log : κ → List (Event α × Bool)) : Prop :=
  ∀ k, ∃ t, (table.lookup k).getD absent = view t ∧ Inv (log k) t

theorem follows_empty (hview : absent = view initial) (hInv : Inv [] initial) :
    Follows view absent Inv (∅ : Table κ ν) fun _ => [] := fun _ => ⟨initial, hview, hInv⟩

theorem Follows.insert (h : Follows view absent Inv table log)
    (hview : ∀ t, count (view t) = (view (t.record rule e).1, (t.record rule e).2))
    (hInv : ∀ t, (table.lookup k).getD absent = view t → Inv (log k) t →
      Inv ((e, (t.record rule e).2) :: log k) (t.record rule e).1)
    (hself : log' k = (e, (count ((table.lookup k).getD absent)).2) :: log k)
    (hother : ∀ k', k' ≠ k → log' k' = log k') :
    Follows view absent Inv (table.insert k (count ((table.lookup k).getD absent)).1) log' := by
  intro k'
  by_cases hk : k' = k
  · subst hk
    obtain ⟨t, ht, hinv⟩ := h k'
    refine ⟨(t.record rule e).1, ?_, ?_⟩
    · rw [AList.lookup_insert, Option.getD_some, ht, hview]
    · rw [hself, ht, hview]
      exact hInv t ht hinv
  · rw [AList.lookup_insert_ne hk, hother k' hk]
    exact h k'

end Follows

end Throttle

end FixedWindow
