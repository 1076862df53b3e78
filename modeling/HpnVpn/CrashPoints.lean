import Mathlib.Data.List.Basic

/-! Programs that change a state in atomic steps and may be stopped after any of them; a program returns the states it
passes beside its result. -/
namespace CrashPoints

variable {σ ε α β ι : Type}

/-- What a program returns: its result, the state it leaves and the states it passed. -/
structure Outcome (σ ε α : Type) where
  result : Except ε α
  state : σ
  passed : List σ

structure Prog (σ ε α : Type) where
  run : σ → Outcome σ ε α

namespace Prog

variable (p : Prog σ ε α)

protected def bind (next : α → Prog σ ε β) : Prog σ ε β where
  run s :=
    match (p.run s).result with
    | .ok a =>
      ⟨((next a).run (p.run s).state).result, ((next a).run (p.run s).state).state,
        (p.run s).passed ++ ((next a).run (p.run s).state).passed⟩
    | .error e => ⟨.error e, (p.run s).state, (p.run s).passed⟩

instance : Monad (Prog σ ε) where
  pure a := ⟨fun s => ⟨.ok a, s, []⟩⟩
  bind := Prog.bind

def fail (e : ε) : Prog σ ε α := ⟨fun s => ⟨.error e, s, []⟩⟩

def read (view : σ → α) : Prog σ ε α := ⟨fun s => ⟨.ok (view s), s, []⟩⟩

/-- A change that a stop loses, so that no stop is counted after it. -/
def modify (change : σ → σ) : Prog σ ε Unit := ⟨fun s => ⟨.ok (), change s, []⟩⟩

/-- A change that lasts; the program may stop right after it. -/
def atomic (change : σ → σ) : Prog σ ε Unit := ⟨fun s => ⟨.ok (), change s, [change s]⟩⟩

def attempt : Prog σ ε (Except ε α) :=
  ⟨fun s => ⟨.ok (p.run s).result, (p.run s).state, (p.run s).passed⟩⟩

def ignore : Prog σ ε Unit := ⟨fun s => ⟨.ok (), (p.run s).state, (p.run s).passed⟩⟩

def when (c : Bool) (p : Prog σ ε Unit) : Prog σ ε Unit := bif c then p else pure ()

def forEach : List ι → (ι → Prog σ ε Unit) → Prog σ ε Unit
  | [], _ => pure ()
  | x :: xs, body => do
    body x
    forEach xs body

def stops (s : σ) : List σ := s :: (p.run s).passed

variable {next : α → Prog σ ε β}

theorem run_bind_ok {p : Prog σ ε α} {s : σ} {a : α} (h : (p.run s).result = .ok a) :
    (p >>= next).run s =
      ⟨((next a).run (p.run s).state).result, ((next a).run (p.run s).state).state,
        (p.run s).passed ++ ((next a).run (p.run s).state).passed⟩ := by
  simp only [Bind.bind, Prog.bind, h]

theorem run_bind_error {p : Prog σ ε α} {s : σ} {e : ε} (h : (p.run s).result = .error e) :
    (p >>= next).run s = ⟨.error e, (p.run s).state, (p.run s).passed⟩ := by
  simp only [Bind.bind, Prog.bind, h]

@[simp] theorem run_read_bind {view : σ → α} {s : σ} : (read view >>= next).run s = (next (view s)).run s :=
  run_bind_ok rfl

end Prog

open Prog

variable {Inv : σ → Prop}

def KeepsFrom (Inv : σ → Prop) (p : Prog σ ε α) (s : σ) : Prop :=
  (∀ t ∈ (p.run s).passed, Inv t) ∧ Inv (p.run s).state

/-- The program keeps `Inv` in every state it passes and in the state it leaves. -/
def Keeps (Inv : σ → Prop) (p : Prog σ ε α) : Prop := ∀ s, Inv s → KeepsFrom Inv p s

variable {change : σ → σ}

theorem keepsFrom_atomic {s : σ} (h : Inv (change s)) : KeepsFrom Inv (atomic change : Prog σ ε Unit) s := by
  refine ⟨?_, h⟩
  intro t ht
  rw [List.mem_singleton.mp ht]
  exact h

variable {p : Prog σ ε α}

theorem KeepsFrom.bind {next : α → Prog σ ε β} {s : σ} (hp : KeepsFrom Inv p s)
    (hnext : ∀ a, (p.run s).result = .ok a → KeepsFrom Inv (next a) (p.run s).state) :
    KeepsFrom Inv (p >>= next) s := by
  unfold KeepsFrom
  cases hresult : (p.run s).result with
  | error e =>
    rw [run_bind_error hresult]
    exact hp
  | ok a =>
    rw [run_bind_ok hresult]
    obtain ⟨hrest, hend⟩ := hnext a hresult
    refine ⟨?_, hend⟩
    intro t ht
    rcases List.mem_append.mp ht with ht | ht
    · exact hp.1 t ht
    · exact hrest t ht

theorem keeps_pure (a : α) : Keeps Inv (pure a : Prog σ ε α) :=
  fun _ hs => ⟨fun _ ht => (List.not_mem_nil ht).elim, hs⟩

theorem keeps_fail (e : ε) : Keeps Inv (fail e : Prog σ ε α) :=
  fun _ hs => ⟨fun _ ht => (List.not_mem_nil ht).elim, hs⟩

theorem keeps_modify (h : ∀ s, Inv s → Inv (change s)) : Keeps Inv (modify change : Prog σ ε Unit) :=
  fun s hs => ⟨fun _ ht => (List.not_mem_nil ht).elim, h s hs⟩

theorem keeps_atomic (h : ∀ s, Inv s → Inv (change s)) : Keeps Inv (atomic change : Prog σ ε Unit) :=
  fun s hs => keepsFrom_atomic (h s hs)

theorem keeps_read (view : σ → α) : Keeps Inv (read view : Prog σ ε α) :=
  fun _ hs => ⟨fun _ ht => (List.not_mem_nil ht).elim, hs⟩

theorem Keeps.bind {next : α → Prog σ ε β} (hp : Keeps Inv p) (hnext : ∀ a, Keeps Inv (next a)) :
    Keeps Inv (p >>= next) :=
  fun s hs => (hp s hs).bind fun a _ => hnext a _ (hp s hs).2

theorem Keeps.attempt (hp : Keeps Inv p) : Keeps Inv p.attempt :=
  fun s hs => hp s hs

theorem Keeps.ignore (hp : Keeps Inv p) : Keeps Inv p.ignore :=
  fun s hs => hp s hs

theorem Keeps.when {p : Prog σ ε Unit} (c : Bool) (hp : Keeps Inv p) : Keeps Inv (when c p) := by
  cases c with
  | false => exact keeps_pure ()
  | true => exact hp

theorem keeps_forEach {body : ι → Prog σ ε Unit} (h : ∀ x, Keeps Inv (body x)) (xs : List ι) :
    Keeps Inv (forEach xs body) := by
  induction xs with
  | nil => exact keeps_pure ()
  | cons x xs ih => exact (h x).bind fun _ => ih

theorem Keeps.stops (hp : Keeps Inv p) {s t : σ} (hs : Inv s) (ht : t ∈ p.stops s) : Inv t := by
  rcases List.mem_cons.mp ht with rfl | ht
  · exact hs
  · exact (hp s hs).1 t ht

end CrashPoints
