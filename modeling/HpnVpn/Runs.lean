import Mathlib.Data.List.Basic

/-! Runs of a deterministic machine, and invariants carried along them from what one step preserves. -/
namespace Runs

variable {σ ι : Type} {step : σ → ι → σ}

def exec (step : σ → ι → σ) (s : σ) (inputs : List ι) : σ := inputs.foldl step s

@[simp] theorem exec_nil (s : σ) : exec step s [] = s := rfl

@[simp] theorem exec_cons (s : σ) (i : ι) (inputs : List ι) :
    exec step s (i :: inputs) = exec step (step s i) inputs := rfl

theorem exec_append (s : σ) (before after : List ι) :
    exec step s (before ++ after) = exec step (exec step s before) after :=
  List.foldl_append

/-- Every input of the run meets `cond` in the state it arrives in. -/
def Meets (cond : σ → ι → Prop) (step : σ → ι → σ) : σ → List ι → Prop
  | _, [] => True
  | s, i :: inputs => cond s i ∧ Meets cond step (step s i) inputs

instance decidableMeets {cond : σ → ι → Prop} [∀ s i, Decidable (cond s i)] :
    (s : σ) → (inputs : List ι) → Decidable (Meets cond step s inputs)
  | _, [] => isTrue trivial
  | s, i :: inputs =>
    have : Decidable (Meets cond step (step s i) inputs) := decidableMeets (step s i) inputs
    inferInstanceAs (Decidable (cond s i ∧ Meets cond step (step s i) inputs))

variable {cond : σ → ι → Prop}

theorem meets_append {before after : List ι} {s : σ} :
    Meets cond step s (before ++ after) ↔ Meets cond step s before ∧ Meets cond step (exec step s before) after := by
  induction before generalizing s with
  | nil => simp [Meets]
  | cons i before ih => simp only [List.cons_append, Meets, ih, exec_cons, and_assoc]

/-- A run meets a condition just if each of its inputs does in the state that the inputs before it lead to. -/
theorem meets_iff_forall_split {inputs : List ι} {s : σ} :
    Meets cond step s inputs ↔ ∀ before i after, inputs = before ++ i :: after → cond (exec step s before) i := by
  induction inputs generalizing s with
  | nil => simp [Meets]
  | cons first inputs ih =>
    rw [Meets, ih]
    constructor
    · rintro ⟨hfirst, hrest⟩ before i after heq
      cases before with
      | nil =>
        obtain ⟨rfl, -⟩ := List.cons.inj heq
        exact hfirst
      | cons j before =>
        obtain ⟨rfl, hsplit⟩ := List.cons.inj heq
        exact hrest before i after hsplit
    · intro h
      refine ⟨h [] first inputs rfl, ?_⟩
      intro before i after heq
      exact h (first :: before) i after (congrArg (first :: ·) heq)

theorem meets_of_forall {inputs : List ι} (h : ∀ i ∈ inputs, ∀ s, cond s i) (s : σ) : Meets cond step s inputs := by
  induction inputs generalizing s with
  | nil => trivial
  | cons i inputs ih =>
    rw [List.forall_mem_cons] at h
    exact ⟨h.1 s, ih h.2 (step s i)⟩

variable {Inv : σ → Prop}

theorem exec_invariant_of (hstep : ∀ s i, Inv s → cond s i → Inv (step s i)) :
    ∀ (inputs : List ι) (s : σ), Inv s → Meets cond step s inputs → Inv (exec step s inputs) := by
  intro inputs
  induction inputs with
  | nil => exact fun s hs _ => hs
  | cons i inputs ih =>
    intro s hs hmeets
    exact ih (step s i) (hstep s i hs hmeets.1) hmeets.2

theorem exec_invariant (hstep : ∀ s i, Inv s → Inv (step s i))
    (inputs : List ι) (s : σ) (hs : Inv s) : Inv (exec step s inputs) := by
  induction inputs generalizing s with
  | nil => exact hs
  | cons i inputs ih => exact ih (step s i) (hstep s i hs)

/-- Two conditions that agree in the states of an invariant are met by the same runs. -/
theorem meets_congr {cond' : σ → ι → Prop} (hinv : ∀ s i, Inv s → Inv (step s i))
    (hiff : ∀ s i, Inv s → (cond s i ↔ cond' s i)) (inputs : List ι) (s : σ) (hs : Inv s) :
    Meets cond step s inputs ↔ Meets cond' step s inputs := by
  induction inputs generalizing s with
  | nil => exact Iff.rfl
  | cons i inputs ih => exact and_congr (hiff s i hs) (ih (step s i) (hinv s i hs))

variable {Good : σ → Prop}

/-- A property that a step never restores and keeps just under a condition holds at the end just if it held at the
start and every input met the condition. -/
theorem exec_iff_meets (hgood : ∀ s i, Good (step s i) ↔ Good s ∧ cond s i)
    (inputs : List ι) (s : σ) : Good (exec step s inputs) ↔ Good s ∧ Meets cond step s inputs := by
  induction inputs generalizing s with
  | nil => exact (and_iff_left trivial).symm
  | cons i inputs ih => rw [exec_cons, ih, hgood, Meets, and_assoc]

/-- A property that an allowed step keeps just under a condition holds all along a run just if every input meets it.
-/
theorem exec_always_iff_meets {allowed : σ → ι → Prop}
    (hinv : ∀ s i, Inv s → Inv (step s i))
    (hgood : ∀ s i, Inv s → Good s → allowed s i → (Good (step s i) ↔ cond s i)) (inputs : List ι) (s : σ)
    (hallowed : Meets allowed step s inputs) (hs : Inv s) (hstart : Good s) :
    (∀ n, Good (exec step s (inputs.take n))) ↔ Meets cond step s inputs := by
  induction inputs generalizing s with
  | nil =>
    refine ⟨fun _ => trivial, ?_⟩
    intro _ n
    rw [List.take_nil]
    exact hstart
  | cons i inputs ih =>
    have hone := hgood s i hs hstart hallowed.1
    have hrest := ih (step s i) hallowed.2 (hinv s i hs)
    constructor
    · intro h
      have hnext : Good (step s i) := h 1
      exact ⟨hone.mp hnext, (hrest hnext).mp fun n => h (n + 1)⟩
    · rintro ⟨hcond, hmeets⟩ n
      cases n with
      | zero => exact hstart
      | succ n => exact (hrest (hone.mpr hcond)).mpr hmeets n

/-! ### What can still be reached -/

def CanReach (allowed : ι → Prop) (step : σ → ι → σ) (Goal : σ → Prop) (s : σ) : Prop :=
  ∃ inputs, (∀ i ∈ inputs, allowed i) ∧ Goal (exec step s inputs)

/-- If one input reaches the goal whenever there is hope, and hope never comes back, the goal can be reached just from
goal or hope. -/
theorem canReach_iff {allowed : ι → Prop} {Goal Hope : σ → Prop}
    (hhope : ∀ s, Hope s → ∃ i, allowed i ∧ Goal (step s i))
    (hlost : ∀ s i, allowed i → ¬(Goal s ∨ Hope s) → ¬(Goal (step s i) ∨ Hope (step s i))) (s : σ) :
    CanReach allowed step Goal s ↔ Goal s ∨ Hope s := by
  constructor
  · rintro ⟨inputs, hallowed, hgoal⟩
    by_contra hnot
    have hend : ¬(Goal (exec step s inputs) ∨ Hope (exec step s inputs)) :=
      exec_invariant_of (fun s i h hi => hlost s i hi h) inputs s hnot (meets_of_forall (fun i hi _ => hallowed i hi) s)
    exact hend (.inl hgoal)
  · rintro (hgoal | hope)
    · exact ⟨[], nofun, hgoal⟩
    · obtain ⟨i, hi, hgoal⟩ := hhope s hope
      exact ⟨[i], by simpa using hi, hgoal⟩

/-! ### Steps that may fail -/

variable {ε : Type} {attempt : σ → ι → Except ε σ}

/-- A step that may fail, on a run that may have failed before. -/
def unlessFailed (attempt : σ → ι → Except ε σ) (s : Except ε σ) (i : ι) : Except ε σ :=
  s.bind fun s => attempt s i

/-- A condition on the states of a run that has not failed. -/
def WhenOk (cond : σ → ι → Prop) : Except ε σ → ι → Prop
  | .ok s, i => cond s i
  | .error _, _ => True

instance {cond : σ → ι → Prop} [∀ s i, Decidable (cond s i)] : (s : Except ε σ) → (i : ι) → Decidable (WhenOk cond s i)
  | .ok s, i => inferInstanceAs (Decidable (cond s i))
  | .error _, _ => isTrue trivial

/-- The run has not failed and its state meets the invariant. -/
def OkAnd (Inv : σ → Prop) (s : Except ε σ) : Prop := ∃ s', s = .ok s' ∧ Inv s'

theorem exec_ok_invariant_of
    (hstep : ∀ s i, Inv s → cond s i → OkAnd Inv (attempt s i)) (inputs : List ι) (s : σ) (hs : Inv s)
    (hmeets : Meets (WhenOk cond) (unlessFailed attempt) (.ok s) inputs) :
    OkAnd Inv (exec (unlessFailed attempt) (.ok s) inputs) := by
  have hstep' : ∀ s i, OkAnd Inv s → WhenOk cond s i → OkAnd Inv (unlessFailed attempt s i) := by
    rintro _ i ⟨s, rfl, hs⟩ hcond
    exact hstep s i hs hcond
  exact exec_invariant_of hstep' inputs (.ok s) ⟨s, rfl, hs⟩ hmeets

theorem exec_ok_invariant (hstep : ∀ s i, Inv s → OkAnd Inv (attempt s i))
    (inputs : List ι) (s : σ) (hs : Inv s) : OkAnd Inv (exec (unlessFailed attempt) (.ok s) inputs) := by
  have hstep' : ∀ s i, OkAnd Inv s → OkAnd Inv (unlessFailed attempt s i) := by
    rintro _ i ⟨s, rfl, hs⟩
    exact hstep s i hs
  exact exec_invariant hstep' inputs (.ok s) ⟨s, rfl, hs⟩

/-! ### Descending loops -/

/-- `for i in (lo..lo + k).rev() { s = body i s }` -/
def forRev (lo : Nat) (body : Nat → σ → σ) : Nat → σ → σ
  | 0, s => s
  | k + 1, s => forRev lo body k (body (lo + k) s)

end Runs
