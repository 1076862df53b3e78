import Mathlib.Algebra.BigOperators.Group.List.Basic
import Mathlib.Algebra.GroupWithZero.Nat

/-! Numbered slots that are filled in any order, with the counters that must show how many are filled and how much
they hold. -/
namespace Slots

variable {α : Type}

def filled (slots : List (Option α)) : Nat := slots.countP Option.isSome

def size (weight : α → Nat) (slots : List (Option α)) : Nat := (slots.map fun slot => slot.elim 0 weight).sum

@[simp] theorem filled_cons (slot : Option α) (slots : List (Option α)) :
    filled (slot :: slots) = filled slots + if slot.isSome then 1 else 0 :=
  List.countP_cons

@[simp] theorem size_cons (weight : α → Nat) (slot : Option α) (slots : List (Option α)) :
    size weight (slot :: slots) = slot.elim 0 weight + size weight slots := by
  rw [size, List.map_cons, List.sum_cons, size]

@[simp] theorem filled_replicate (n : Nat) : filled (List.replicate n (none : Option α)) = 0 := by
  simp [filled]

@[simp] theorem size_replicate (weight : α → Nat) (n : Nat) : size weight (List.replicate n none) = 0 := by
  simp [size]

variable {slots : List (Option α)}

theorem filled_set {i : Nat} (h : slots[i]? = some none) (a : α) :
    filled (slots.set i (some a)) = filled slots + 1 := by
  induction slots generalizing i with
  | nil => simp at h
  | cons slot slots ih =>
    cases i with
    | zero =>
      cases Option.some.inj h
      simp
    | succ i =>
      rw [List.set_cons_succ, filled_cons, filled_cons, ih h, Nat.add_right_comm]

theorem size_set {weight : α → Nat} {i : Nat} (h : slots[i]? = some none) (a : α) :
    size weight (slots.set i (some a)) = size weight slots + weight a := by
  induction slots generalizing i with
  | nil => simp at h
  | cons slot slots ih =>
    cases i with
    | zero =>
      cases Option.some.inj h
      simp [Nat.add_comm]
    | succ i =>
      rw [List.set_cons_succ, size_cons, size_cons, ih h, Nat.add_assoc]

theorem size_le {weight : α → Nat} {bound : Nat}
    (h : ∀ a, some a ∈ slots → weight a ≤ bound) : size weight slots ≤ filled slots * bound := by
  induction slots with
  | nil => simp [size]
  | cons slot slots ih =>
    have hrest := ih fun a ha => h a (List.mem_cons_of_mem _ ha)
    rw [size_cons, filled_cons, Nat.add_mul, Nat.add_comm]
    apply Nat.add_le_add hrest
    cases slot with
    | none => exact Nat.zero_le _
    | some a => simpa using h a List.mem_cons_self

theorem eq_map_some_of_filled (h : filled slots = slots.length) : ∃ pieces : List α, slots = pieces.map some := by
  have hall : ∀ slot ∈ slots, slot.isSome = true := List.countP_eq_length.mp h
  induction slots with
  | nil => exact ⟨[], rfl⟩
  | cons slot slots ih =>
    rw [List.forall_mem_cons] at hall
    obtain ⟨a, rfl⟩ := Option.isSome_iff_exists.mp hall.1
    obtain ⟨pieces, rfl⟩ := ih (List.countP_eq_length.mpr hall.2) hall.2
    exact ⟨a :: pieces, rfl⟩

theorem exists_empty_of_filled_lt (h : filled slots < slots.length) : ∃ i < slots.length, slots[i]? = some none := by
  have hne : ¬ ∀ slot ∈ slots, slot.isSome = true := fun hall => Nat.ne_of_lt h (List.countP_eq_length.mpr hall)
  push Not at hne
  obtain ⟨slot, hslot, hnone⟩ := hne
  obtain ⟨i, hi, hget⟩ := List.getElem_of_mem hslot
  refine ⟨i, hi, ?_⟩
  rw [List.getElem?_eq_getElem hi, hget, Option.not_isSome_iff_eq_none.mp hnone]

theorem filled_map_some (pieces : List α) : filled (pieces.map some) = pieces.length := by
  simp [filled]

end Slots
