import Mathlib.Data.List.Basic
import Mathlib.Logic.Relation

/-! Words of a prefix code on a stream.  A reader may abandon what it has read of a word; having seen the whole
stream, it has returned the words written just if it lost nothing. -/
namespace Framing

/-- A code for the valid words in which the end of a word can be told from the word itself. -/
structure PrefixCode (α β : Type) where
  encode : α → List β
  Valid : α → Prop
  inj : ∀ {a b : α} {x y : List β}, Valid a → Valid b → encode a ++ x = encode b ++ y → a = b ∧ x = y
  ne_nil : ∀ a, encode a ≠ []

variable {α β : Type} (c : PrefixCode α β)

namespace PrefixCode

def encodeAll (words : List α) : List β := words.flatMap c.encode

@[simp] theorem encodeAll_nil : c.encodeAll [] = [] := rfl

@[simp] theorem encodeAll_cons (a : α) (words : List α) : c.encodeAll (a :: words) = c.encode a ++ c.encodeAll words :=
  List.flatMap_cons

@[simp] theorem encodeAll_append (xs ys : List α) : c.encodeAll (xs ++ ys) = c.encodeAll xs ++ c.encodeAll ys :=
  List.flatMap_append

def Incomplete (symbols : List β) : Prop := ∀ a rest, c.Valid a → symbols ≠ c.encode a ++ rest

theorem eq_append_of_encodeAll_append {xs ys : List α} {rest : List β} (hxs : ∀ a ∈ xs, c.Valid a)
    (hys : ∀ a ∈ ys, c.Valid a) (h : c.encodeAll xs ++ rest = c.encodeAll ys) :
    ∃ more, ys = xs ++ more ∧ rest = c.encodeAll more := by
  induction xs generalizing ys with
  | nil => exact ⟨ys, rfl, h⟩
  | cons x xs ih =>
    rw [encodeAll_cons, List.append_assoc] at h
    cases ys with
    | nil => exact absurd (List.append_eq_nil_iff.mp h).1 (c.ne_nil x)
    | cons y ys =>
      rw [List.forall_mem_cons] at hxs hys
      rw [encodeAll_cons] at h
      obtain ⟨rfl, htail⟩ := c.inj hxs.1 hys.1 h
      obtain ⟨more, rfl, hrest⟩ := ih hxs.2 hys.2 htail
      exact ⟨more, rfl, hrest⟩

end PrefixCode

/-- The words returned, the symbols held of the next one, those not read, and how many are lost. -/
structure Reader (α β : Type) where
  returned : List α
  held : List β
  unread : List β
  dropped : Nat

namespace Reader

inductive Moves : Reader α β → Reader α β → Prop
  | take {r : Reader α β} (chunk rest : List β) (h : r.unread = chunk ++ rest) :
      Moves r { r with held := r.held ++ chunk, unread := rest }
  | deliver {r : Reader α β} {a : α} (hvalid : c.Valid a) (h : r.held = c.encode a) :
      Moves r { r with returned := r.returned ++ [a], held := [] }
  | abandon {r : Reader α β} : Moves r { r with held := [], dropped := r.dropped + r.held.length }

/-- Every symbol of the words is accounted for, and unless one was lost they are all in their place. -/
structure Reads (words : List α) (r : Reader α β) : Prop where
  valid : ∀ a ∈ r.returned, c.Valid a
  total : (c.encodeAll r.returned).length + r.dropped + r.held.length + r.unread.length = (c.encodeAll words).length
  aligned : r.dropped = 0 → c.encodeAll r.returned ++ (r.held ++ r.unread) = c.encodeAll words

variable {c} {words : List α} {r r' : Reader α β}

theorem reads_start (words : List α) : Reads c words ⟨[], [], c.encodeAll words, 0⟩ where
  valid := by simp
  total := by simp
  aligned := fun _ => rfl

theorem Reads.move (h : Reads c words r) (hmove : Moves c r r') : Reads c words r' := by
  cases hmove with
  | take chunk rest heq =>
    refine ⟨h.valid, ?_, ?_⟩
    · have htotal := h.total
      rw [heq] at htotal
      simp only [List.length_append] at htotal ⊢
      omega
    · intro hdropped
      rw [← h.aligned hdropped, heq, List.append_assoc r.held]
  | deliver hvalid heq =>
    refine ⟨?_, ?_, ?_⟩
    · intro b hb
      rcases List.mem_append.mp hb with hb | hb
      · exact h.valid b hb
      · rw [List.mem_singleton.mp hb]
        exact hvalid
    · have htotal := h.total
      rw [heq] at htotal
      simp only [PrefixCode.encodeAll_append, PrefixCode.encodeAll_cons, PrefixCode.encodeAll_nil, List.length_append,
        List.length_nil] at htotal ⊢
      omega
    · intro hdropped
      rw [← h.aligned hdropped, heq]
      simp only [PrefixCode.encodeAll_append, PrefixCode.encodeAll_cons, PrefixCode.encodeAll_nil, List.append_nil,
        List.nil_append, List.append_assoc]
  | abandon =>
    refine ⟨h.valid, ?_, ?_⟩
    · have htotal := h.total
      simp only [List.length_nil]
      omega
    · intro hdropped
      have hheld : r.held = [] := List.length_eq_zero_iff.mp (Nat.add_eq_zero_iff.mp hdropped).2
      rw [← h.aligned (Nat.add_eq_zero_iff.mp hdropped).1, hheld]

theorem Reads.moves (h : Reads c words r) (hmoves : Relation.ReflTransGen (Moves c) r r') : Reads c words r' := by
  induction hmoves with
  | refl => exact h
  | tail _ hmove ih => exact ih.move hmove

theorem Reads.exists_more (h : Reads c words r) (hwords : ∀ a ∈ words, c.Valid a) (hdropped : r.dropped = 0) :
    ∃ more, words = r.returned ++ more ∧ r.held ++ r.unread = c.encodeAll more :=
  c.eq_append_of_encodeAll_append h.valid hwords (h.aligned hdropped)

theorem Reads.returned_eq_iff (h : Reads c words r) (hwords : ∀ a ∈ words, c.Valid a) (hend : r.unread = [])
    (hheld : c.Incomplete r.held) : r.returned = words ↔ r.dropped = 0 := by
  constructor
  · intro hall
    have htotal := h.total
    rw [hall] at htotal
    omega
  · intro hdropped
    obtain ⟨more, hmore, hrest⟩ := h.exists_more hwords hdropped
    rw [hend, List.append_nil] at hrest
    cases more with
    | nil => rw [hmore, List.append_nil]
    | cons a more =>
      have hvalid : c.Valid a := hwords a (by simp [hmore])
      exact absurd hrest (hheld a (c.encodeAll more) hvalid)

end Reader

end Framing
