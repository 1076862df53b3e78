import HpnVpn.Bytes

/-! Reads of a byte string by position.  Indexing outside of it is `none` in `ExceptT ε Option`. -/
namespace Wire
variable {ε α β : Type} {bytes : Bytes} {start n : Nat} {err : ε}

/-- The byte `bytes[i]`. -/
def index (bytes : Bytes) (i : Nat) : ExceptT ε Option UInt8 := ExceptT.lift bytes[i]?

/-- The slice `bytes[start..start + n]`. -/
def slice (bytes : Bytes) (start n : Nat) : ExceptT ε Option (Block n) :=
  ExceptT.lift (if start + n ≤ bytes.length then some (.fit n (bytes.drop start)) else none)

/-- The slice `bytes[start..]`. -/
def sliceFrom (bytes : Bytes) (start : Nat) : ExceptT ε Option Bytes :=
  ExceptT.lift (if start ≤ bytes.length then some (bytes.drop start) else none)

/-- One slice behind another. -/
def slices (bytes : Bytes) (n : Nat) : Nat → Nat → ExceptT ε Option (List (Block n))
  | 0, _ => pure []
  | count + 1, start => do
    let b ← slice bytes start n
    let bs ← slices bytes n count (start + n)
    return b :: bs

/-- A value or an error, reached with every read inside of the input. -/
def inside (x : Except ε α) : ExceptT ε Option α := ExceptT.mk (some x)

def check (p : Prop) [Decidable p] (err : ε) : ExceptT ε Option Unit := inside (ensure p err)

theorem takeBlock_drop (h : start + n ≤ bytes.length) :
    takeBlock err n (bytes.drop start) = .ok (.fit n (bytes.drop start), bytes.drop (start + n)) := by
  have hn : n ≤ (bytes.drop start).length := by
    rw [List.length_drop]
    omega
  rw [takeBlock, dif_pos hn, List.drop_drop]
  congr 2
  ext1
  exact (List.take_append_of_le_length hn).symm

theorem slice_eq (h : start + n ≤ bytes.length) :
    (slice bytes start n : ExceptT ε Option (Block n)) = pure (.fit n (bytes.drop start)) := by
  rw [slice, if_pos h]
  rfl

theorem sliceFrom_eq (h : start ≤ bytes.length) :
    (sliceFrom bytes start : ExceptT ε Option Bytes) = pure (bytes.drop start) := by
  rw [sliceFrom, if_pos h]
  rfl

/-- Reads that name one error for a string too short for all of them. -/
theorem takeBlock_bind_error {f : Block n × Bytes → Except ε β}
    (h : n ≤ bytes.length → ∀ b, f (b, bytes.drop n) = .error err) : takeBlock err n bytes >>= f = .error err := by
  unfold takeBlock
  split
  · next hn => exact h hn _
  · rfl

variable {x : Except ε α} {k : α → ExceptT ε Option β}

theorem inside_bind {f : α → Except ε β}
    (h : ∀ a, x = .ok a → k a = inside (f a)) : inside x >>= k = inside (x >>= f) := by
  cases x with
  | error e => rfl
  | ok a => exact h a rfl

/-- A check ahead of reads that would all stop with its error. -/
theorem check_bind {p : Prop} [Decidable p] {k : Unit → ExceptT ε Option β} {y : Except ε β} (h : p → k () = inside y)
    (hnot : ¬p → y = .error err) : check p err >>= k = inside y := by
  by_cases hp : p
  · rw [check, ensure_of hp]
    exact h hp
  · rw [check, ensure_of_not hp, hnot hp]
    rfl

theorem slice_bind {k : Block n → ExceptT ε Option β} {f : Block n × Bytes → Except ε β}
    (hle : start + n ≤ bytes.length) (h : ∀ b, k b = inside (f (b, bytes.drop (start + n)))) :
    slice bytes start n >>= k = inside (takeBlock err n (bytes.drop start) >>= f) := by
  rw [slice_eq hle, takeBlock_drop hle]
  exact h _

theorem index_bind {k : UInt8 → ExceptT ε Option β} {f : UInt8 × Bytes → Except ε β} (hlt : start < bytes.length)
    (h : ∀ b, k b = inside (f (b, bytes.drop (start + 1)))) :
    index bytes start >>= k = inside (takeByte err (bytes.drop start) >>= f) := by
  rw [index, List.getElem?_eq_getElem hlt, List.drop_eq_getElem_cons hlt]
  exact h _

theorem slices_bind {count : Nat} {k : List (Block n) → ExceptT ε Option β} {f : List (Block n) × Bytes → Except ε β}
    (hle : start + count * n ≤ bytes.length) (h : ∀ bs, k bs = inside (f (bs, bytes.drop (start + count * n)))) :
    slices bytes n count start >>= k = inside (takeBlocks err n count (bytes.drop start) >>= f) := by
  induction count generalizing start k f with
  | zero =>
    rw [Nat.zero_mul] at h
    exact h []
  | succ count ih =>
    rw [Nat.succ_mul] at hle
    rw [slices, takeBlocks, bind_assoc, bind_assoc]
    refine slice_bind (by omega) fun b => ?_
    rw [bind_assoc, bind_assoc]
    refine ih (by omega) fun bs => ?_
    rw [Nat.add_assoc, Nat.add_comm n, ← Nat.succ_mul]
    exact h (b :: bs)

/-! ### What a decoder accepts, and when it stays inside of its input -/

theorem bind_eq_ok {x : ExceptT ε Option α} {b : β} :
    x >>= k = inside (.ok b) ↔ ∃ a, x = inside (.ok a) ∧ k a = inside (.ok b) := by
  constructor
  · intro h
    obtain _ | _ | a := x
    iterate 2 cases h
    exact ⟨a, rfl, h⟩
  · rintro ⟨a, rfl, h⟩
    exact h

theorem inside_eq_ok {a : α} : inside x = inside (.ok a) ↔ x = .ok a := Option.some_inj

theorem drop_add {rest : Bytes} {b : Block n} (h : bytes.drop start = b.bytes ++ rest) :
    bytes.drop (start + n) = rest := by
  rw [← List.drop_drop, h, List.drop_left' b.length_bytes]

theorem drop_eq_fit (h : start + n ≤ bytes.length) :
    bytes.drop start = (Block.fit n (bytes.drop start)).bytes ++ bytes.drop (start + n) := by
  have hread : takeBlock () n (bytes.drop start) = _ := takeBlock_drop h
  exact takeBlock_eq_ok.mp hread

theorem slice_eq_ok {b : Block n} : slice bytes start n = (inside (.ok b) : ExceptT ε Option (Block n)) ↔
    start + n ≤ bytes.length ∧ bytes.drop start = b.bytes ++ bytes.drop (start + n) := by
  constructor
  · intro h
    by_cases hle : start + n ≤ bytes.length
    · rw [slice_eq hle] at h
      cases h
      exact ⟨hle, drop_eq_fit hle⟩
    · rw [slice, if_neg hle] at h
      cases h
  · rintro ⟨hle, hdrop⟩
    rw [slice_eq hle, (block_append_inj ((drop_eq_fit hle).symm.trans hdrop)).1]
    rfl

theorem index_eq_ok {b : UInt8} : index bytes start = (inside (.ok b) : ExceptT ε Option UInt8) ↔
    bytes.drop start = b :: bytes.drop (start + 1) := by
  rw [index]
  cases hget : bytes[start]? with
  | none =>
    rw [List.drop_eq_nil_of_le (List.getElem?_eq_none_iff.mp hget)]
    exact ⟨nofun, nofun⟩
  | some c =>
    obtain ⟨hlt, rfl⟩ := List.getElem?_eq_some_iff.mp hget
    rw [List.drop_eq_getElem_cons hlt, List.cons.injEq, and_iff_left rfl]
    exact ⟨fun h => by cases h; rfl, fun h => by cases h; rfl⟩

/-- Every read is inside of the input. -/
def Safe (x : ExceptT ε Option α) : Prop := ∃ y, x = inside y

theorem safe_inside :
    Safe (inside x >>= k) ↔ ∀ a, x = .ok a → Safe (k a) := by
  cases x with
  | error e => exact iff_of_true ⟨.error e, rfl⟩ nofun
  | ok a => exact ⟨fun h _ ha => by cases ha; exact h, fun h => h a rfl⟩

theorem safe_check {p : Prop} [Decidable p] {k : Unit → ExceptT ε Option β} :
    Safe (check p err >>= k) ↔ (p → Safe (k ())) :=
  safe_inside.trans ⟨fun h hp => h () (ensure_of hp), fun h _ hp => h (ensure_eq_ok.mp hp)⟩

theorem safe_slice {k : Block n → ExceptT ε Option β} :
    Safe (slice bytes start n >>= k) ↔ start + n ≤ bytes.length ∧ Safe (k (.fit n (bytes.drop start))) := by
  by_cases hle : start + n ≤ bytes.length
  · rw [slice_eq hle, pure_bind, and_iff_right hle]
  · rw [slice, if_neg hle]
    exact iff_of_false (fun ⟨_, h⟩ => by cases h) fun h => hle h.1

theorem safe_index {k : UInt8 → ExceptT ε Option β} :
    Safe (index bytes start >>= k) ↔ start < bytes.length ∧ ∀ b ∈ bytes[start]?, Safe (k b) := by
  rw [index]
  cases hget : bytes[start]? with
  | none =>
    refine iff_of_false (fun ⟨_, h⟩ => by cases h) fun h => ?_
    exact absurd h.1 (Nat.not_lt.mpr (List.getElem?_eq_none_iff.mp hget))
  | some b =>
    obtain ⟨hlt, -⟩ := List.getElem?_eq_some_iff.mp hget
    exact ⟨fun h => ⟨hlt, fun _ hb => by cases hb; exact h⟩, fun h => h.2 b rfl⟩

end Wire
