import HpnVpn.Bytes
import HpnVpn.Runs

/-! The server's log file, renamed to `.1` when it has its size, after `.1` to `.2` and so on; the last is deleted
first.  File operations succeed. -/
namespace HpnVpn.LogRotation
open Wire Function

inductive LogName
  | primary
  | rotated (i : Nat)
  | rotateTmp
deriving DecidableEq

open LogName

abbrev LogFiles := LogName → Option Bytes

/-- A rename replaces the target; its error, if there is no such file, is ignored. -/
def rename (files : LogFiles) (source target : LogName) : LogFiles :=
  match files source with
  | none => files
  | some content => update (update files target (some content)) source none

def openFile (files : LogFiles) (name : LogName) : LogFiles := update files name (some ((files name).getD []))

/-- The open file is the one that is called `primary`. -/
structure RollingFileInner where
  files : LogFiles
  currentSize : Nat
  maxSize : Nat
  maxFiles : Nat

namespace RollingFileInner

def new (files : LogFiles) (maxSize maxFiles : Nat) : RollingFileInner :=
  ⟨openFile files primary, ((files primary).getD []).length, maxSize, maxFiles⟩

def rotate (w : RollingFileInner) : RollingFileInner :=
  let files := openFile w.files rotateTmp
  let files := update files (rotated w.maxFiles) none
  let files := Runs.forRev 1 (fun i files => rename files (rotated i) (rotated (i + 1))) (w.maxFiles - 1) files
  let files := rename files primary (rotated 1)
  { w with files := rename files rotateTmp primary, currentSize := 0 }

def append (w : RollingFileInner) (buf : Bytes) : RollingFileInner :=
  { w with files := update w.files primary (some ((w.files primary).getD [] ++ buf))
           currentSize := w.currentSize + buf.length }

/-- A write; `buf` is what the file takes of it. -/
def write (w : RollingFileInner) (buf : Bytes) : RollingFileInner :=
  let w := w.append buf
  if w.maxSize ≤ w.currentSize then w.rotate else w

end RollingFileInner

/-- The bytes of `.n`, ..., `.1`. -/
def joinedRotated (files : LogFiles) : Nat → Bytes
  | 0 => []
  | n + 1 => (files (rotated (n + 1))).getD [] ++ joinedRotated files n

def joined (files : LogFiles) (n : Nat) : Bytes := joinedRotated files n ++ (files primary).getD []

variable {files : LogFiles} {n : Nat}

theorem rename_eq {source target : LogName} (hfree : files target = none) :
    rename files source target = update (update files target (files source)) source none := by
  unfold rename
  cases hsource : files source with
  | none =>
    have htarget : update files target none = files := update_eq_self_iff.mpr hfree.symm
    rw [htarget]
    exact (update_eq_self_iff.mpr hsource.symm).symm
  | some content => rfl

/-- The shift of `.1`, ..., `.n` when `.n + 1` is free. -/
theorem shift_apply (n : Nat) (files : LogFiles) (hfree : files (rotated (n + 1)) = none) :
    let shifted := Runs.forRev 1 (fun i files => rename files (rotated i) (rotated (i + 1))) n files
    (∀ j, shifted (rotated (j + 1)) =
      if j = 0 then none else if j ≤ n then files (rotated j) else files (rotated (j + 1))) ∧
      shifted primary = files primary ∧ shifted rotateTmp = files rotateTmp := by
  induction n generalizing files with
  | zero =>
    refine ⟨fun j => ?_, rfl, rfl⟩
    by_cases hj : j = 0
    · rw [if_pos hj, hj]
      exact hfree
    · rw [if_neg hj, if_neg (by omega)]
      rfl
  | succ n ih =>
    obtain ⟨hrotated, hprimary, htmp⟩ := ih (rename files (rotated (1 + n)) (rotated (1 + n + 1)))
      (by rw [Nat.add_comm 1 n, rename_eq hfree, update_self])
    rw [Nat.add_comm 1 n, rename_eq hfree] at hrotated hprimary htmp
    rw [Runs.forRev, Nat.add_comm 1 n, rename_eq hfree]
    refine ⟨fun j => (hrotated j).trans ?_, hprimary, htmp⟩
    simp only [update_apply, rotated.injEq]
    split_ifs <;> first | rfl | omega | (congr 2; omega)

theorem rotate_apply {w : RollingFileInner} (hmax : w.maxFiles = n + 1) (htmp : w.files rotateTmp = none) :
    (∀ j, w.rotate.files (rotated (j + 1)) = if j = 0 then w.files primary
      else if j ≤ n then w.files (rotated j) else w.files (rotated (j + 1))) ∧
      w.rotate.files primary = some [] ∧ w.rotate.files rotateTmp = none := by
  obtain ⟨hrotated, hprimary, htmp'⟩ := shift_apply n (update (openFile w.files rotateTmp) (rotated (n + 1)) none)
    (update_self ..)
  simp only [RollingFileInner.rotate, hmax, Nat.add_sub_cancel]
  generalize Runs.forRev 1 _ n _ = shifted at hrotated hprimary htmp' ⊢
  rw [rename_eq (hrotated 0), rename_eq (by simp)]
  simp only [openFile, htmp, Option.getD_none] at hrotated hprimary htmp'
  simp only [update_apply, reduceCtorEq, if_false, if_true] at hrotated hprimary htmp' ⊢
  refine ⟨fun j => ?_, htmp', trivial⟩
  rw [hrotated, hprimary]
  simp only [rotated.injEq]
  split_ifs <;> first | rfl | omega

/-- A rotation renames every file and drops the last one. -/
theorem rotate_joined {w : RollingFileInner} (hmax : w.maxFiles = n + 1) (htmp : w.files rotateTmp = none) :
    (w.files (rotated (n + 1))).getD [] ++ joined w.rotate.files (n + 1) = joined w.files (n + 1) := by
  obtain ⟨hrotated, hprimary, -⟩ := rotate_apply hmax htmp
  have hshifted : ∀ k ≤ n, joinedRotated w.rotate.files (k + 1) =
      joinedRotated w.files k ++ (w.files primary).getD [] := by
    intro k hk
    induction k with
    | zero => simp only [joinedRotated, hrotated 0, if_true, List.append_nil, List.nil_append]
    | succ k ih =>
      rw [joinedRotated, ih (by omega), hrotated, if_neg (by omega), if_pos hk, joinedRotated, List.append_assoc]
  rw [joined, joined, hprimary, hshifted n le_rfl, Option.getD_some, List.append_nil, joinedRotated, List.append_assoc]

theorem joined_update (content : Bytes) (n : Nat) :
    joined (update files primary (some content)) n = joinedRotated files n ++ content := by
  have hrotated : joinedRotated (update files primary (some content)) n = joinedRotated files n := by
    induction n with
    | zero => rfl
    | succ n ih =>
      rw [joinedRotated, ih]
      rfl
  rw [joined, hrotated, update_self, Option.getD_some]

/-- A writer that keeps `n + 1` rotated files and has left alone those with higher numbers. -/
structure Keeps (n : Nat) (files : LogFiles) (w : RollingFileInner) : Prop where
  maxFiles : w.maxFiles = n + 1
  tmp : w.files rotateTmp = none
  above : ∀ i, n + 1 < i → w.files (rotated i) = files (rotated i)

variable {w : RollingFileInner}

theorem Keeps.rotate (h : Keeps n files w) : Keeps n files w.rotate := by
  obtain ⟨hrotated, -, htmp⟩ := rotate_apply h.maxFiles h.tmp
  refine ⟨h.maxFiles, htmp, fun i hi => ?_⟩
  obtain ⟨j, rfl⟩ := Nat.exists_eq_succ_of_ne_zero (Nat.ne_zero_of_lt hi)
  rw [Nat.succ_eq_add_one, hrotated, if_neg (by omega), if_neg (by omega)]
  exact h.above _ hi

/-- A write appends to the primary file; if it rotates, the file with the highest number is lost. -/
theorem Keeps.write (h : Keeps n files w) (buf : Bytes) :
    Keeps n files (w.write buf) ∧ (joined (w.write buf).files (n + 1) = joined w.files (n + 1) ++ buf ∨
      (w.append buf).maxSize ≤ (w.append buf).currentSize ∧
        (w.files (rotated (n + 1))).getD [] ++ joined (w.write buf).files (n + 1) = joined w.files (n + 1) ++ buf) := by
  have happend : Keeps n files (w.append buf) := ⟨h.maxFiles, h.tmp, h.above⟩
  have hjoined : joined (w.append buf).files (n + 1) = joined w.files (n + 1) ++ buf := by
    rw [RollingFileInner.append, joined_update, joined, List.append_assoc]
  unfold RollingFileInner.write
  dsimp only
  split
  · next hfull => exact ⟨happend.rotate, .inr ⟨hfull, (rotate_joined happend.maxFiles happend.tmp).trans hjoined⟩⟩
  · exact ⟨happend, .inl hjoined⟩

theorem Keeps.run (h : Keeps n files w) (writes : List Bytes) :
    Keeps n files (Runs.exec RollingFileInner.write w writes) ∧
      joined (Runs.exec RollingFileInner.write w writes).files (n + 1) <:+ joined w.files (n + 1) ++ writes.flatten := by
  induction writes generalizing w with
  | nil => exact ⟨h, [], (List.append_nil _).symm⟩
  | cons buf writes ih =>
    obtain ⟨hkeeps, hjoined⟩ := h.write buf
    obtain ⟨hrun, lost, hrest⟩ := ih hkeeps
    refine ⟨hrun, ?_⟩
    rw [Runs.exec_cons, List.flatten_cons, ← List.append_assoc]
    obtain hall | ⟨-, holdest⟩ := hjoined
    · exact ⟨lost, hall ▸ hrest⟩
    · exact ⟨(w.files (rotated (n + 1))).getD [] ++ lost, by rw [← holdest, List.append_assoc, hrest, List.append_assoc]⟩

/-- The files there are at first: a primary one or none, and rotated ones with any numbers. -/
def initialFiles (first : Option Bytes) (older : Nat → Option Bytes) : LogFiles
  | primary => first
  | rotated i => older i
  | rotateTmp => none

/-- The files from the highest number down hold the end of what was there and was written since, no file with a higher
number is touched, and only the file with the highest number is lost. -/
theorem log_rotation_loses_oldest (first : Option Bytes) (older : Nat → Option Bytes) (maxSize n : Nat)
    (writes : List Bytes) :
    let files := initialFiles first older
    let w := Runs.exec RollingFileInner.write (.new files maxSize (n + 1)) writes
    joined w.files (n + 1) <:+ joined files (n + 1) ++ writes.flatten ∧
      (∀ i, n + 1 < i → w.files (rotated i) = files (rotated i)) ∧
      ∀ buf, joined (w.write buf).files (n + 1) = joined w.files (n + 1) ++ buf ∨
        (w.append buf).maxSize ≤ (w.append buf).currentSize ∧
          (w.files (rotated (n + 1))).getD [] ++ joined (w.write buf).files (n + 1) = joined w.files (n + 1) ++ buf := by
  intro files w
  have hnew : Keeps n files (.new files maxSize (n + 1)) := ⟨rfl, rfl, fun _ _ => rfl⟩
  obtain ⟨hkeeps, hjoined⟩ := hnew.run writes
  rw [RollingFileInner.new, openFile, joined_update] at hjoined
  exact ⟨hjoined, hkeeps.above, fun buf => (hkeeps.write buf).2⟩

end HpnVpn.LogRotation
