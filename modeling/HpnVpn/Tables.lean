import Mathlib.Data.List.AList
import Mathlib.Algebra.Group.Action.Defs
import Mathlib.Data.Finset.Max
import Mathlib.Algebra.Order.BigOperators.Group.List
import Mathlib.Algebra.Order.Ring.Nat

/-! Tables keyed by identifiers.  What `onEntry` does to a table is read off the operation on the entry. -/
namespace Tables

abbrev Table (κ α : Type) := AList (fun _ : κ => α)

variable {κ α β : Type} [DecidableEq κ]

private theorem dlookup_kreplace (k : κ) (a : α) (entries : List (Sigma fun _ : κ => α)) (k' : κ) :
    (entries.kreplace k a).dlookup k' =
      if k' = k then (entries.dlookup k).map fun _ => a else entries.dlookup k' := by
  induction entries with
  | nil => simp [List.kreplace]
  | cons entry entries ih =>
    obtain ⟨key, value⟩ := entry
    rw [List.kreplace] at ih ⊢
    by_cases hkey : k = key
    · subst hkey
      rw [List.lookmap_cons_some _ _ (dif_pos rfl)]
      by_cases hk : k' = k
      · subst hk
        simp
      · rw [if_neg hk, List.dlookup_cons_ne _ _ hk, List.dlookup_cons_ne _ _ hk]
    · rw [List.lookmap_cons_none _ _ (dif_neg hkey)]
      by_cases hk : k' = key
      · subst hk
        rw [if_neg (Ne.symm hkey), List.dlookup_cons_eq, List.dlookup_cons_eq]
      · rw [List.dlookup_cons_ne _ _ hk, ih, List.dlookup_cons_ne _ _ hkey, List.dlookup_cons_ne _ _ hk]

theorem lookup_replace (k : κ) (a : α) (t : Table κ α) (k' : κ) :
    (t.replace k a).lookup k' = if k' = k then (t.lookup k).map fun _ => a else t.lookup k' :=
  dlookup_kreplace k a t.entries k'

theorem replace_of_lookup {k : κ} {a : α} {t : Table κ α} (h : t.lookup k = some a) : t.replace k a = t := by
  apply AList.ext
  exact List.kreplace_self t.nodupKeys ((List.mem_dlookup_iff t.nodupKeys).mp h)

/-- Run `f` on the entry of `k`; without one nothing happens and the answer is `absent`. -/
def onEntry (t : Table κ α) (k : κ) (f : α → α × β) (absent : β) : Table κ α × β :=
  match t.lookup k with
  | none => (t, absent)
  | some a => (t.replace k (f a).1, (f a).2)

def retain (t : Table κ α) (keep : κ → α → Bool) : Table κ α :=
  ⟨t.entries.filter fun e => keep e.1 e.2, t.nodupKeys.sublist List.filter_sublist⟩

variable {t : Table κ α} {k k' : κ} {a : α} {f : α → α × β} {absent : β}

theorem onEntry_of_none (h : t.lookup k = none) : onEntry t k f absent = (t, absent) := by
  rw [onEntry, h]

theorem onEntry_of_some (h : t.lookup k = some a) : onEntry t k f absent = (t.replace k (f a).1, (f a).2) := by
  rw [onEntry, h]

theorem lookup_onEntry :
    (onEntry t k f absent).1.lookup k' =
      if k' = k then (t.lookup k).map fun a => (f a).1 else t.lookup k' := by
  cases h : t.lookup k with
  | none =>
    rw [onEntry_of_none h]
    split
    · rename_i heq
      rw [heq, h]
      rfl
    · rfl
  | some a =>
    rw [onEntry_of_some h]
    rw [lookup_replace, h]
    rfl

theorem lookup_onEntry_self (h : t.lookup k = some a) : (onEntry t k f absent).1.lookup k = some (f a).1 := by
  rw [lookup_onEntry, if_pos rfl, h]
  rfl

theorem keys_onEntry (t : Table κ α) (k : κ) (f : α → α × β) (absent : β) : (onEntry t k f absent).1.keys = t.keys := by
  cases h : t.lookup k with
  | none => rw [onEntry_of_none h]
  | some a =>
    rw [onEntry_of_some h]
    exact AList.keys_replace k _ t

theorem onEntry_eq_self (h : t.lookup k = some a) : (onEntry t k f absent).1 = t ↔ (f a).1 = a := by
  rw [onEntry_of_some h]
  constructor
  · intro heq
    have hentry : (t.replace k (f a).1).lookup k = t.lookup k := congrArg (AList.lookup k) heq
    rw [lookup_replace, if_pos rfl, h] at hentry
    exact Option.some.inj hentry
  · intro heq
    rw [heq]
    exact replace_of_lookup h

/-- Every entry of `t'` comes, by `R`, from the entry of `t` under the same key; entries may be gone. -/
def Derives (R : α → α → Prop) (t t' : Table κ α) : Prop :=
  ∀ k a', t'.lookup k = some a' → ∃ a, t.lookup k = some a ∧ R a a'

variable {R : α → α → Prop}

theorem Derives.comp {R' R'' : α → α → Prop} {t t' t'' : Table κ α} (h : Derives R t t')
    (h' : Derives R' t' t'') (hR : ∀ {a b c}, R a b → R' b c → R'' a c) : Derives R'' t t'' := by
  intro k c hc
  obtain ⟨b, hb, hbc⟩ := h' k c hc
  obtain ⟨a, ha, hab⟩ := h k b hb
  exact ⟨a, ha, hR hab hbc⟩

theorem derives_of_lookup {t t' : Table κ α} (hrefl : ∀ a, R a a)
    (h : ∀ k, t'.lookup k = none ∨ t'.lookup k = t.lookup k) : Derives R t t' := by
  intro k a' ha'
  rcases h k with hnone | hsame
  · rw [hnone] at ha'
    cases ha'
  · exact ⟨a', hsame ▸ ha', hrefl a'⟩

theorem derives_onEntry (hrefl : ∀ a, R a a) (hf : ∀ a, R a (f a).1) : Derives R t (onEntry t k f absent).1 := by
  intro k' a' ha'
  rw [lookup_onEntry] at ha'
  split at ha'
  · rename_i hk
    obtain ⟨a, ha, rfl⟩ := Option.map_eq_some_iff.mp ha'
    exact ⟨a, hk ▸ ha, hf a⟩
  · exact ⟨a', ha', hrefl a'⟩

theorem lookup_insert_eq_update (t : Table κ α) (k : κ) (a : α) :
    (fun k' => (t.insert k a).lookup k') = Function.update (fun k' => t.lookup k') k (some a) := by
  funext k'
  by_cases h : k' = k
  · subst h
    rw [Function.update_self, AList.lookup_insert]
  · rw [Function.update_of_ne h, AList.lookup_insert_ne h]

theorem lookup_erase_eq_update (t : Table κ α) (k : κ) :
    (fun k' => (t.erase k).lookup k') = Function.update (fun k' => t.lookup k') k none := by
  funext k'
  by_cases h : k' = k
  · subst h
    rw [Function.update_self, AList.lookup_erase]
  · rw [Function.update_of_ne h, AList.lookup_erase_ne h]

theorem keys_length_insert {t : Table κ α} {k : κ} (h : t.lookup k = none) (a : α) :
    (t.insert k a).keys.length = t.keys.length + 1 := by
  rw [AList.keys_insert, List.length_cons, List.erase_of_not_mem (AList.lookup_eq_none.mp h)]

theorem keys_length_erase {t : Table κ α} {k : κ} {a : α} (h : t.lookup k = some a) :
    (t.erase k).keys.length + 1 = t.keys.length := by
  have hmem : k ∈ t.keys := AList.mem_keys.mp (AList.lookup_isSome.mp (Option.isSome_of_eq_some h))
  rw [AList.keys_erase, List.length_erase_of_mem hmem]
  exact Nat.sub_add_cancel (List.length_pos_of_mem hmem)

theorem lookup_retain {keep : κ → α → Bool} : (retain t keep).lookup k = (t.lookup k).filter (keep k) := by
  apply Option.ext
  intro a
  have hmem : a ∈ (retain t keep).lookup k ↔ a ∈ t.lookup k ∧ keep k a = true := by
    rw [AList.mem_lookup_iff, AList.mem_lookup_iff, retain, List.mem_filter]
  rw [← Option.mem_def, hmem, Option.mem_def, Option.filter_eq_some_iff]

def total (weight : α → Nat) (t : Table κ α) : Nat := (t.entries.map fun entry => weight entry.2).sum

variable {weight : α → Nat}

theorem total_erase (weight : α → Nat) (h : t.lookup k = some a) :
    total weight (t.erase k) + weight a = total weight t := by
  have hmem : k ∈ t.entries.keys := AList.mem_keys.mp (AList.lookup_isSome.mp (Option.isSome_of_eq_some h))
  obtain ⟨b, before, after, hbefore, hentries, hkerase⟩ := List.exists_of_kerase hmem
  have hb : b = a := by
    have : t.entries.dlookup k = some b := by
      rw [hentries, List.dlookup_append, List.dlookup_eq_none.mpr hbefore, Option.none_or, List.dlookup_cons_eq]
    exact Option.some.inj (this.symm.trans h)
  have herase : (t.erase k).entries = before ++ after := hkerase
  rw [total, total, herase, hentries, hb]
  simp only [List.map_append, List.map_cons, List.sum_append, List.sum_cons]
  omega

theorem total_insert (t : Table κ α) (k : κ) (a : α) :
    total weight (t.insert k a) = total weight (t.erase k) + weight a := by
  rw [total, AList.entries_insert, List.map_cons, List.sum_cons, Nat.add_comm]
  rfl

theorem erase_of_lookup (h : t.lookup k = none) : t.erase k = t :=
  AList.ext (List.kerase_of_notMem_keys (AList.lookup_eq_none.mp h))

theorem erase_insert (t : Table κ α) (k : κ) (a : α) : (t.insert k a).erase k = t.erase k := by
  apply AList.ext
  change ((t.insert k a).entries).kerase k = t.entries.kerase k
  rw [AList.entries_insert]
  exact List.kerase_cons_eq rfl

theorem total_congr {weight' : α → Nat} (h : ∀ k a, t.lookup k = some a → weight a = weight' a) :
    total weight t = total weight' t := by
  apply congrArg List.sum
  apply List.map_congr_left
  intro entry hentry
  exact h entry.1 entry.2 (AList.mem_lookup_iff.mpr hentry)

theorem total_le_mul {bound : Nat} (h : ∀ k a, t.lookup k = some a → weight a ≤ bound) :
    total weight t ≤ t.keys.length * bound := by
  have hsum := List.sum_le_card_nsmul (t.entries.map fun entry => weight entry.2) bound ?_
  · rwa [List.length_map, ← List.length_map Sigma.fst, smul_eq_mul] at hsum
  · intro w hw
    obtain ⟨entry, hentry, rfl⟩ := List.mem_map.mp hw
    exact h entry.1 entry.2 (AList.mem_lookup_iff.mpr hentry)

theorem exists_lt_of_total_lt {bound : Nat} (h : total weight t < t.keys.length * bound) :
    ∃ k a, t.lookup k = some a ∧ weight a < bound := by
  by_contra hall
  push Not at hall
  have hsum := List.card_nsmul_le_sum (t.entries.map fun entry => weight entry.2) bound ?_
  · rw [List.length_map, ← List.length_map Sigma.fst, smul_eq_mul] at hsum
    exact absurd h (not_lt.mpr hsum)
  · intro w hw
    obtain ⟨entry, hentry, rfl⟩ := List.mem_map.mp hw
    exact hall entry.1 entry.2 (AList.mem_lookup_iff.mpr hentry)

private theorem kerase_cons_self {κ : Type} [DecidableEq κ] (k : κ) (a : α) (entries : List (Sigma fun _ : κ => α)) :
    List.kerase k (⟨k, a⟩ :: entries) = entries := List.kerase_cons_eq rfl

private theorem kerase_kreplace (k : κ) (a : α) (entries : List (Sigma fun _ : κ => α)) :
    (entries.kreplace k a).kerase k = entries.kerase k := by
  induction entries with
  | nil => rfl
  | cons entry entries ih =>
    obtain ⟨key, value⟩ := entry
    rw [List.kreplace] at ih ⊢
    by_cases hkey : k = key
    · subst hkey
      rw [List.lookmap_cons_some _ _ (dif_pos rfl)]
      rw [kerase_cons_self, kerase_cons_self]
    · rw [List.lookmap_cons_none _ _ (dif_neg hkey), List.kerase_cons_ne hkey, List.kerase_cons_ne hkey, ih]

theorem total_onEntry (h : ∀ a, weight (f a).1 = weight a) : total weight (onEntry t k f absent).1 = total weight t := by
  cases hlookup : t.lookup k with
  | none => rw [onEntry_of_none hlookup]
  | some a =>
    have hself : (onEntry t k f absent).1.lookup k = some (f a).1 := lookup_onEntry_self hlookup
    have hnew := total_erase weight hself
    have hold := total_erase weight hlookup
    have herase : (onEntry t k f absent).1.erase k = t.erase k := by
      rw [onEntry_of_some hlookup]
      exact AList.ext (kerase_kreplace k (f a).1 t.entries)
    rw [← hnew, ← hold, herase, h]

omit [DecidableEq κ] in
theorem total_retain_add (keep : κ → α → Bool) :
    total weight (retain t keep) + ((t.entries.filter fun e => !keep e.1 e.2).map fun e => weight e.2).sum =
      total weight t := by
  have hsplit : ∀ entries : List (Sigma fun _ : κ => α),
      ((entries.filter fun e => keep e.1 e.2).map fun e => weight e.2).sum +
          ((entries.filter fun e => !keep e.1 e.2).map fun e => weight e.2).sum =
        (entries.map fun e => weight e.2).sum := by
    intro entries
    induction entries with
    | nil => rfl
    | cons entry entries ih =>
      cases hkeep : keep entry.1 entry.2 with
      | true =>
        simp only [List.filter_cons, hkeep, Bool.not_true, if_true, Bool.false_eq_true, if_false, List.map_cons,
          List.sum_cons]
        omega
      | false =>
        simp only [List.filter_cons, hkeep, Bool.not_false, if_true, Bool.false_eq_true, if_false, List.map_cons,
          List.sum_cons]
        omega
  exact hsplit t.entries

theorem keys_length_erase_le (t : Table κ α) (k : κ) : (t.erase k).keys.length ≤ t.keys.length := by
  rw [AList.keys_erase]
  exact List.length_erase_le

theorem keys_length_insert_of_some (h : t.lookup k = some a) (b : α) : (t.insert k b).keys.length = t.keys.length := by
  have hmem : k ∈ t.keys := AList.mem_keys.mp (AList.lookup_isSome.mp (Option.isSome_of_eq_some h))
  rw [AList.keys_insert, List.length_cons, List.length_erase_of_mem hmem]
  exact Nat.sub_add_cancel (List.length_pos_of_mem hmem)

section Renaming
variable {κ' : Type} [DecidableEq κ']

/-! ### Renamed keys -/

def renameKeys (ρ : κ → κ') (entries : List (Sigma fun _ : κ => α)) : List (Sigma fun _ : κ' => α) :=
  entries.map fun entry => ⟨ρ entry.1, entry.2⟩

/-- `t'` is `t` with its keys renamed, entry by entry. -/
def Renames (ρ : κ → κ') (t : Table κ α) (t' : Table κ' α) : Prop := t'.entries = renameKeys ρ t.entries

def Apart (ρ : κ → κ') (k : κ) (keys : List κ) : Prop := ∀ k' ∈ keys, ρ k' = ρ k → k' = k

section Entries
variable {ρ : κ → κ'} {k key : κ} {value : α} {entries : List (Sigma fun _ : κ => α)}

omit [DecidableEq κ] [DecidableEq κ'] in
theorem renameKeys_cons : renameKeys ρ (⟨key, value⟩ :: entries) = ⟨ρ key, value⟩ :: renameKeys ρ entries := rfl

theorem dlookup_renameKeys (h : Apart ρ k entries.keys) : (renameKeys ρ entries).dlookup (ρ k) = entries.dlookup k := by
  induction entries with
  | nil => rfl
  | cons entry entries ih =>
    obtain ⟨key, value⟩ := entry
    rw [List.keys_cons, Apart, List.forall_mem_cons] at h
    rw [renameKeys_cons]
    by_cases hkey : k = key
    · subst hkey
      rw [List.dlookup_cons_eq, List.dlookup_cons_eq]
    · have hne : ρ k ≠ ρ key := fun heq => hkey (h.1 heq.symm).symm
      rw [List.dlookup_cons_ne _ _ hne, List.dlookup_cons_ne _ _ hkey, ih h.2]

theorem kerase_renameKeys (h : Apart ρ k entries.keys) :
    (renameKeys ρ entries).kerase (ρ k) = renameKeys ρ (entries.kerase k) := by
  induction entries with
  | nil => rfl
  | cons entry entries ih =>
    obtain ⟨key, value⟩ := entry
    rw [List.keys_cons, Apart, List.forall_mem_cons] at h
    rw [renameKeys_cons]
    by_cases hkey : k = key
    · subst hkey
      rw [kerase_cons_self, kerase_cons_self]
    · have hne : ρ k ≠ ρ key := fun heq => hkey (h.1 heq.symm).symm
      rw [List.kerase_cons_ne hne, List.kerase_cons_ne hkey, renameKeys_cons, ih h.2]

end Entries

variable {ρ : κ → κ'} {t : Table κ α} {t' : Table κ' α} {k : κ}

theorem Renames.lookup (h : Renames ρ t t') (hk : Apart ρ k t.keys) : t'.lookup (ρ k) = t.lookup k := by
  unfold AList.lookup
  rw [h]
  exact dlookup_renameKeys hk

theorem Renames.erase (h : Renames ρ t t') (hk : Apart ρ k t.keys) : Renames ρ (t.erase k) (t'.erase (ρ k)) := by
  have herase := kerase_renameKeys hk
  rw [← h] at herase
  exact herase

theorem Renames.insert (h : Renames ρ t t') (hk : Apart ρ k t.keys) (a : α) :
    Renames ρ (t.insert k a) (t'.insert (ρ k) a) := by
  have herase := h.erase hk
  exact congrArg (List.cons ⟨ρ k, a⟩) herase

omit [DecidableEq κ] [DecidableEq κ'] in
theorem Renames.keys_length (h : Renames ρ t t') : t'.keys.length = t.keys.length := by
  unfold AList.keys List.keys
  rw [h, renameKeys, List.length_map, List.length_map, List.length_map]

end Renaming

/-- A way to take some element of a list of candidates, as a search in a hash map does. -/
structure Chooser (α : Type) where
  choose : List α → Option α
  choose_mem : ∀ {candidates a}, choose candidates = some a → a ∈ candidates
  choose_none : ∀ {candidates}, choose candidates = none → candidates = []

def Chooser.first : Chooser α where
  choose := List.head?
  choose_mem := List.mem_of_mem_head?
  choose_none := List.head?_eq_none_iff.mp

/-- A way to take some element of a finite set, as iterating over a hash set does. -/
structure Picker (α : Type) where
  pick : Finset α → Option α
  pick_mem : ∀ {s a}, pick s = some a → a ∈ s
  pick_none : ∀ {s}, pick s = none → s = ∅

theorem Picker.pick_empty {α : Type} (picker : Picker α) : picker.pick ∅ = none := by
  cases hpick : picker.pick ∅ with
  | none => rfl
  | some a => exact absurd (picker.pick_mem hpick) (Finset.notMem_empty a)

def Picker.least : Picker Nat where
  pick s := s.min
  pick_mem h := Finset.mem_of_min h
  pick_none h := Finset.min_eq_top.mp h

/-- Taking one element wherever it is there. -/
def Picker.prefer (n : Nat) : Picker Nat where
  pick s := if n ∈ s then some n else Picker.least.pick s
  pick_mem h := by
    split at h
    · next hn => exact Option.some.inj h ▸ hn
    · exact Picker.least.pick_mem h
  pick_none h := by
    split at h
    · cases h
    · exact Picker.least.pick_none h

end Tables
