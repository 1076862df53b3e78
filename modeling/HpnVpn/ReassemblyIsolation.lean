import HpnVpn.ReassemblyRuns

/-! What a fragment of one sender does to the entries of others.  Room is made before it is known whether an entry
will be stored. -/
namespace HpnVpn
open Wire Tables Slots Runs

namespace Reassembly
variable {r : Reassembly} {key : FragmentKey} {f : HandshakeFragment} {now : Nat} {order : Chooser FragmentKey}
  {t : Table FragmentKey Entry} {out : Option (MessageType × Bytes)}

def CapReached (r : Reassembly) : Prop := r.config.maxEntries ≤ r.len ∨ r.config.maxTotalBytes ≤ r.totalBytes

instance (r : Reassembly) : Decidable r.CapReached := inferInstanceAs (Decidable (_ ∨ _))

/-- With `t` left, the buffer removed an entry under another key only at a cap, for a new entry stored under this key.
-/
def Isolates (r : Reassembly) (key : FragmentKey) (t : Table FragmentKey Entry) : Prop :=
  ∀ other ≠ key, (r.entries.lookup other).isSome → t.lookup other = none →
    r.entries.lookup key = none ∧ (t.lookup key).isSome ∧ r.CapReached

structure Displaces (r : Reassembly) (key : FragmentKey) (f : HandshakeFragment) : Prop where
  one : f.fragTotal = 1
  admits : r.config.Admits f.fragTotal
  absent : r.entries.lookup key = none
  capReached : r.CapReached
  nonempty : 0 < r.len

instance (r : Reassembly) (key : FragmentKey) (f : HandshakeFragment) : Decidable (r.Displaces key f) :=
  decidable_of_iff (f.fragTotal = 1 ∧ r.config.Admits f.fragTotal ∧ r.entries.lookup key = none ∧ r.CapReached ∧
      0 < r.len)
    ⟨fun ⟨h₁, h₂, h₃, h₄, h₅⟩ => ⟨h₁, h₂, h₃, h₄, h₅⟩, fun ⟨h₁, h₂, h₃, h₄, h₅⟩ => ⟨h₁, h₂, h₃, h₄, h₅⟩⟩

theorem isolates_of_lookup (h : ∀ other ≠ key, t.lookup other = r.entries.lookup other) : r.Isolates key t := by
  intro other hne hsome hnone
  rw [← h other hne, hnone] at hsome
  cases hsome

theorem enforceCaps_of_not_capReached (h : ¬r.CapReached) : r.enforceCapsForNewEntry order = .ok r := by
  rw [enforceCapsForNewEntry]
  cases r.len with
  | zero => rfl
  | succ rounds =>
    rw [CapReached] at h
    rw [evictOldest, if_neg h]
    rfl

theorem Sound.exists_evicted (h : r.Sound) (hcaps : r.enforceCapsForNewEntry order = .ok (r.withEntries t))
    (hreached : r.CapReached) (hlen : 0 < r.len) :
    ∃ other, (r.entries.lookup other).isSome ∧ t.lookup other = none := by
  rw [enforceCapsForNewEntry] at hcaps
  obtain ⟨rounds, hrounds⟩ := Nat.exists_eq_succ_of_ne_zero hlen.ne'
  rw [CapReached] at hreached
  rw [hrounds, evictOldest, if_pos hreached] at hcaps
  cases hold : r.oldestKey order with
  | none =>
    have hempty : r.len = 0 := by rw [len, AList.keys, oldestKey_none hold]; rfl
    exact absurd hempty hlen.ne'
  | some other =>
    obtain ⟨e, he⟩ := oldestKey_mem hold
    have hlength : (r.withEntries (r.entries.erase other)).len ≤ rounds :=
      Nat.le_of_succ_le_succ ((keys_length_erase he).trans hrounds).le
    obtain ⟨t', hevict, -, -, hsub⟩ := evictOldest_spec order (h.erase other) hlength
    rw [hold] at hcaps
    dsimp only at hcaps
    rw [he] at hcaps
    dsimp only at hcaps
    rw [debit_erase h.bytes he, ok_bind, hevict] at hcaps
    have ht : t' = t := congrArg Reassembly.entries (Except.ok.inj hcaps)
    refine ⟨other, by rw [he]; rfl, ?_⟩
    by_contra hsome
    obtain ⟨e', he'⟩ := Option.ne_none_iff_exists'.mp hsome
    have herased : (r.entries.erase other).lookup other = some e' := hsub other e' (ht ▸ he')
    rw [AList.lookup_erase] at herased
    cases herased

theorem Sound.isolates_iff (h : r.Sound) (hout : Outcome r key f now order t out) :
    r.Isolates key t ↔ ¬r.Displaces key f := by
  have hpresent : ∀ {e}, r.entries.lookup key = some e → ¬r.Displaces key f := by
    intro e he hdisplaces
    cases he.symm.trans hdisplaces.absent
  cases hout with
  | refused hrefused => exact iff_of_true (isolates_of_lookup fun _ _ => rfl) fun hd => hrefused hd.admits
  | contradicted he => exact iff_of_true (isolates_of_lookup fun _ => AList.lookup_erase_ne) (hpresent he)
  | duplicate he => exact iff_of_true (isolates_of_lookup fun _ _ => rfl) (hpresent he)
  | stored he => exact iff_of_true (isolates_of_lookup fun _ => AList.lookup_insert_ne) (hpresent he)
  | completed he => exact iff_of_true (isolates_of_lookup fun _ => AList.lookup_erase_ne) (hpresent he)
  | @opened t hadmits hnone hcaps hmore =>
    refine iff_of_true ?_ ?_
    · intro other hne hsome hgone
      rw [AList.lookup_insert_ne hne] at hgone
      refine ⟨hnone, by rw [AList.lookup_insert]; rfl, ?_⟩
      by_contra hfree
      have ht : r.entries = t :=
        congrArg Reassembly.entries (Except.ok.inj ((enforceCaps_of_not_capReached hfree).symm.trans hcaps))
      rw [ht, hgone] at hsome
      cases hsome
    · intro hdisplaces
      rw [hdisplaces.one] at hmore
      exact absurd hmore (by decide)
  | single hadmits hnone hcaps hone =>
    -- nothing is stored, so the buffer isolates just if nothing was evicted
    have habsent := h.lookup_of_enforceCaps hcaps hnone
    constructor
    · intro hisolates hdisplaces
      obtain ⟨other, hsome, hgone⟩ := h.exists_evicted hcaps hdisplaces.capReached hdisplaces.nonempty
      have hne : other ≠ key := by
        rintro rfl
        rw [hnone] at hsome
        cases hsome
      have hstored := (hisolates other hne hsome hgone).2.1
      rw [habsent] at hstored
      cases hstored
    · intro hfree other hne hsome hgone
      obtain ⟨e, he⟩ := Option.isSome_iff_exists.mp hsome
      have hlen : 0 < r.len := (Nat.succ_pos _).trans_eq (keys_length_erase he)
      have hroom : ¬r.CapReached := fun hreached => hfree ⟨hone, hadmits, hnone, hreached, hlen⟩
      have ht : r.entries = t :=
        congrArg Reassembly.entries (Except.ok.inj ((enforceCaps_of_not_capReached hroom).symm.trans hcaps))
      rw [ht, hgone] at hsome
      cases hsome

end Reassembly

namespace ReassemblyRun

/-- The step removes an unexpired entry under another key only at a cap and for an entry that it stores. -/
def Isolated (run : ReassemblyRun) (a : FragmentArrival) (run' : ReassemblyRun) : Prop :=
  ∀ f ∈ (HandshakeFragment.fromBytes a.body).toOption,
    (run.reassembly.withEntries (run.reassembly.live a.now)).Isolates (a.source, f.fragId) run'.reassembly.entries

/-- The fragment is no whole message for which an entry would have to go. -/
def Spares (run : ReassemblyRun) (a : FragmentArrival) : Prop :=
  ∀ f ∈ (HandshakeFragment.fromBytes a.body).toOption,
    ¬(run.reassembly.withEntries (run.reassembly.live a.now)).Displaces (a.source, f.fragId) f

instance (run : ReassemblyRun) (a : FragmentArrival) : Decidable (run.Spares a) :=
  inferInstanceAs (Decidable (∀ f ∈ (HandshakeFragment.fromBytes a.body).toOption, _))

theorem Sound.isolated_iff {config : ReassemblerConfig} {run run' : ReassemblyRun} {a : FragmentArrival}
    (h : Sound config run) (hstep : run.step a = .ok run') : run.Isolated a run' ↔ run.Spares a := by
  unfold ReassemblyRun.step at hstep
  unfold Isolated Spares
  cases hparse : HandshakeFragment.fromBytes a.body with
  | error => exact iff_of_true nofun nofun
  | ok f =>
    obtain ⟨t, out, hinsert, hout⟩ :=
      h.reassembly.insert_outcome a.source (HandshakeFragment.fromBytes_eq_ok.mp hparse).1 a.now a.order
    rw [hparse] at hstep
    dsimp only at hstep
    rw [hinsert, ok_bind] at hstep
    cases hstep
    have hiff := (h.reassembly.live a.now).isolates_iff hout
    constructor
    · intro hisolates f' hf'
      cases hf'
      exact hiff.mp (hisolates f rfl)
    · intro hspares f' hf'
      cases hf'
      exact hiff.mpr (hspares f rfl)

theorem exists_step (config : ReassemblerConfig) (arrivals : List FragmentArrival) (a : FragmentArrival) :
    ∃ run run', receive config arrivals = .ok run ∧ Sound config run ∧ run.step a = .ok run' := by
  obtain ⟨run, hrun, hsound⟩ := exec_ok_invariant Sound.step arrivals (start config) (sound_start config)
  obtain ⟨run', hstep, -⟩ := hsound.step run a
  exact ⟨run, run', hrun, hsound, hstep⟩

/-- A fragment leaves the unexpired entries of others alone, but for making room for its own, just if it is no whole
message that meets a full buffer. -/
theorem isolated_iff_spares (config : ReassemblerConfig) (arrivals : List FragmentArrival) (a : FragmentArrival)
    (run run' : ReassemblyRun) (hrun : receive config arrivals = .ok run) (hstep : run.step a = .ok run') :
    run.Isolated a run' ↔ run.Spares a := by
  obtain ⟨run₀, -, hrun₀, hsound, -⟩ := exists_step config arrivals a
  obtain rfl : run₀ = run := Except.ok.inj (hrun₀.symm.trans hrun)
  exact hsound.isolated_iff hstep

end ReassemblyRun

namespace ReassemblySample
open ReassemblyRun

def first (fragId : UInt32) (fragTotal : UInt16) (now : Nat) : FragmentArrival where
  source := home
  body := HandshakeFragment.toBytes ⟨.handshakeInit, fragId, 0, fragTotal, [0]⟩
  now := now
  order := .first

def underWay : List FragmentArrival := [first 1 2 0, first 2 2 1, first 3 2 2, first 4 2 3]

theorem whole_message_evicts :
    ∃ run run', receive .clientDefault underWay = .ok run ∧ run.step (first 5 1 4) = .ok run' ∧
      ¬run.Isolated (first 5 1 4) run' := by
  have hspares : (receive .clientDefault underWay).toOption.all (fun run => ¬run.Spares (first 5 1 4)) = true := by
    decide +kernel
  obtain ⟨run, run', hrun, hsound, hstep⟩ := exists_step .clientDefault underWay (first 5 1 4)
  rw [hrun] at hspares
  exact ⟨run, run', hrun, hstep, fun h => of_decide_eq_true hspares (hsound.isolated_iff hstep |>.mp h)⟩

theorem isolated_iff_spares_two :
    ∃ run run', receive .clientDefault underWay = .ok run ∧ run.step (first 5 2 4) = .ok run' ∧
      run.Isolated (first 5 2 4) run' := by
  have hspares : (receive .clientDefault underWay).toOption.all (fun run => run.Spares (first 5 2 4)) = true := by
    decide +kernel
  obtain ⟨run, run', hrun, -, hstep⟩ := exists_step .clientDefault underWay (first 5 2 4)
  rw [hrun] at hspares
  exact ⟨run, run', hrun, hstep, (isolated_iff_spares .clientDefault underWay (first 5 2 4) run run' hrun hstep).mpr
    (of_decide_eq_true hspares)⟩

end ReassemblySample

end HpnVpn
