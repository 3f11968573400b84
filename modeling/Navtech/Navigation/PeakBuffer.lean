/-
  What `fft_data_handler` makes of its sweeps in the buffer mode `max`.

  From an empty buffer, every sweep that completes a group of the buffer length is followed by
  a search, and no other is (`collectAll_eq`). The profile that is searched is meant to be the
  pointwise maximum of the group. But the loop keeps `max` from one bin to the next, so a bin
  has the maximum over all bins up to it (`running_isGreatest`). That is the pointwise maximum
  exactly if the maxima of the group do not fall from any bin to the next
  (`isMaximum_running_iff`).
-/
import Mathlib.Data.List.GetD
import Mathlib.Order.Bounds.Basic
import Mathlib.Tactic.Linarith
import Navtech.Navigation.PeakFinder

namespace Navtech

namespace PeakFinder

open CheckedView (bind_eq_ok)

/-! ## Sweeps one after the other -/

/-- The samples that are passed to `find_peaks` on each sweep, if any, and the state after the
    last one. -/
def collectAll {κ : Type} (d : Decibels) : PeakFinder κ → List FftData →
    Except Fault (PeakFinder κ × List (Option (List ℚ)))
  | pf, [] => .ok (pf, [])
  | pf, fftData :: rest => do
    let (pf, profile) ← pf.collect d fftData
    let (pf, profiles) ← collectAll d pf rest
    return (pf, profile :: profiles)

/-- The `k`-th sweeps of `length`, from zero on. -/
def group (length : Nat) (sweeps : List FftData) (k : Nat) : List FftData :=
  (sweeps.drop (k * length)).take length

/-- `sample[bin]`. -/
def sampleOf (fftData : FftData) (bin : Nat) : ℚ := (samplesOf fftData).getD bin 0

/-- Every bin of the profile has the maximum of its halved samples. -/
structure IsMaximum (bins : Nat) (sweeps : List FftData) (profile : List ℚ) : Prop where
  length : profile.length = bins
  greatest : ∀ bin < bins,
    IsGreatest {v | ∃ x ∈ sweeps, v = sampleOf x bin / 2} (profile.getD bin 0)

/-- One search for each full group, of its pointwise maximum, and none in between. -/
structure Maxima (length bins : Nat) (sweeps : List FftData) (profiles : List (Option (List ℚ))) :
    Prop where
  one_each : profiles.length = sweeps.length
  between : ∀ i < sweeps.length, ¬ length ∣ i + 1 → profiles[i]? = some none
  full : ∀ k, (k + 1) * length ≤ sweeps.length → ∃ profile,
    profiles[(k + 1) * length - 1]? = some (some profile) ∧
      IsMaximum bins (group length sweeps k) profile

/-- No sample of a bin is above all samples of the next bin. -/
def Rising (bins : Nat) (sweeps : List FftData) : Prop :=
  ∀ bin, bin + 1 < bins → ∀ x ∈ sweeps, ∃ y ∈ sweeps, sampleOf x bin ≤ sampleOf y (bin + 1)

/-! ## The loop -/

/-- The samples of a bin. -/
def columnOf (sweeps : List FftData) (bin : Nat) : List ℚ := sweeps.map fun x => sampleOf x bin

/-- The profile, as the loop computes it. -/
def running (sweeps : List FftData) : Nat → Nat → ℚ → List ℚ
  | 0, _, _ => []
  | n + 1, bin, last =>
    let result := maximum last (columnOf sweeps bin)
    result :: running sweeps n (bin + 1) result

section Loop

variable {bins : Nat} {sweeps : List FftData}

theorem column_eq (hsize : ∀ x ∈ sweeps, x.data.length = bins) {bin : Nat} (hbin : bin < bins) :
    column (sweeps.map samplesOf) bin = .ok (columnOf sweeps bin) := by
  induction sweeps with
  | nil => rfl
  | cons x rest ih =>
    obtain ⟨hx, hrest⟩ := List.forall_mem_cons.mp hsize
    have hlength : bin < (samplesOf x).length := by
      unfold samplesOf
      rwa [List.length_map, hx]
    have hvalue : sample (samplesOf x) bin = .ok (sampleOf x bin) := by
      unfold sample sampleOf
      rw [if_neg (by omega), Int.toNat_natCast, List.getElem?_eq_getElem hlength,
        List.getD_eq_getElem _ _ hlength]
    change column (samplesOf x :: rest.map samplesOf) bin = _
    unfold column
    rw [hvalue, ih hrest]
    rfl

theorem overBins_eq {n bin : Nat} (last : ℚ) (hsize : ∀ x ∈ sweeps, x.data.length = bin + n) :
    overBins maximum (sweeps.map samplesOf) n bin last = .ok (running sweeps n bin last) := by
  induction n generalizing bin last with
  | zero => rfl
  | succ n ih =>
    have hrest := @ih (bin + 1) (maximum last (columnOf sweeps bin)) fun x hx =>
      (hsize x hx).trans (by omega)
    unfold overBins
    rw [column_eq hsize (by omega)]
    dsimp only [bind, Except.bind]
    rw [hrest]
    rfl

/-- What the body of the loop makes of `max`. -/
theorem maximum_isGreatest (last : ℚ) (values : List ℚ) :
    IsGreatest {v | v = last ∨ ∃ x ∈ values, v = x / 2} (maximum last values) := by
  induction values generalizing last with
  | nil =>
    refine ⟨.inl rfl, ?_⟩
    rintro v (rfl | ⟨x, hx, -⟩)
    · exact le_rfl
    · exact absurd hx List.not_mem_nil
  | cons x rest ih =>
    have hmax : maximum last (x :: rest) = maximum (max last (x / 2)) rest := by
      unfold maximum
      rw [List.foldl_cons]
      congr 1
      split
      · exact (max_eq_right (le_of_lt ‹_›)).symm
      · exact (max_eq_left (not_lt.mp ‹_›)).symm
    rw [hmax]
    obtain ⟨hmem, hupper⟩ := ih (max last (x / 2))
    constructor
    · rcases hmem with hmem | ⟨y, hy, hmem⟩
      · rcases max_choice last (x / 2) with hlast | hx
        · exact .inl (hmem.trans hlast)
        · exact .inr ⟨x, List.mem_cons_self, hmem.trans hx⟩
      · exact .inr ⟨y, List.mem_cons_of_mem _ hy, hmem⟩
    · rintro v (rfl | ⟨y, hy, rfl⟩)
      · exact (le_max_left _ _).trans (hupper (.inl rfl))
      · rcases List.mem_cons.mp hy with rfl | hy
        · exact (le_max_right _ _).trans (hupper (.inl rfl))
        · exact hupper (.inr ⟨y, hy, rfl⟩)

@[simp] theorem length_running (n bin : Nat) (last : ℚ) :
    (running sweeps n bin last).length = n := by
  induction n generalizing bin last with
  | zero => rfl
  | succ n ih => exact congrArg Nat.succ (ih _ _)

/-- A bin has the maximum over all bins up to it. -/
theorem running_isGreatest {n i : Nat} (bin : Nat) (last : ℚ) (hi : i < n) :
    IsGreatest {v | v = last ∨ ∃ j ≤ i, ∃ x ∈ sweeps, v = sampleOf x (bin + j) / 2}
      ((running sweeps n bin last).getD i 0) := by
  induction n generalizing bin last i with
  | zero => exact absurd hi (Nat.not_lt_zero _)
  | succ n ih =>
    have hfirst := maximum_isGreatest last (columnOf sweeps bin)
    have hcolumn (v : ℚ) : (∃ s ∈ columnOf sweeps bin, v = s / 2) ↔
        ∃ x ∈ sweeps, v = sampleOf x bin / 2 := by
      unfold columnOf
      simp
    cases i with
    | zero =>
      have hset : {v | v = last ∨ ∃ j ≤ 0, ∃ x ∈ sweeps, v = sampleOf x (bin + j) / 2} =
          {v | v = last ∨ ∃ s ∈ columnOf sweeps bin, v = s / 2} := by
        ext v
        simp only [Set.mem_ofPred_eq, hcolumn, Nat.le_zero, exists_eq_left, Nat.add_zero]
      rw [hset]
      exact hfirst
    | succ i =>
      obtain ⟨hmem, hupper⟩ := ih (bin + 1) (maximum last (columnOf sweeps bin))
        (Nat.lt_of_succ_lt_succ hi)
      change IsGreatest _
        ((running sweeps n (bin + 1) (maximum last (columnOf sweeps bin))).getD i 0)
      constructor
      · rcases hmem with hmem | ⟨j, hj, x, hx, hmem⟩
        · rw [hmem]
          rcases hfirst.1 with hlast | hvalue
          · exact .inl hlast
          · obtain ⟨x, hx, hv⟩ := (hcolumn _).mp hvalue
            exact .inr ⟨0, Nat.zero_le _, x, hx, hv⟩
        · refine .inr ⟨j + 1, Nat.succ_le_succ hj, x, hx, ?_⟩
          rw [hmem, Nat.add_assoc, Nat.add_comm 1 j]
      · rintro v (rfl | ⟨j, hj, x, hx, rfl⟩)
        · exact (hfirst.2 (.inl rfl)).trans (hupper (.inl rfl))
        · cases j with
          | zero =>
            exact (hfirst.2 (.inr ((hcolumn _).mpr ⟨x, hx, rfl⟩))).trans (hupper (.inl rfl))
          | succ j =>
            refine hupper (.inr ⟨j, Nat.le_of_succ_le_succ hj, x, hx, ?_⟩)
            rw [Nat.add_assoc, Nat.add_comm 1 j]

theorem sampleOf_nonneg (x : FftData) (bin : Nat) : 0 ≤ sampleOf x bin := by
  have hall : ∀ v ∈ samplesOf x, 0 ≤ v := by
    intro v hv
    obtain ⟨s, -, rfl⟩ := List.mem_map.mp hv
    exact Nat.cast_nonneg _
  unfold sampleOf
  by_cases hbin : bin < (samplesOf x).length
  · rw [List.getD_eq_getElem _ _ hbin]
    exact hall _ (List.getElem_mem hbin)
  · rw [List.getD_eq_default _ _ (Nat.le_of_not_lt hbin)]

/-- **The loop takes the pointwise maximum** exactly of the groups that rise from bin to bin. -/
theorem isMaximum_running_iff (hne : sweeps ≠ []) :
    IsMaximum bins sweeps (running sweeps bins 0 0) ↔ Rising bins sweeps := by
  have hrunning {i : Nat} (hi : i < bins) := @running_isGreatest sweeps bins i 0 0 hi
  simp only [Nat.zero_add] at hrunning
  constructor
  · intro h bin hbin x hx
    obtain ⟨y, hy, hvalue⟩ := (h.greatest (bin + 1) hbin).1
    refine ⟨y, hy, ?_⟩
    have hle := (hrunning hbin).2 (.inr ⟨bin, Nat.le_succ bin, x, hx, rfl⟩)
    rw [hvalue] at hle
    linarith
  · intro h
    -- what is found at an earlier bin is found again, or exceeded
    have hcarry {j i : Nat} (hj : j ≤ i) (hi : i < bins) : ∀ x ∈ sweeps, ∃ y ∈ sweeps,
        sampleOf x j ≤ sampleOf y i := by
      induction i, hj using Nat.le_induction with
      | base => exact fun x hx => ⟨x, hx, le_rfl⟩
      | succ i hj ih =>
        intro x hx
        obtain ⟨y, hy, hle⟩ := ih (by omega) x hx
        obtain ⟨z, hz, hle'⟩ := h i hi y hy
        exact ⟨z, hz, hle.trans hle'⟩
    obtain ⟨first, hfirst⟩ := List.exists_mem_of_ne_nil _ hne
    refine ⟨length_running _ _ _, fun bin hbin => ⟨?_, ?_⟩⟩
    · have hreached : ∃ y ∈ sweeps, (running sweeps bins 0 0).getD bin 0 ≤ sampleOf y bin / 2 := by
        rcases (hrunning hbin).1 with hzero | ⟨j, hj, x, hx, hvalue⟩
        · refine ⟨first, hfirst, ?_⟩
          rw [hzero]
          exact div_nonneg (sampleOf_nonneg _ _) (by norm_num)
        · obtain ⟨y, hy, hle⟩ := hcarry hj hbin x hx
          refine ⟨y, hy, ?_⟩
          rw [hvalue]
          linarith
      obtain ⟨y, hy, hle⟩ := hreached
      exact ⟨y, hy, le_antisymm hle ((hrunning hbin).2 (.inr ⟨bin, le_rfl, y, hy, rfl⟩))⟩
    · rintro v ⟨x, hx, rfl⟩
      exact (hrunning hbin).2 (.inr ⟨bin, le_rfl, x, hx, rfl⟩)

end Loop

/-! ## The fill-and-clear cycle -/

/-- What is searched on the sweep `i`, if anything. -/
def searched (length bins : Nat) (sweeps : List FftData) (i : Nat) : Option (List ℚ) :=
  if length ∣ i + 1 then some (running (group length sweeps (i / length)) bins 0 0) else none

section Searched

variable {length : Nat} (bins : Nat) (sweeps : List FftData)

variable {bins sweeps} in
theorem searched_inside {i : Nat} (hi : i + 1 < length) : searched length bins sweeps i = none :=
  if_neg fun hdvd => absurd (Nat.le_of_dvd (Nat.succ_pos i) hdvd) (by omega)

theorem searched_last {k : Nat} (hpos : 0 < length) :
    searched length bins sweeps ((k + 1) * length - 1) =
      some (running (group length sweeps k) bins 0 0) := by
  have hbound : length ≤ (k + 1) * length := Nat.le_mul_of_pos_left _ k.succ_pos
  have hquotient : ((k + 1) * length - 1) / length = k := by
    rw [Nat.div_eq_iff hpos, Nat.succ_mul]
    omega
  unfold searched
  rw [Nat.sub_add_cancel (by omega), if_pos (Nat.dvd_mul_left _ _), hquotient]

/-- The first group. -/
theorem searched_group (hpos : 0 < length) :
    (List.range length).map (searched length bins sweeps) =
      List.replicate (length - 1) none ++ [some (running (sweeps.take length) bins 0 0)] := by
  have hlast := searched_last (k := 0) bins sweeps hpos
  rw [Nat.zero_add, Nat.one_mul] at hlast
  have hrange : List.range length = List.range (length - 1) ++ [length - 1] := by
    rw [← List.range_succ, Nat.succ_eq_add_one, Nat.sub_add_cancel hpos]
  rw [hrange, List.map_append, List.map_singleton, hlast, group, Nat.zero_mul, List.drop_zero]
  refine congrArg (· ++ _) (List.eq_replicate_iff.mpr
    ⟨by rw [List.length_map, List.length_range], fun profile hprofile => ?_⟩)
  obtain ⟨i, hi, rfl⟩ := List.mem_map.mp hprofile
  rw [List.mem_range] at hi
  exact searched_inside (by omega)

/-- The groups behind the first one. -/
theorem searched_add (hpos : 0 < length) (i : Nat) :
    searched length bins sweeps (length + i) = searched length bins (sweeps.drop length) i := by
  unfold searched group
  rw [List.drop_drop, Nat.add_div_left _ hpos, Nat.succ_mul, Nat.add_comm _ length]
  refine if_congr ?_ rfl rfl
  rw [Nat.add_assoc]
  exact Nat.dvd_add_right (Nat.dvd_refl length)

end Searched

section Cycle

variable {κ : Type} {d : Decibels} {pf : PeakFinder κ} {c : Settings κ}

theorem collectAll_append {xs ys : List FftData} {pf' : PeakFinder κ} {out : List (Option (List ℚ))}
    (h : collectAll d pf xs = .ok (pf', out)) :
    collectAll d pf (xs ++ ys) = (collectAll d pf' ys).map fun r => (r.1, out ++ r.2) := by
  induction xs generalizing pf out with
  | nil =>
    obtain ⟨rfl, rfl⟩ := Prod.mk.inj (Except.ok.inj h)
    change collectAll d pf ys = _
    cases collectAll d pf ys <;> rfl
  | cons x xs ih =>
    obtain ⟨⟨pf₁, profile⟩, hx, hrest⟩ := bind_eq_ok.mp h
    obtain ⟨⟨pf₂, profiles⟩, hxs, hr⟩ := bind_eq_ok.mp hrest
    obtain ⟨rfl, rfl⟩ := Prod.mk.inj (Except.ok.inj hr)
    have htail := ih hxs
    change (pf.collect d x >>= fun r => collectAll d r.1 (xs ++ ys) >>= fun r' =>
      .ok (r'.1, r.2 :: r'.2)) = _
    rw [hx]
    change (collectAll d pf₁ (xs ++ ys) >>= fun r' => .ok (r'.1, profile :: r'.2)) = _
    rw [htail]
    cases collectAll d pf₂ ys <;> rfl

variable (hc : pf.settings = some c) (hmode : c.bufferMode = .max)

include hc hmode

/-- One sweep: it is added to the buffer, which is searched and emptied once it is full. -/
theorem collect_max {x : FftData} (hsize : x.data.length = c.scan.rangeInBins) :
    pf.collect d x =
      if (pf.dataBuffer ++ [samplesOf x]).length < c.bufferLength then
        .ok ({ pf with dataBuffer := pf.dataBuffer ++ [samplesOf x] }, none)
      else (overBins maximum (pf.dataBuffer ++ [samplesOf x]) c.scan.rangeInBins 0 0).map
        fun profile => ({ pf with dataBuffer := [] }, some profile) := by
  have hlength : (samplesOf x).length = c.scan.rangeInBins := by
    unfold samplesOf
    rw [List.length_map, hsize]
  have hprofile (buffer : List (List ℚ)) :
      c.profile d buffer = overBins maximum buffer c.scan.rangeInBins 0 0 := by
    unfold Settings.profile
    rw [hmode]
    rfl
  have hon : ¬ c.bufferMode = .off := by
    rw [hmode]
    decide
  rw [collect_eq hc]
  unfold Settings.collect
  dsimp only
  rw [if_neg (not_not.mpr hlength), if_neg hon, hprofile]
  refine if_congr Iff.rfl rfl ?_
  cases overBins maximum (pf.dataBuffer ++ [samplesOf x]) c.scan.rangeInBins 0 0 <;> rfl

/-- Until the buffer is full nothing is searched. -/
theorem collectAll_fill {xs : List FftData} (hsize : ∀ x ∈ xs, x.data.length = c.scan.rangeInBins)
    (hroom : pf.dataBuffer.length + xs.length < c.bufferLength) :
    collectAll d pf xs = .ok ({ pf with dataBuffer := pf.dataBuffer ++ xs.map samplesOf },
      List.replicate xs.length none) := by
  induction xs generalizing pf with
  | nil =>
    rw [List.map_nil, List.append_nil]
    rfl
  | cons x xs ih =>
    obtain ⟨hx, hxs⟩ := List.forall_mem_cons.mp hsize
    rw [List.length_cons] at hroom
    have hlength : (pf.dataBuffer ++ [samplesOf x]).length = pf.dataBuffer.length + 1 := by
      rw [List.length_append, List.length_singleton]
    have hrest := @ih { pf with dataBuffer := pf.dataBuffer ++ [samplesOf x] } hc hxs
      (by dsimp only; omega)
    unfold collectAll
    rw [collect_max hc hmode hx, if_pos (by omega)]
    dsimp only [bind, Except.bind]
    rw [hrest, List.append_assoc]
    rfl

/-- The sweep that fills the buffer is searched together with those before it. -/
theorem collectAll_group {xs : List FftData} (hsize : ∀ x ∈ xs, x.data.length = c.scan.rangeInBins)
    (hempty : pf.dataBuffer = []) (hpos : 0 < c.bufferLength) (hfull : xs.length = c.bufferLength) :
    collectAll d pf xs = .ok (pf, List.replicate (c.bufferLength - 1) none ++
      [some (running xs c.scan.rangeInBins 0 0)]) := by
  obtain rfl | ⟨init, last, rfl⟩ := xs.eq_nil_or_concat'
  · rw [← hfull] at hpos
    exact absurd hpos (Nat.lt_irrefl 0)
  rw [List.length_append, List.length_singleton] at hfull
  obtain ⟨hinit, hlast⟩ := List.forall_mem_append.mp hsize
  have hfill := collectAll_fill (d := d) hc hmode hinit (by rw [hempty, List.length_nil]; omega)
  rw [hempty, List.nil_append] at hfill
  have hbuffer : init.map samplesOf ++ [samplesOf last] = (init ++ [last]).map samplesOf := by
    rw [List.map_append, List.map_singleton]
  have hstep : ({ pf with dataBuffer := init.map samplesOf } : PeakFinder κ).collect d last =
      .ok (pf, some (running (init ++ [last]) c.scan.rangeInBins 0 0)) := by
    have hc' : ({ pf with dataBuffer := init.map samplesOf } : PeakFinder κ).settings = some c := hc
    rw [collect_max hc' hmode (hlast last List.mem_cons_self), hbuffer, List.length_map,
      List.length_append, List.length_singleton, if_neg (by omega),
      overBins_eq 0 fun x hx => (hsize x hx).trans (Nat.zero_add _).symm, ← hempty]
    rfl
  rw [collectAll_append hfill]
  unfold collectAll
  rw [hstep]
  dsimp only [bind, Except.bind, collectAll, Except.map, pure, Except.pure]
  rw [show init.length = c.bufferLength - 1 by omega]

/-- The groups one after the other, and the sweeps that are left over. -/
theorem collectAll_eq {sweeps : List FftData}
    (hsize : ∀ x ∈ sweeps, x.data.length = c.scan.rangeInBins) (hempty : pf.dataBuffer = [])
    (hpos : 0 < c.bufferLength) :
    ∃ pf', collectAll d pf sweeps = .ok (pf', (List.range sweeps.length).map
      (searched c.bufferLength c.scan.rangeInBins sweeps)) := by
  induction hn : sweeps.length using Nat.strong_induction_on generalizing sweeps with
  | _ n ih =>
    by_cases hshort : n < c.bufferLength
    · have hnone : (List.range n).map (searched c.bufferLength c.scan.rangeInBins sweeps) =
          List.replicate n none := by
        refine List.eq_replicate_iff.mpr ⟨by rw [List.length_map, List.length_range], ?_⟩
        intro profile hprofile
        obtain ⟨i, hi, rfl⟩ := List.mem_map.mp hprofile
        rw [List.mem_range] at hi
        exact searched_inside (by omega)
      rw [hnone, ← hn]
      exact ⟨_, collectAll_fill hc hmode hsize (by rw [hempty, List.length_nil]; omega)⟩
    · -- the first group, and the same again for the sweeps behind it
      have htake : (sweeps.take c.bufferLength).length = c.bufferLength :=
        List.length_take_of_le (by omega)
      have hfirst := collectAll_group (d := d) hc hmode
        (fun x hx => hsize x (List.mem_of_mem_take hx)) hempty hpos htake
      obtain ⟨pf', hrest⟩ := ih (n - c.bufferLength) (by omega)
        (fun x hx => hsize x (List.mem_of_mem_drop hx)) (by rw [List.length_drop, hn])
      refine ⟨pf', ?_⟩
      rw [← List.take_append_drop c.bufferLength sweeps, collectAll_append hfirst, hrest,
        List.take_append_drop, show n = c.bufferLength + (n - c.bufferLength) by omega,
        Nat.add_sub_cancel_left, List.range_add, List.map_append, List.map_map]
      refine congrArg Except.ok (congrArg (Prod.mk pf') (congrArg₂ (· ++ ·) ?_ ?_))
      · exact (searched_group c.scan.rangeInBins sweeps hpos).symm
      · exact List.map_congr_left fun i _ => (searched_add c.scan.rangeInBins sweeps hpos i).symm

/-- **The profiles are pointwise maxima** exactly if every full group rises from bin to bin. -/
theorem maxima_iff {sweeps : List FftData}
    (hsize : ∀ x ∈ sweeps, x.data.length = c.scan.rangeInBins) (hempty : pf.dataBuffer = [])
    (hpos : 1 ≤ c.bufferLength) :
    (∃ pf' profiles, collectAll d pf sweeps = .ok (pf', profiles) ∧
        Maxima c.bufferLength c.scan.rangeInBins sweeps profiles) ↔
      ∀ k, (k + 1) * c.bufferLength ≤ sweeps.length →
        Rising c.scan.rangeInBins (group c.bufferLength sweeps k) := by
  obtain ⟨pf', hrun⟩ := collectAll_eq (d := d) hc hmode hsize hempty hpos
  have hget {i : Nat} (hi : i < sweeps.length) :
      ((List.range sweeps.length).map (searched c.bufferLength c.scan.rangeInBins sweeps))[i]? =
        some (searched c.bufferLength c.scan.rangeInBins sweeps i) := by
    rw [List.getElem?_map, List.getElem?_range hi]
    rfl
  have hlast {k : Nat} (hk : (k + 1) * c.bufferLength ≤ sweeps.length) :
      (k + 1) * c.bufferLength - 1 < sweeps.length := by
    have hbound : 0 < (k + 1) * c.bufferLength := Nat.mul_pos k.succ_pos hpos
    omega
  have hne {k : Nat} (hk : (k + 1) * c.bufferLength ≤ sweeps.length) :
      group c.bufferLength sweeps k ≠ [] := by
    rw [Nat.succ_mul] at hk
    refine List.ne_nil_of_length_pos ?_
    unfold group
    rw [List.length_take, List.length_drop]
    omega
  constructor
  · intro h k hk
    obtain ⟨_, profiles, hprofiles, hmaxima⟩ := h
    obtain ⟨rfl, rfl⟩ := Prod.mk.inj (Except.ok.inj (hrun.symm.trans hprofiles))
    obtain ⟨profile, hprofile, hmaximum⟩ := hmaxima.full k hk
    rw [hget (hlast hk), searched_last _ _ hpos] at hprofile
    obtain rfl := Option.some.inj (Option.some.inj hprofile)
    exact (isMaximum_running_iff (hne hk)).mp hmaximum
  · intro h
    refine ⟨pf', _, hrun, by rw [List.length_map, List.length_range], ?_, ?_⟩
    · intro i hi hdvd
      rw [hget hi]
      exact congrArg some (if_neg hdvd)
    · intro k hk
      refine ⟨_, ?_, (isMaximum_running_iff (hne hk)).mpr (h k hk)⟩
      rw [hget (hlast hk), searched_last _ _ hpos]

end Cycle

/-- A sweep of two bins. -/
def twoBins (a b : UInt8) : FftData := ⟨.finite 0, 0, 0, 0, 0, [a, b]⟩

theorem maxima_of_pair : ∃ pf' profiles,
    collectAll notAveraging (new.configure (inPairs 2)) [twoBins 4 6, twoBins 2 8] =
        .ok (pf', profiles) ∧
      Maxima 2 2 [twoBins 4 6, twoBins 2 8] profiles := by
  refine (maxima_iff (c := ⟨(inPairs 2).scan, ⟨1, 0, 1⟩, .max, 2⟩) rfl rfl (by decide) rfl
    (by decide)).mpr fun k hk => ?_
  obtain rfl : k = 0 := by
    simp only [List.length_cons, List.length_nil] at hk
    omega
  intro bin hbin x hx
  obtain rfl : bin = 0 := by
    change bin + 1 < 2 at hbin
    omega
  refine ⟨twoBins 2 8, by decide, ?_⟩
  revert x
  decide +kernel

/-- The second bin takes over the maximum of the first. -/
theorem not_forall_maxima :
    ¬ ∀ (c : Settings Ranging) (pf : PeakFinder Ranging) (sweeps : List FftData),
      pf.settings = some c →
      c.bufferMode = .max → 1 ≤ c.bufferLength → pf.dataBuffer = [] →
      (∀ x ∈ sweeps, x.data.length = c.scan.rangeInBins) →
      ∃ pf' profiles, collectAll notAveraging pf sweeps = .ok (pf', profiles) ∧
        Maxima c.bufferLength c.scan.rangeInBins sweeps profiles := by
  intro h
  obtain ⟨pf', profiles, hrun, hmaxima⟩ := h ⟨(inPairs 2).scan, ⟨1, 0, 1⟩, .max, 2⟩
    (new.configure (inPairs 2)) [twoBins 6 4, twoBins 8 2] rfl rfl (by decide) rfl (by decide)
  obtain ⟨profile, hprofile, hmaximum⟩ := hmaxima.full 0 (by decide)
  have hcomputed : (collectAll notAveraging (new.configure (inPairs 2))
      [twoBins 6 4, twoBins 8 2]).map Prod.snd = .ok [none, some [4, 4]] := by
    decide +kernel
  rw [hrun] at hcomputed
  obtain rfl : profiles = [none, some [4, 4]] := Except.ok.inj hcomputed
  obtain rfl : [4, 4] = profile := Option.some.inj (Option.some.inj hprofile)
  obtain ⟨x, hx, hvalue⟩ := (hmaximum.greatest 1 (by decide)).1
  revert x
  decide +kernel

end PeakFinder

end Navtech
