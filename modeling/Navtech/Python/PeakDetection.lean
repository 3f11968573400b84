/-
  `pythonexamples/NavigationModePeakDetectionFromOneFFTofRawData.py`: the search for peaks, beside
  that of `cpp_17/navigation/peak_finder.cpp`.

  The two are one automaton. But `find_peak_bin` of the script ends its loop before the bin a
  window before the end of the sweep, and that of the C++ code behind it. So the script misses a
  peak at that bin, and no other: without a limit, both find the same bins exactly if the search
  does not come to that bin (`bins_eq_iff`).

  What either search finds is the chain of the bins that fire one after the other, below a bound
  (`Chain`); a chain below a greater bound is the same if it does not come to the bins in
  between (`Chain.eq_iff`).
-/
import Navtech.Navigation.PeakLimit

namespace Navtech

namespace Python

namespace PeakDetection

open CheckedView (bind_eq_ok)
open PeakFinder

variable {α : Type}

/-- `find_peak_bin`, with the global `awaiting_rise`. Its loop has one turn less than that of the
    C++ code. -/
def findPeakBin [LT α] [DecidableLT α] (threshold : α) (data : List α)
    (startBin endBin binsToOperateUpon : Nat) (awaitingRise : Bool) : Except Fault (Nat × Bool) :=
  if (endBin : Int) - binsToOperateUpon < startBin then .ok (endBin, awaitingRise)
  else scanBins threshold data endBin (endBin - binsToOperateUpon - startBin) startBin awaitingRise

/-- The variables of the main program. -/
structure Search where
  peakBin : Nat
  awaitingRise : Bool
  minBinToOperateUpon : Nat
  peaksFound : Nat
  /-- The bins that are printed as peaks. -/
  bins : List Nat
deriving DecidableEq, Repr

/-- The settings, and `end_bin`, are what the C++ code is configured with. -/
def start (c : Scan α) : Search where
  peakBin := 0
  awaitingRise := false
  minBinToOperateUpon := c.minBinToOperateOn
  peaksFound := 0
  bins := []

def goesOn (c : Scan α) (t : Search) : Bool :=
  t.peakBin != c.rangeInBins && decide (t.peaksFound < c.maxPeaksPerAzimuth)

/-- After a call of `find_peak_bin`. -/
def moveTo (c : Scan α) (t : Search) (peakBin : Nat) (awaitingRise : Bool) : Search :=
  { t with
    peakBin := peakBin
    awaitingRise := awaitingRise
    minBinToOperateUpon := peakBin + c.binsToOperateOn }

/-- A peak, which is counted if its range is taken for one. -/
def take (t : Search) (peakBin : Nat) (counted : Bool) : Search :=
  { t with
    bins := t.bins ++ [peakBin]
    peaksFound := if counted then t.peaksFound + 1 else t.peaksFound }

section Detect

variable [LT α] [DecidableLT α]

/-- The body of the main loop. `counted` says which peaks resolve to a range that lies between
    the bounds. -/
def trip (c : Scan α) (data : List α) (counted : Nat → Bool) (t : Search) :
    Except Fault Search := do
  let (peakBin, awaitingRise) ← findPeakBin c.threshold data t.minBinToOperateUpon c.rangeInBins
    c.binsToOperateOn t.awaitingRise
  let t := moveTo c t peakBin awaitingRise
  if peakBin < c.rangeInBins then return take t peakBin (counted peakBin)
  else return t

/-- The main loop. -/
def detect (c : Scan α) (data : List α) (counted : Nat → Bool) : Except Fault Search :=
  Loop.turns (goesOn c) (trip c data counted) (c.rangeInBins + 2) (start c)

end Detect

variable [LinearOrder α] {c : Scan α} {f : Nat → α}

/-! ## Chains of bins -/

/-- The first bin from `start` on and before `stop` that fires. -/
structure FirstBefore (c : Scan α) (f : Nat → α) (stop start : Nat) (awaits : Bool) (p : Nat) :
    Prop where
  from_start : start ≤ p
  before : p < stop
  fires : Fires c.threshold f start awaits p
  first : ∀ q, start ≤ q → q < p → ¬ Fires c.threshold f start awaits q

/-- The bins before `stop` that scans report one after the other, each from behind the window of
    the last report. -/
inductive Chain (c : Scan α) (f : Nat → α) (stop : Nat) : Nat → Bool → List Nat → Prop where
  | nil {start : Nat} {awaits : Bool} :
      (∀ q, start ≤ q → q < stop → ¬ Fires c.threshold f start awaits q) →
      Chain c f stop start awaits []
  | cons {start : Nat} {awaits : Bool} {p : Nat} {bins : List Nat} :
      FirstBefore c f stop start awaits p →
      Chain c f stop (p + c.binsToOperateOn) true bins → Chain c f stop start awaits (p :: bins)

theorem FirstBefore.unique {stop stop' start p q : Nat} {awaits : Bool}
    (hp : FirstBefore c f stop start awaits p) (hq : FirstBefore c f stop' start awaits q) :
    p = q := by
  rcases Nat.lt_trichotomy p q with hlt | heq | hlt
  · exact absurd hp.fires (hq.first p hp.from_start hlt)
  · exact heq
  · exact absurd hq.fires (hp.first q hq.from_start hlt)

theorem Chain.lt {stop start : Nat} {awaits : Bool} {bins : List Nat}
    (h : Chain c f stop start awaits bins) : ∀ p ∈ bins, p < stop := by
  induction h with
  | nil _ => exact fun p hp => absurd hp List.not_mem_nil
  | cons hfirst _ ih => exact List.forall_mem_cons.mpr ⟨hfirst.before, ih⟩

/-- One bin more changes the chain exactly if the chain comes to it. -/
theorem Chain.eq_iff {k start : Nat} {awaits : Bool} {bins bins' : List Nat}
    (h : Chain c f (k + 1) start awaits bins) (h' : Chain c f k start awaits bins') :
    bins' = bins ↔ k ∉ bins := by
  constructor
  · rintro rfl hk
    exact lt_irrefl k (h'.lt k hk)
  · intro hk
    induction h generalizing bins' with
    | nil hnone =>
      cases h' with
      | nil _ => rfl
      | cons hfirst _ =>
        have hbefore := hfirst.before
        exact absurd hfirst.fires (hnone _ hfirst.from_start (by omega))
    | @cons start awaits p bins hfirst hrest ih =>
      rw [List.mem_cons, not_or] at hk
      have hbefore : p < k := lt_of_le_of_ne (Nat.lt_succ_iff.mp hfirst.before) (Ne.symm hk.1)
      cases h' with
      | nil hnone => exact absurd hfirst.fires (hnone p hfirst.from_start hbefore)
      | cons hfirst' hrest' =>
        obtain rfl := hfirst.unique hfirst'
        rw [ih hrest' hk.2]

theorem firstBefore_iff {start p : Nat} {awaits : Bool} :
    FirstBefore c f (c.rangeInBins + 1 - c.binsToOperateOn) start awaits p ↔
      c.FirstFiring f start awaits p := by
  constructor
  · intro h
    have hbefore := h.before
    exact ⟨h.from_start, by omega, h.fires, h.first⟩
  · intro h
    have hfits := h.fits
    exact ⟨h.from_start, by omega, h.fires, h.first⟩

/-- The chain of all bins whose window fits has the bins that the search comes to. -/
theorem Chain.mem_iff {start q : Nat} {awaits : Bool} {bins : List Nat}
    (h : Chain c f (c.rangeInBins + 1 - c.binsToOperateOn) start awaits bins) :
    q ∈ bins ↔ c.ComesTo f start awaits q := by
  induction h with
  | nil hnone =>
    have hfirst {p : Nat} (hp : c.FirstFiring f _ _ p) : False :=
      hnone p hp.from_start (firstBefore_iff.mpr hp).before hp.fires
    refine iff_of_false List.not_mem_nil fun hq => ?_
    cases hq with
    | first hp => exact hfirst hp
    | behind hp _ => exact hfirst hp
  | @cons start awaits p bins hp _ ih =>
    rw [List.mem_cons, ih]
    constructor
    · rintro (rfl | hq)
      · exact .first (firstBefore_iff.mp hp)
      · exact .behind (firstBefore_iff.mp hp) hq
    · intro hq
      cases hq with
      | first hq => exact .inl ((firstBefore_iff.mpr hq).unique hp)
      | behind hr hq =>
        obtain rfl := (firstBefore_iff.mpr hr).unique hp
        exact .inr hq

/-! ## One turn of the script -/

theorem findPeakBin_spec (threshold : α) (f : Nat → α) (startBin endBin : Nat) {bins : Nat}
    (a : Bool) (hbins : 2 ≤ bins) :
    ∃ r, findPeakBin threshold (sweep f endBin) startBin endBin bins a = .ok r ∧
      Scanned threshold f startBin (endBin - bins) endBin a r := by
  unfold findPeakBin
  split
  · exact ⟨_, rfl, .missed a fun q hq hstop => absurd hstop (by omega)⟩
  · have hstop : startBin + (endBin - bins - startBin) = endBin - bins := by omega
    obtain ⟨r, hr, hscanned⟩ : ∃ r, scanBins threshold (sweep f endBin) endBin
        (endBin - bins - startBin) startBin a = .ok r ∧
          Scanned threshold f startBin (startBin + (endBin - bins - startBin)) endBin a r :=
      scanBins_spec endBin _ a (by omega)
    rw [hstop] at hscanned
    exact ⟨r, hr, hscanned⟩

/-- The turn ends the search, or comes to the next peak. -/
theorem trip_spec (c : Scan α) (f : Nat → α) (counted : Nat → Bool) (t : Search) :
    (∃ awaits, trip c (sweep f c.rangeInBins) counted t = .ok (moveTo c t c.rangeInBins awaits) ∧
      ∀ q, t.minBinToOperateUpon ≤ q → q < c.rangeInBins - c.binsToOperateOn →
        ¬ Fires c.threshold f t.minBinToOperateUpon t.awaitingRise q) ∨
    ∃ p, trip c (sweep f c.rangeInBins) counted t =
        .ok (take (moveTo c t p true) p (counted p)) ∧
      FirstBefore c f (c.rangeInBins - c.binsToOperateOn) t.minBinToOperateUpon t.awaitingRise
        p := by
  have hfive := c.five_le
  obtain ⟨r, hr, hscanned⟩ := findPeakBin_spec c.threshold f t.minBinToOperateUpon c.rangeInBins
    t.awaitingRise (show 2 ≤ c.binsToOperateOn by omega)
  unfold trip
  rw [hr]
  cases hscanned with
  | missed awaits hnone => exact .inl ⟨awaits, if_neg (lt_irrefl _), hnone⟩
  | found p hp hstop hfires hfirst =>
    exact .inr ⟨p, if_pos (by omega), hp, hstop, hfires, hfirst⟩

/-! ## Both searches find a chain -/

/-- What a turn of a search comes to, where it reports the bins before `stop`: it ends, or goes
    on behind the first bin that fires. -/
def Turns {S : Type} (c : Scan α) (f : Nat → α) (stop : Nat) (cond : S → Bool)
    (body : S → Except Fault S) (min : S → Nat) (awaits : S → Bool) (bins : S → List Nat)
    (I : S → Prop) : Prop :=
  ∀ s, I s → cond s = true →
    (∃ s', body s = .ok s' ∧ cond s' = false ∧ bins s' = bins s ∧
      ∀ q, min s ≤ q → q < stop → ¬ Fires c.threshold f (min s) (awaits s) q) ∨
    ∃ p s', body s = .ok s' ∧ FirstBefore c f stop (min s) (awaits s) p ∧
      bins s' = bins s ++ [p] ∧ min s' = p + c.binsToOperateOn ∧ awaits s' = true ∧ I s' ∧
      cond s' = true

theorem chain_of_turns {S : Type} {stop : Nat} {cond : S → Bool} {body : S → Except Fault S}
    {min : S → Nat} {awaits : S → Bool} {bins : S → List Nat} {I : S → Prop}
    (hturns : Turns c f stop cond body min awaits bins I) (n : Nat) :
    ∀ {s : S}, I s → cond s = true → stop - min s + 1 ≤ n →
      ∃ s' chain, Loop.turns cond body n s = .ok s' ∧ bins s' = bins s ++ chain ∧
        Chain c f stop (min s) (awaits s) chain := by
  induction n with
  | zero => exact fun _ _ hn => absurd hn (Nat.not_succ_le_zero _)
  | succ n ih =>
    intro s hI hcond hn
    rw [Loop.turns_succ_of_cond n hcond]
    rcases hturns s hI hcond with ⟨s', hbody, hover, hbins, hnone⟩ |
      ⟨p, s', hbody, hfirst, hbins, hmin, hawaits, hI', hcond'⟩
    · refine ⟨s', [], ?_, by rw [hbins, List.append_nil], .nil hnone⟩
      rw [hbody]
      exact Loop.turns_of_not_cond n (by rw [hover]; exact Bool.false_ne_true)
    · have hfrom := hfirst.from_start
      have hbefore := hfirst.before
      obtain ⟨s'', chain, hrest, hbins', hchain⟩ := ih hI' hcond' (by
        have hfive := c.five_le
        rw [hmin]
        omega)
      rw [hmin, hawaits] at hchain
      refine ⟨s'', p :: chain, ?_, ?_, .cons hfirst hchain⟩
      · rw [hbody]
        exact hrest
      · rw [hbins', hbins, List.append_assoc, List.singleton_append]

section Unlimited

variable (hunlimited : c.rangeInBins < c.maxPeaksPerAzimuth)

include hunlimited

/-- There are no more peaks than bins that are behind, so that the limit is not met. -/
theorem turns_trip (counted : Nat → Bool) :
    Turns c f (c.rangeInBins - c.binsToOperateOn) (goesOn c)
      (trip c (sweep f c.rangeInBins) counted) Search.minBinToOperateUpon Search.awaitingRise
      Search.bins fun t => t.peaksFound ≤ t.minBinToOperateUpon := by
  intro t hI _
  rcases trip_spec c f counted t with ⟨awaits, htrip, hnone⟩ | ⟨p, htrip, hfirst⟩
  · refine .inl ⟨_, htrip, ?_, rfl, hnone⟩
    unfold goesOn moveTo
    simp
  · have hfrom := hfirst.from_start
    have hbefore := hfirst.before
    have hfive := c.five_le
    have hfound : (take (moveTo c t p true) p (counted p)).peaksFound ≤ t.peaksFound + 1 := by
      change (if counted p = true then _ else _) ≤ _
      split
      · exact le_rfl
      · exact Nat.le_succ _
    refine .inr ⟨p, _, htrip, hfirst, rfl, rfl, rfl, ?_, ?_⟩
    · change _ ≤ p + c.binsToOperateOn
      omega
    · rw [goesOn, Bool.and_eq_true, bne_iff_ne, decide_eq_true_eq]
      change p ≠ _ ∧ _
      omega

theorem turns_scanTrip {ρ : Type} (target : Nat → Option ρ) :
    Turns c f (c.rangeInBins + 1 - c.binsToOperateOn) c.goesOn
      (c.trip (sweep f c.rangeInBins) fun p => .ok (target p))
      PeakFinder.Search.minBinToOperateUpon PeakFinder.Search.awaitingRise PeakFinder.Search.bins
      fun s => s.peaksFound ≤ s.minBinToOperateUpon := by
  intro s hI hgoes
  rcases Scan.trip_spec c f (fun p => .ok (target p)) s with
    ⟨awaits, htrip, hnone⟩ | ⟨p, htrip, hp⟩
  · exact .inl ⟨_, htrip, Scan.not_goesOn_ended s awaits, rfl,
      fun q hq hstop => hnone q hq (by omega)⟩
  · have hfirst := firstBefore_iff.mpr (Scan.nextPeak_iff.mp hp)
    have hfrom := hp.from_start
    have hfits := hp.fits
    have hfive := c.five_le
    have hgoing : s.stopped = false := by
      rw [Scan.goesOn, Bool.and_eq_true, Bool.not_eq_true'] at hgoes
      exact hgoes.1
    obtain ⟨hfound, hstopped⟩ : (c.take (c.moveTo s p true) p (target p)).peaksFound ≤
          s.peaksFound + 1 ∧ (c.take (c.moveTo s p true) p (target p)).stopped = false := by
      cases target p with
      | none => exact ⟨Nat.le_succ _, hgoing⟩
      | some x =>
        refine ⟨le_rfl, decide_eq_false ?_⟩
        change ¬ c.maxPeaksPerAzimuth ≤ s.peaksFound + 1
        omega
    refine .inr ⟨p, c.take (c.moveTo s p true) p (target p), htrip, hfirst, Scan.take_bins _ _ _,
      hp.minBin_take _, (Scan.take_scan _ _ _).2.2, ?_, ?_⟩
    · change (c.take (c.moveTo s p true) p (target p)).peaksFound ≤
        (c.take (c.moveTo s p true) p (target p)).minBinToOperateUpon
      rw [hp.minBin_take]
      omega
    · have hpeak : (c.take (c.moveTo s p true) p (target p)).peakBin = p := (Scan.take_scan _ _ _).1
      rw [Scan.goesOn, hstopped, hpeak, Bool.not_false, Bool.true_and, bne_iff_ne]
      omega

/-- The script's bins. -/
theorem detect_chain (f : Nat → α) (counted : Nat → Bool) :
    ∃ t, detect c (sweep f c.rangeInBins) counted = .ok t ∧
      Chain c f (c.rangeInBins - c.binsToOperateOn) c.minBinToOperateOn false t.bins := by
  by_cases hempty : c.rangeInBins = 0
  · refine ⟨start c, Loop.turns_of_not_cond _ ?_, .nil fun q _ hstop => by omega⟩
    rw [goesOn, hempty]
    exact Bool.false_ne_true
  · have hgoes : goesOn c (start c) = true := by
      rw [goesOn, Bool.and_eq_true, bne_iff_ne, decide_eq_true_eq]
      exact ⟨Ne.symm hempty, by change 0 < _; omega⟩
    obtain ⟨t, chain, hrun, hbins, hchain⟩ := chain_of_turns
      (turns_trip (f := f) hunlimited counted) (c.rangeInBins + 2) (Nat.zero_le _) hgoes (by omega)
    obtain rfl : t.bins = chain := hbins
    exact ⟨t, hrun, hchain⟩

/-- The bins of the C++ code. -/
theorem findPeaks_chain {ρ : Type} (f : Nat → α) (target : Nat → Option ρ) :
    ∃ s, c.findPeaks (sweep f c.rangeInBins) (fun p => .ok (target p)) = .ok s ∧
      Chain c f (c.rangeInBins + 1 - c.binsToOperateOn) c.minBinToOperateOn false s.bins := by
  have hfive := c.five_le
  by_cases hempty : c.rangeInBins = 0
  · refine ⟨c.start, Loop.turns_of_not_cond _ ?_, .nil fun q _ hstop => by omega⟩
    rw [Scan.goesOn, hempty]
    exact Bool.false_ne_true
  · have hgoes : c.goesOn (c.start : PeakFinder.Search ρ) = true := by
      change (0 != c.rangeInBins) = true
      exact bne_iff_ne.mpr (Ne.symm hempty)
    obtain ⟨s, chain, hrun, hbins, hchain⟩ := chain_of_turns
      (turns_scanTrip (f := f) hunlimited target) (c.rangeInBins + 2) (Nat.zero_le _) hgoes
      (by omega)
    obtain rfl : s.bins = chain := hbins
    exact ⟨s, hrun, hchain⟩

/-- **The same bins.** Both searches come to their end, and find the same bins exactly if no scan
    of the sweep comes to the bin a window before its end. -/
theorem bins_eq_iff {ρ : Type} (f : Nat → α) (target : Nat → Option ρ) (counted : Nat → Bool) :
    ∃ s t, c.findPeaks (sweep f c.rangeInBins) (fun p => .ok (target p)) = .ok s ∧
      detect c (sweep f c.rangeInBins) counted = .ok t ∧
      (t.bins = s.bins ↔
        ¬ c.ComesTo f c.minBinToOperateOn false (c.rangeInBins - c.binsToOperateOn)) := by
  obtain ⟨s, hs, hchain⟩ := findPeaks_chain hunlimited f target
  obtain ⟨t, ht, hchain'⟩ := detect_chain hunlimited f counted
  refine ⟨s, t, hs, ht, ?_⟩
  rw [← hchain.mem_iff]
  rcases Nat.lt_or_ge c.rangeInBins c.binsToOperateOn with hshort | hfits
  · -- no window fits
    have hnil : s.bins = [] := List.eq_nil_iff_forall_not_mem.mpr fun p hp => by
      have hlt := hchain.lt p hp
      omega
    have hnil' : t.bins = [] := List.eq_nil_iff_forall_not_mem.mpr fun p hp => by
      have hlt := hchain'.lt p hp
      omega
    rw [hnil, hnil']
    exact iff_of_true rfl List.not_mem_nil
  · rw [show c.rangeInBins + 1 - c.binsToOperateOn = c.rangeInBins - c.binsToOperateOn + 1 by omega]
      at hchain
    exact hchain.eq_iff hchain'

end Unlimited

/-- A window of five bins on a sweep of thirteen, of which one stands out. -/
theorem bins_eq_iff_thirdBin :
    (Scan.fiveOfThirteen.withLimit 99).rangeInBins < 99 ∧
      ∃ (s : PeakFinder.Search Nat) (t : Search),
        (Scan.fiveOfThirteen.withLimit 99).findPeaks (sweep (Scan.twoPeaks 2 2) 13)
          (fun p => .ok (some p)) = .ok s ∧
        detect (Scan.fiveOfThirteen.withLimit 99) (sweep (Scan.twoPeaks 2 2) 13) (fun _ => true) =
          .ok t ∧ t.bins = s.bins := by
  refine ⟨by decide, ?_⟩
  obtain ⟨s, t, hs, ht, hiff⟩ := bins_eq_iff (c := Scan.fiveOfThirteen.withLimit 99) (by decide)
    (Scan.twoPeaks 2 2) some fun _ => true
  refine ⟨s, t, hs, ht, hiff.mpr fun hcomes => ?_⟩
  have habove : (5 : Nat) < Scan.twoPeaks 2 2 8 := hcomes.peak.2.2.1
  exact absurd habove (by decide)

/-- The bin that stands out is the ninth: the C++ code finds it, and the script does not. -/
theorem not_forall_bins_eq :
    ¬ ∀ (c : Scan Nat) (f : Nat → Nat) (target : Nat → Option Nat) (counted : Nat → Bool)
      (s : PeakFinder.Search Nat) (t : Search), c.rangeInBins < c.maxPeaksPerAzimuth →
        c.findPeaks (sweep f c.rangeInBins) (fun p => .ok (target p)) = .ok s →
        detect c (sweep f c.rangeInBins) counted = .ok t → t.bins = s.bins := by
  intro h
  have hs : (Scan.fiveOfThirteen.withLimit 99).findPeaks (sweep (Scan.twoPeaks 8 8) 13)
      (fun p => .ok (some p)) = .ok ⟨13, true, 18, 1, [8], false, [8]⟩ := rfl
  have ht : detect (Scan.fiveOfThirteen.withLimit 99) (sweep (Scan.twoPeaks 8 8) 13)
      (fun _ => true) = .ok ⟨13, false, 18, 0, []⟩ := rfl
  have hbins := h (Scan.fiveOfThirteen.withLimit 99) (Scan.twoPeaks 8 8) some (fun _ => true) _ _
    (by decide) hs ht
  exact List.cons_ne_nil 8 [] hbins.symm

end PeakDetection

end Python

end Navtech
