/-
  What `max_peaks_per_azimuth` does to a search.

  The limit is tested behind a target that has been added. The search with the limit and the one
  without go through the same states until the limit is met (`turns_withLimit`), so one has
  the first targets of the other. But as the test comes after the target, a limit of zero is met
  with the first target, which is delivered. A limit of zero is as good as any other only where
  the search makes no target at all, that is, where the range of every bin it comes to is rejected
  (`targets_eq_nil_iff`), or where there is nobody to deliver to (`truncates_iff`). How ranges are
  computed and rejected does not matter.
-/
import Navtech.Navigation.PeakFinder

namespace Navtech

namespace PeakFinder

open CheckedView (Succeeds bind_eq_ok)

namespace Scan

variable {α ρ : Type}

def withLimit (c : Scan α) (maxPeaks : Nat) : Scan α := { c with maxPeaksPerAzimuth := maxPeaks }

/-- Below both limits a target is taken alike. -/
theorem take_withLimit {c : Scan α} {maxPeaks : Nat} (t : Search ρ) (p : Nat) (x : ρ)
    (hbelow : t.peaksFound + 1 < c.maxPeaksPerAzimuth) (hbelow' : t.peaksFound + 1 < maxPeaks) :
    (c.withLimit maxPeaks).take t p (some x) = c.take t p (some x) := by
  unfold take limit withLimit
  dsimp only
  rw [decide_eq_false (Nat.not_le_of_lt hbelow), decide_eq_false (Nat.not_le_of_lt hbelow')]

theorem goesOn_declined (c : Scan α) (s : Search ρ) (p : Nat) :
    c.goesOn (c.take (c.moveTo s p true) p none) = (!s.stopped && p != c.rangeInBins) := rfl

variable [LinearOrder α] {c : Scan α} {f : Nat → α} {locate : Nat → Except Fault (Option ρ)}
  {s s' : Search ρ}

/-! ## The bins that the search comes to -/

/-- The first bin that a scan from `start` reports. -/
structure FirstFiring (c : Scan α) (f : Nat → α) (start : Nat) (awaits : Bool) (p : Nat) :
    Prop where
  from_start : start ≤ p
  fits : p + c.binsToOperateOn ≤ c.rangeInBins
  fires : Fires c.threshold f start awaits p
  first : ∀ q, start ≤ q → q < p → ¬ Fires c.threshold f start awaits q

theorem nextPeak_iff {p : Nat} :
    c.NextPeak f s p ↔ c.FirstFiring f s.minBinToOperateUpon s.awaitingRise p :=
  ⟨fun h => ⟨h.from_start, h.fits, h.fires, h.first⟩,
    fun h => ⟨h.from_start, h.fits, h.fires, h.first⟩⟩

/-- Scans one after the other, each from behind the window of the last report and in wait for a
    rise, come to `p`. -/
inductive ComesTo (c : Scan α) (f : Nat → α) : Nat → Bool → Nat → Prop where
  | first {start : Nat} {awaits : Bool} {p : Nat} :
      c.FirstFiring f start awaits p → ComesTo c f start awaits p
  | behind {start : Nat} {awaits : Bool} {p q : Nat} :
      c.FirstFiring f start awaits p → ComesTo c f (p + c.binsToOperateOn) true q →
      ComesTo c f start awaits q

theorem ComesTo.peak {start q : Nat} {awaits : Bool} (h : ComesTo c f start awaits q) :
    start ≤ q ∧ q + c.binsToOperateOn ≤ c.rangeInBins ∧ IsPeak c.threshold f q := by
  induction h with
  | first hp => exact ⟨hp.from_start, hp.fits, hp.fires.1⟩
  | behind hp _ ih =>
    have hfrom := hp.from_start
    exact ⟨by omega, ih.2⟩

/-! ## Two limits -/

theorem targets_trip (htrip : c.trip (sweep f c.rangeInBins) locate s = .ok s') :
    s.targets <+: s'.targets := by
  cases trip_cases htrip with
  | ended awaits _ => exact List.prefix_refl _
  | found p target _ _ =>
    cases target with
    | none => exact List.prefix_refl _
    | some t => exact List.prefix_append _ _

theorem targets_turns {n : Nat}
    (h : Loop.turns c.goesOn (c.trip (sweep f c.rangeInBins) locate) n s = .ok s') :
    s.targets <+: s'.targets :=
  Loop.turns_invariant (I := fun t => s.targets <+: t.targets)
    (fun hI _ htrip => hI.trans (targets_trip htrip)) (List.prefix_refl _) h

/-- A turn with either limit. -/
theorem trip_withLimit (c : Scan α) (maxPeaks : Nat) (f : Nat → α)
    (locate : Nat → Except Fault (Option ρ)) (s : Search ρ) :
    (∃ awaits, c.trip (sweep f c.rangeInBins) locate s =
        .ok (c.limit (c.moveTo s c.rangeInBins awaits)) ∧
      (c.withLimit maxPeaks).trip (sweep f c.rangeInBins) locate s =
        .ok ((c.withLimit maxPeaks).limit (c.moveTo s c.rangeInBins awaits))) ∨
    ∃ p, c.trip (sweep f c.rangeInBins) locate s =
        ((locate p).map fun target => c.take (c.moveTo s p true) p target) ∧
      (c.withLimit maxPeaks).trip (sweep f c.rangeInBins) locate s =
        ((locate p).map fun target => (c.withLimit maxPeaks).take (c.moveTo s p true) p target) := by
  have hfive := c.five_le
  obtain ⟨r, hr, hscanned⟩ := findPeakBin_spec c.threshold f s.minBinToOperateUpon
    c.rangeInBins s.awaitingRise (show 2 ≤ c.binsToOperateOn by omega)
  cases hscanned with
  | missed awaits _ =>
    exact .inl ⟨awaits, trip_ended hr, trip_ended (c := c.withLimit maxPeaks) hr⟩
  | found p _ hstop _ _ =>
    have hp : p < c.rangeInBins := by omega
    exact .inr ⟨p, trip_found hp hr, trip_found (c := c.withLimit maxPeaks) hp hr⟩

/-- Until the limit is met the two searches are in the same state. -/
theorem turns_withLimit {maxPeaks : Nat} (hle : c.maxPeaksPerAzimuth ≤ maxPeaks) {n : Nat}
    (hcounted : s.peaksFound = s.targets.length) (hgoing : s.stopped = false)
    (hbelow : s.peaksFound < max 1 c.maxPeaksPerAzimuth)
    (h : Loop.turns (c.withLimit maxPeaks).goesOn
      ((c.withLimit maxPeaks).trip (sweep f c.rangeInBins) locate) n s = .ok s') :
    ∃ t, Loop.turns c.goesOn (c.trip (sweep f c.rangeInBins) locate) n s = .ok t ∧
      t.targets = s'.targets.take (max 1 c.maxPeaksPerAzimuth) := by
  induction n generalizing s with
  | zero =>
    obtain rfl := Except.ok.inj h
    exact ⟨s, rfl, (List.take_of_length_le (by omega)).symm⟩
  | succ n ih =>
    -- the conditions are the same
    change Loop.turns c.goesOn _ (n + 1) s = .ok s' at h
    by_cases hgoes : c.goesOn s = true
    swap
    · rw [Loop.turns_of_not_cond _ hgoes] at h
      obtain rfl := Except.ok.inj h
      exact ⟨s, Loop.turns_of_not_cond _ hgoes, (List.take_of_length_le (by omega)).symm⟩
    rw [Loop.turns_succ_of_cond _ hgoes] at h
    rw [Loop.turns_succ_of_cond _ hgoes]
    rcases trip_withLimit c maxPeaks f locate s with ⟨awaits, htrip, htrip'⟩ | ⟨p, htrip, htrip'⟩
    · rw [htrip'] at h
      rw [htrip]
      have hover := Bool.eq_false_iff.mp (not_goesOn_ended (c := c) s awaits)
      have hover' := Bool.eq_false_iff.mp (not_goesOn_ended (c := c.withLimit maxPeaks) s awaits)
      obtain rfl := Except.ok.inj ((Loop.turns_of_not_cond n hover').symm.trans h)
      refine ⟨_, Loop.turns_of_not_cond _ hover, (List.take_of_length_le ?_).symm⟩
      change s.targets.length ≤ _
      omega
    · rw [htrip'] at h
      rw [htrip]
      cases hlocate : locate p with
      | error e =>
        rw [hlocate] at h
        cases h
      | ok target =>
        rw [hlocate] at h
        cases target with
        | none => exact ih hcounted hgoing hbelow h
        | some x =>
          have hcounted' : s.peaksFound + 1 = (s.targets ++ [x]).length := by
            rw [List.length_append, List.length_singleton, hcounted]
          by_cases hmet : c.maxPeaksPerAzimuth ≤ s.peaksFound + 1
          · -- the limit is met; the other search only adds to the targets
            obtain ⟨more, hmore⟩ := targets_turns (c := c.withLimit maxPeaks) h
            change (s.targets ++ [x]) ++ more = _ at hmore
            refine ⟨c.take (c.moveTo s p true) p (some x), Loop.turns_of_not_cond _ ?_, ?_⟩
            · change ¬ (!decide (c.maxPeaksPerAzimuth ≤ s.peaksFound + 1) && _) = true
              rw [decide_eq_true hmet]
              exact Bool.false_ne_true
            · rw [← hmore, List.take_left' (by omega)]
              rfl
          · have hsame : (c.withLimit maxPeaks).take (c.moveTo s p true) p (some x) =
                c.take (c.moveTo s p true) p (some x) :=
              take_withLimit (c.moveTo s p true) p x (Nat.lt_of_not_le hmet)
                (by change s.peaksFound + 1 < _; omega)
            change Loop.turns _ _ n ((c.withLimit maxPeaks).take (c.moveTo s p true) p (some x)) =
              .ok s' at h
            rw [hsame] at h
            refine ih hcounted' (decide_eq_false hmet) ?_ h
            change s.peaksFound + 1 < _
            omega

theorem findPeaks_withLimit {maxPeaks : Nat} (hle : c.maxPeaksPerAzimuth ≤ maxPeaks)
    (h : (c.withLimit maxPeaks).findPeaks (sweep f c.rangeInBins) locate = .ok s') :
    ∃ t, c.findPeaks (sweep f c.rangeInBins) locate = .ok t ∧
      t.targets = s'.targets.take (max 1 c.maxPeaksPerAzimuth) :=
  turns_withLimit hle rfl rfl (Nat.lt_of_lt_of_le Nat.zero_lt_one (Nat.le_max_left _ _)) h

/-- There are never more targets than bins. -/
theorem targets_length_le (h : c.findPeaks (sweep f c.rangeInBins) locate = .ok s) :
    s.targets.length ≤ c.rangeInBins := by
  have hfive := c.five_le
  have hkept := Loop.turns_invariant
    (I := fun t : Search ρ => t.targets.length ≤ c.rangeInBins ∧
      (c.goesOn t = true → t.targets.length ≤ t.minBinToOperateUpon))
    (fun {t t'} hI hs htrip => ?_) ⟨Nat.zero_le _, fun _ => Nat.zero_le _⟩ h
  · exact hkept.1
  · obtain ⟨hall, hmin⟩ := hI
    cases trip_cases htrip with
    | ended awaits _ =>
      have hover := not_goesOn_ended (c := c) t awaits
      exact ⟨hall, fun hgoes => absurd (hgoes.symm.trans hover) (by decide)⟩
    | found p target hp _ =>
      have hbound : (c.take (c.moveTo t p true) p target).targets.length ≤ t.targets.length + 1 := by
        cases target with
        | none => exact Nat.le_succ _
        | some x =>
          change (t.targets ++ [x]).length ≤ _
          rw [List.length_append, List.length_singleton]
      have hfrom := hp.from_start
      have hfits := hp.fits
      have hbefore := hmin hs
      rw [hp.minBin_take]
      exact ⟨by omega, fun _ => by omega⟩

/-! ## Searches without targets -/

theorem comesTo_of_turns {n : Nat} {first : Search ρ}
    (h : Loop.turns c.goesOn (c.trip (sweep f c.rangeInBins) locate) n first = .ok s)
    (hended : c.goesOn s = false) (hgoes : c.goesOn first = true) (hgoing : first.stopped = false)
    (hnone : s.targets = []) {p : Nat}
    (hp : c.ComesTo f first.minBinToOperateUpon first.awaitingRise p) : locate p = .ok none := by
  induction n generalizing first p with
  | zero =>
    obtain rfl := Except.ok.inj h
    exact absurd (hgoes.symm.trans hended) (by decide)
  | succ n ih =>
    rw [Loop.turns_succ_of_cond _ hgoes] at h
    obtain ⟨t, htrip, hrest⟩ := bind_eq_ok.mp h
    cases trip_cases htrip with
    | ended awaits hmissed =>
      have hfirst {q : Nat} (hq : c.FirstFiring f first.minBinToOperateUpon first.awaitingRise q) :
          False := hmissed q hq.from_start hq.fits hq.fires
      cases hp with
      | first hq => exact (hfirst hq).elim
      | behind hq _ => exact (hfirst hq).elim
    | found q target hq hlocate =>
      have hempty : (c.take (c.moveTo first q true) q target).targets = [] :=
        List.prefix_nil.mp (hnone ▸ targets_turns hrest)
      cases target with
      | some x => exact absurd hempty (List.append_ne_nil_of_right_ne_nil _ (List.cons_ne_nil _ _))
      | none =>
        have hsame {r : Nat} (hr : c.FirstFiring f first.minBinToOperateUpon first.awaitingRise r) :
            r = q := (nextPeak_iff.mpr hr).unique hq
        cases hp with
        | first hr =>
          obtain rfl := hsame hr
          exact hlocate
        | behind hr hbehind =>
          obtain rfl := hsame hr
          refine ih hrest ?_ hgoing ?_
          · have hfits := hq.fits
            have hfive := c.five_le
            rw [goesOn_declined, hgoing, Bool.not_false, Bool.true_and, bne_iff_ne]
            omega
          · rw [hq.minBin_take]
            exact hbehind

/-- **No target is made** exactly if none comes of any bin that the search comes to. -/
theorem targets_eq_nil_iff (h : c.findPeaks (sweep f c.rangeInBins) locate = .ok s) :
    s.targets = [] ↔ ∀ p, c.ComesTo f c.minBinToOperateOn false p → locate p = .ok none := by
  constructor
  · intro hnone p hp
    have hfits := hp.peak.2.1
    have hfive := c.five_le
    have hgoes : c.goesOn (c.start : Search ρ) = true := by
      change (0 != c.rangeInBins) = true
      rw [bne_iff_ne]
      omega
    exact comesTo_of_turns h (findPeaks_ended h) hgoes rfl hnone hp
  · intro hall
    have hkept := Loop.turns_invariant
      (I := fun t : Search ρ => t.targets = [] ∧ (c.goesOn t = true → ∀ p,
        c.ComesTo f t.minBinToOperateUpon t.awaitingRise p →
          c.ComesTo f c.minBinToOperateOn false p))
      (fun {t t'} hI hs htrip => ?_) ⟨rfl, fun _ p hp => hp⟩ h
    · exact hkept.1
    · obtain ⟨hnil, hcomes⟩ := hI
      cases trip_cases htrip with
      | ended awaits _ =>
        have hover := not_goesOn_ended (c := c) t awaits
        exact ⟨hnil, fun hgoes => absurd (hgoes.symm.trans hover) (by decide)⟩
      | found p target hp hlocate =>
        have hfirst := nextPeak_iff.mp hp
        have htarget : target = none :=
          Except.ok.inj (hlocate.symm.trans (hall p (hcomes hs p (.first hfirst))))
        subst htarget
        refine ⟨hnil, fun _ q hq => hcomes hs q ?_⟩
        rw [hp.minBin_take] at hq
        exact .behind hfirst hq

end Scan

/-! ## What is delivered -/

variable {κ : Type}

/-- The same with the greatest limit that there is. -/
def Parameters.unlimited (p : Parameters κ) : Parameters κ :=
  { p with maxPeaksPerAzi := 0xFFFFFFFF }

/-- The targets that the callback is called with. -/
def delivered (r : PeakFinder κ × Option AzimuthTarget) : List Target :=
  r.2.toList.flatMap AzimuthTarget.targets

/-- The limit only truncates: what is delivered are the first targets of the search without it,
    and the callback is called if there are any. -/
def Truncates (resolve : Resolve κ) (pf : PeakFinder κ) (p : Parameters κ) (fftData : FftData)
    (data : List ℚ) : Prop :=
  ∃ r u, (pf.configure p).findPeaks resolve fftData data = .ok r ∧
    (pf.configure p.unlimited).findPeaks resolve fftData data = .ok u ∧
    delivered r = (delivered u).take p.maxPeaksPerAzi.toNat ∧
    (r.2.isSome = true ↔ pf.targetCallback = true ∧ delivered r ≠ [])

/-- No peak from the start bin on has a window that begins before the sweep. -/
def WindowsInside (c : Scan ℚ) (f : Nat → ℚ) : Prop :=
  ∀ q, c.minBinToOperateOn ≤ q → q + c.binsToOperateOn ≤ c.rangeInBins →
    IsPeak c.threshold f q → binsToOffset c.binsToOperateOn ≤ q

section Delivered

variable {resolve : Resolve κ} {pf : PeakFinder κ} {fftData : FftData} {f : Nat → ℚ}
  {s : Search (ExtRat × ℚ)}

theorem succeeds_search_iff (resolve : Resolve κ) (c : Settings κ) (f : Nat → ℚ) :
    Succeeds (c.search resolve (sweep f c.scan.rangeInBins)) ↔ WindowsInside c.scan f :=
  Scan.succeeds_findPeaks_iff c.scan f (c.resolve resolve)

/-- The search without a limit is never stopped by it. -/
theorem not_limited (p : Parameters κ)
    (hs : p.unlimited.settings.search resolve (sweep f p.rangeInBins.toNat) = .ok s) :
    s.targets.length < p.unlimited.scan.maxPeaksPerAzimuth := by
  have hbound := Scan.targets_length_le (c := p.unlimited.scan) hs
  have hbins := p.unlimited.scan.rangeInBins_lt
  have hlimit : p.unlimited.scan.maxPeaksPerAzimuth = 4294967295 := rfl
  omega

/-- What the callback receives, and whether it is called. -/
theorem delivered_deliver (hcounted : s.peaksFound = s.targets.length) (pf' : PeakFinder κ) :
    delivered (pf', pf.deliver fftData s) =
      (if pf.targetCallback = true then s.targets.map fun t => ⟨t.1, t.2⟩ else []) ∧
    ((pf.deliver fftData s).isSome = true ↔
      pf.targetCallback = true ∧ delivered (pf', pf.deliver fftData s) ≠ []) := by
  unfold delivered deliver
  dsimp only
  rw [hcounted]
  by_cases hcallback : pf.targetCallback = true
  · rw [if_pos hcallback]
    by_cases hpos : 0 < s.targets.length
    · rw [if_pos ⟨hpos, hcallback⟩]
      simp [hcallback, List.length_pos_iff.mp hpos]
    · obtain hnil : s.targets = [] := List.length_eq_zero_iff.mp (Nat.eq_zero_of_not_pos hpos)
      rw [if_neg fun h => hpos h.1, hnil]
      simp
  · rw [if_neg hcallback, if_neg fun h => hcallback h.2]
    simp [hcallback]

/-- What comes of a bin that the search comes to. -/
theorem located_comesTo {c : Settings κ} (hinside : WindowsInside c.scan f) {q : Nat}
    (hq : c.scan.ComesTo f c.scan.minBinToOperateOn false q) :
    c.scan.locate (sweep f c.scan.rangeInBins) (c.resolve resolve) q = .ok none ↔
      c.resolve resolve q (c.scan.window f q) = none := by
  obtain ⟨hmin, hfits, hpeak⟩ := hq.peak
  rw [Scan.locate_sweep (hinside q hmin hfits hpeak) hfits, Except.ok.injEq,
    Option.map_eq_none_iff]

/-- Once the windows lie inside, both searches come to their end, the one ahead of the other. -/
theorem search_unlimited {p : Parameters κ} (hinside : WindowsInside p.scan f) :
    ∃ s t, p.unlimited.settings.search resolve (sweep f p.rangeInBins.toNat) = .ok s ∧
      p.settings.search resolve (sweep f p.rangeInBins.toNat) = .ok t ∧
      t.targets = s.targets.take (max 1 p.maxPeaksPerAzi.toNat) := by
  obtain ⟨s, hs⟩ := (succeeds_search_iff resolve p.unlimited.settings f).mpr hinside
  have hle : p.maxPeaksPerAzi.toNat ≤ 4294967295 := by
    have hlt := p.maxPeaksPerAzi.toNat_lt
    omega
  obtain ⟨t, ht, htargets⟩ := Scan.findPeaks_withLimit (c := p.scan) hle hs
  exact ⟨s, t, hs, ht, htargets⟩

/-- A search finds no target exactly if every range it comes to is rejected. -/
theorem search_targets_eq_nil_iff {p : Parameters κ} (hinside : WindowsInside p.scan f)
    (hs : p.settings.search resolve (sweep f p.rangeInBins.toNat) = .ok s) :
    s.targets = [] ↔ ∀ q, p.scan.ComesTo f p.scan.minBinToOperateOn false q →
      p.settings.resolve resolve q (p.scan.window f q) = none :=
  (Scan.targets_eq_nil_iff (c := p.scan) hs).trans
    (forall₂_congr fun _ hq => located_comesTo (c := p.settings) hinside hq)

/-- **The limit only truncates** exactly if no window begins before the sweep, and the limit is
    not zero, or nobody listens, or every range that the search comes to is rejected. -/
theorem truncates_iff (resolve : Resolve κ) (pf : PeakFinder κ) (p : Parameters κ)
    (fftData : FftData) (f : Nat → ℚ) :
    Truncates resolve pf p fftData (sweep f p.rangeInBins.toNat) ↔
      WindowsInside p.scan f ∧
        (0 < p.maxPeaksPerAzi ∨ pf.targetCallback = false ∨
          ∀ q, p.scan.ComesTo f p.scan.minBinToOperateOn false q →
            p.settings.resolve resolve q (p.scan.window f q) = none) := by
  constructor
  · intro h
    obtain ⟨r, u, hr, hu, hlist, -⟩ := h
    have hinside : WindowsInside p.scan f := by
      obtain ⟨t, ht, -⟩ := bind_eq_ok.mp
        (show (p.settings.search resolve (sweep f p.rangeInBins.toNat) >>= fun s => .ok
          ({ pf.configure p with awaitingRise := s.awaitingRise },
            (pf.configure p).deliver fftData s)) = .ok r from hr)
      exact (succeeds_search_iff resolve p.settings f).mp ⟨t, ht⟩
    obtain ⟨s, t, hs, ht, htargets⟩ := search_unlimited hinside
    refine ⟨hinside, or_iff_not_imp_left.mpr fun hzero => or_iff_not_imp_left.mpr fun hcallback =>
      (search_targets_eq_nil_iff hinside ht).mp ?_⟩
    have hlimit : p.maxPeaksPerAzi.toNat = 0 := by
      rwa [UInt32.lt_iff_toNat_lt, UInt32.toNat_zero, Nat.not_lt, Nat.le_zero] at hzero
    obtain rfl := Except.ok.inj (hr.symm.trans (findPeaks_eq (c := p.settings) rfl ht))
    rw [(delivered_deliver (Scan.findPeaks_targets ht).counted _).1, hlimit, List.take_zero,
      if_pos (show (pf.configure p).targetCallback = true from (Bool.not_eq_false _).mp hcallback)]
      at hlist
    exact List.map_eq_nil_iff.mp hlist
  · rintro ⟨hinside, hcond⟩
    obtain ⟨s, t, hs, ht, htargets⟩ := search_unlimited hinside
    have hlimited := @delivered_deliver κ (pf.configure p) fftData t
      (Scan.findPeaks_targets ht).counted { pf.configure p with awaitingRise := t.awaitingRise }
    have hall := @delivered_deliver κ (pf.configure p.unlimited) fftData s
      (Scan.findPeaks_targets hs).counted
      { pf.configure p.unlimited with awaitingRise := s.awaitingRise }
    refine ⟨_, _, findPeaks_eq (c := p.settings) rfl ht, findPeaks_eq (c := p.unlimited.settings)
      rfl hs, ?_, hlimited.2⟩
    rw [hlimited.1, hall.1]
    by_cases hcallback : pf.targetCallback = true
    · rw [if_pos (show (pf.configure p).targetCallback = true from hcallback),
        if_pos (show (pf.configure p.unlimited).targetCallback = true from hcallback),
        ← List.map_take]
      refine congrArg _ ?_
      rcases hcond with hpos | hno | hbins
      · rw [UInt32.lt_iff_toNat_lt, UInt32.toNat_zero] at hpos
        rw [htargets, Nat.max_eq_right hpos]
      · rw [hno] at hcallback
        exact absurd hcallback Bool.false_ne_true
      · have hnil := (search_targets_eq_nil_iff hinside ht).mpr hbins
        have hnil' : s.targets = [] := by
          rw [htargets, List.take_eq_nil_iff] at hnil
          exact hnil.resolve_left (by omega)
        rw [hnil, hnil', List.take_nil]
    · rw [if_neg (show ¬ (pf.configure p).targetCallback = true from hcallback),
        if_neg (show ¬ (pf.configure p.unlimited).targetCallback = true from hcallback),
        List.take_nil]

end Delivered

/-- With a limit of zero, the one target of the sweep is delivered. -/
theorem not_forall_truncates :
    ¬ ∀ (pf : PeakFinder Ranging) (p : Parameters Ranging) (fftData : FftData) (f : Nat → ℚ),
      WindowsInside p.scan f →
        Truncates Ranging.resolve pf p fftData (sweep f p.rangeInBins.toNat) := by
  intro h
  have hinside : WindowsInside (inPairs 12).scan (around6 0 1 4 1 0) := fun q hmin _ _ => hmin
  obtain ⟨r, u, hr, -, hlist, -⟩ := h (new.setTargetCallback true)
    { inPairs 12 with maxPeaksPerAzi := 0 } (silence 12) (around6 0 1 4 1 0) hinside
  have hdelivered : (((new.setTargetCallback true).configure
      { inPairs 12 with maxPeaksPerAzi := 0 }).findPeaks Ranging.resolve (silence 12)
        (sweep (around6 0 1 4 1 0) 12)).map delivered = .ok [⟨.finite 6, 4⟩] := by
    decide +kernel
  change ((new.setTargetCallback true).configure _).findPeaks Ranging.resolve (silence 12)
    (sweep (around6 0 1 4 1 0) 12) = .ok r at hr
  rw [hr] at hdelivered
  have hone : delivered r = [⟨.finite 6, 4⟩] := Except.ok.inj hdelivered
  rw [hone] at hlist
  exact List.cons_ne_nil _ _ hlist

end PeakFinder

end Navtech
