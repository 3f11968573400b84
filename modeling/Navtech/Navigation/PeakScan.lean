/-
  The search of `cpp_17/navigation/peak_finder.cpp`: `find_peaks` and `find_peak_bin`.

  `find_peak_bin` is an automaton of two states that runs over the samples. It reports a bin
  above the threshold before a falling edge, unless it still awaits a rise; after a report it
  does. `find_peaks` calls it again from behind the window of the bin reported, so the state
  survives a jump over bins that nobody has looked at. What happens at a bin that is reported
  is a parameter here, `locate`, which may read the samples, and may decline to make a target
  of it.

  The samples are those of a function on bins, as many as the sweep has (`sweep`). What one
  call of `find_peak_bin` does is said once (`findPeakBin_spec`): it reports the first bin from
  its start that fires (`Fires`). What one turn of the loop does is said once too
  (`trip_cases`).
-/
import Mathlib.Order.Defs.LinearOrder
import Navtech.Lib.Loop

namespace Navtech

namespace PeakFinder

open CheckedView (Succeeds bind_eq_ok)

/-- What the search can do wrong. -/
inductive Fault where
  /-- The element `index` of a vector of `size` elements is read. -/
  | outOfBounds (index : Int) (size : Nat)
  | nullPointer
deriving DecidableEq, Repr

/-- What `find_peaks` reads of what `configure` has set. -/
structure Scan (α : Type) where
  threshold : α
  binsToOperateOn : Nat
  minBinToOperateOn : Nat
  maxPeaksPerAzimuth : Nat
  rangeInBins : Nat
  five_le : 5 ≤ binsToOperateOn
  le_fifteen : binsToOperateOn ≤ 15
  minBin_lt : minBinToOperateOn < 2 ^ 16
  rangeInBins_lt : rangeInBins < 2 ^ 16

variable {α ρ : Type}

/-- `data[index]`. -/
def sample (data : List α) (index : Int) : Except Fault α :=
  if index < 0 then .error (.outOfBounds index data.length)
  else
    match data[index.toNat]? with
    | none => .error (.outOfBounds index data.length)
    | some v => .ok v

/-- `n` elements of the vector, from `index` on, in the order of a loop. -/
def samples (data : List α) : Nat → Int → Except Fault (List α)
  | 0, _ => .ok []
  | n + 1, index => do
    let v ← sample data index
    let vs ← samples data n (index + 1)
    return v :: vs

/-- `bins_to_offset` of `peak_resolve`. -/
def binsToOffset (binsToOperateUpon : Nat) : Nat := (binsToOperateUpon - 1) / 2

section Definitions

variable [LT α] [DecidableLT α]

/-- `a && b`: the second is looked at only where the first holds. -/
def andThen (a : Bool) (b : Except Fault Bool) : Except Fault Bool := if a then b else .ok false

/-- `data[peakBin] > data[peakBin + 1]`. -/
def falls (data : List α) (peakBin : Nat) : Except Fault Bool := do
  let here ← sample data peakBin
  let next ← sample data (peakBin + 1)
  return decide (next < here)

/-- `data[peakBin] > threshold`. -/
def exceeds (threshold : α) (data : List α) (peakBin : Nat) : Except Fault Bool := do
  let here ← sample data peakBin
  return decide (threshold < here)

/-- The loop of `find_peak_bin`, at `peakBin` and with `n` bins to go: the bin it returns, and
    `awaiting_rise`. -/
def scanBins (threshold : α) (data : List α) (endBin : Nat) :
    Nat → Nat → Bool → Except Fault (Nat × Bool)
  | 0, _, awaitingRise => .ok (endBin, awaitingRise)
  | n + 1, peakBin, awaitingRise => do
    if ← andThen awaitingRise (falls data peakBin) then
      scanBins threshold data endBin n (peakBin + 1) awaitingRise
    else
      -- `awaiting_rise` is false from here on
      let above ← exceeds threshold data peakBin
      if ← andThen above (falls data peakBin) then return (peakBin, true)
      else scanBins threshold data endBin n (peakBin + 1) false

/-- `find_peak_bin`. Where the scan has no bin it returns the end. -/
def findPeakBin (threshold : α) (data : List α) (startBin endBin binsToOperateUpon : Nat)
    (awaitingRise : Bool) : Except Fault (Nat × Bool) :=
  if (endBin : Int) - binsToOperateUpon < startBin then .ok (endBin, awaitingRise)
  else
    scanBins threshold data endBin (endBin - binsToOperateUpon + 1 - startBin) startBin awaitingRise

end Definitions

/-- The variables of `find_peaks`, and the member it shares with `find_peak_bin`. -/
structure Search (ρ : Type) where
  peakBin : Nat
  awaitingRise : Bool
  minBinToOperateUpon : Nat
  peaksFound : Nat
  targets : List ρ
  /-- The loop has been left by its `break`. -/
  stopped : Bool
  /-- The bins other than the end that `find_peak_bin` has returned so far. -/
  bins : List Nat
deriving DecidableEq, Repr

namespace Scan

def start (c : Scan α) : Search ρ where
  peakBin := 0
  awaitingRise := false
  minBinToOperateUpon := c.minBinToOperateOn
  peaksFound := 0
  targets := []
  stopped := false
  bins := []

/-- The loop goes on. -/
def goesOn (c : Scan α) (s : Search ρ) : Bool := !s.stopped && s.peakBin != c.rangeInBins

/-- `if (peaks_found >= max_peaks_per_azimuth) break;`. -/
def limit (c : Scan α) (s : Search ρ) : Search ρ :=
  { s with stopped := decide (c.maxPeaksPerAzimuth ≤ s.peaksFound) }

/-- After a call of `find_peak_bin`; the sum is taken in 16 bits. -/
def moveTo (c : Scan α) (s : Search ρ) (peakBin : Nat) (awaitingRise : Bool) : Search ρ :=
  { s with
    peakBin := peakBin
    awaitingRise := awaitingRise
    minBinToOperateUpon := (peakBin + c.binsToOperateOn) % 2 ^ 16 }

/-- A peak at the bin, and the target that comes of it, if any. -/
def take (c : Scan α) (s : Search ρ) (peakBin : Nat) (target : Option ρ) : Search ρ :=
  let s := { s with bins := s.bins ++ [peakBin] }
  match target with
  | none => s -- `continue`: the limit is not tested
  | some target =>
    c.limit { s with targets := s.targets ++ [target], peaksFound := s.peaksFound + 1 }

/-- What becomes of a peak. `peak_resolve` reads the samples around it; where `resolve` finds
    the range in them plausible, the target takes the sample at the peak as its power. -/
def locate {R : Type} (c : Scan α) (data : List α) (resolve : Nat → List α → Option R)
    (peakBin : Nat) : Except Fault (Option (R × α)) := do
  let y ← samples data c.binsToOperateOn ((peakBin : Int) - binsToOffset c.binsToOperateOn)
  match resolve peakBin y with
  | none => return none
  | some range =>
    let power ← sample data peakBin
    return some (range, power)

variable [LT α] [DecidableLT α]

/-- The body of the loop of `find_peaks`. -/
def trip (c : Scan α) (data : List α) (locate : Nat → Except Fault (Option ρ)) (s : Search ρ) :
    Except Fault (Search ρ) := do
  let (peakBin, awaitingRise) ← findPeakBin c.threshold data s.minBinToOperateUpon c.rangeInBins
    c.binsToOperateOn s.awaitingRise
  let s := c.moveTo s peakBin awaitingRise
  if peakBin < c.rangeInBins then
    let target ← locate peakBin
    return c.take s peakBin target
  else return c.limit s

/-- The loop of `find_peaks`. Each turn but the last moves the start of the next scan on, so the
    turns are enough. -/
def findPeaks (c : Scan α) (data : List α) (locate : Nat → Except Fault (Option ρ)) :
    Except Fault (Search ρ) :=
  Loop.turns c.goesOn (c.trip data locate) (c.rangeInBins + 2) c.start

end Scan

/-! ## One call of `find_peak_bin` -/

/-- The sweep of the first `n` values. -/
def sweep (f : Nat → α) (n : Nat) : List α := (List.range n).map f

theorem sample_sweep (f : Nat → α) {n i : Nat} (h : i < n) : sample (sweep f n) i = .ok (f i) := by
  have hget : (sweep f n)[i]? = some (f i) := by
    unfold sweep
    rw [List.getElem?_map, List.getElem?_range h]
    rfl
  unfold sample
  rw [if_neg (by omega), Int.toNat_natCast, hget]

section Reads

variable [LT α] [DecidableLT α] {threshold : α} {f : Nat → α}

theorem falls_sweep {n peakBin : Nat} (h : peakBin + 1 < n) :
    falls (sweep f n) peakBin = .ok (decide (f (peakBin + 1) < f peakBin)) := by
  unfold falls
  rw [sample_sweep f (by omega), ← Nat.cast_succ, sample_sweep f h]
  rfl

theorem exceeds_sweep {n peakBin : Nat} (h : peakBin < n) :
    exceeds threshold (sweep f n) peakBin = .ok (decide (threshold < f peakBin)) := by
  unfold exceeds
  rw [sample_sweep f h]
  rfl

end Reads

variable [LinearOrder α] {threshold : α} {f : Nat → α}

/-- A sample above the threshold, and a falling edge behind it. -/
def IsPeak (threshold : α) (f : Nat → α) (q : Nat) : Prop := threshold < f q ∧ f (q + 1) < f q

/-- A scan from `start` reports `q`, if it gets there: it is a peak, and the scan does not await
    a rise any more. -/
def Fires (threshold : α) (f : Nat → α) (start : Nat) (awaitingRise : Bool) (q : Nat) : Prop :=
  IsPeak threshold f q ∧
    ¬ (awaitingRise = true ∧ ∀ r, start ≤ r → r ≤ q → f (r + 1) < f r)

/-- The outcomes of a scan of the bins from `start` until before `stop`. -/
inductive Scanned (threshold : α) (f : Nat → α) (start stop endBin : Nat) (awaitingRise : Bool) :
    Nat × Bool → Prop where
  | missed (awaits : Bool) : (∀ q, start ≤ q → q < stop → ¬ Fires threshold f start awaitingRise q) →
      Scanned threshold f start stop endBin awaitingRise (endBin, awaits)
  | found (p : Nat) : start ≤ p → p < stop → Fires threshold f start awaitingRise p →
      (∀ q, start ≤ q → q < p → ¬ Fires threshold f start awaitingRise q) →
      Scanned threshold f start stop endBin awaitingRise (p, true)

theorem andThen_ok {a b : Bool} : andThen a (.ok b) = .ok (a && b) := by
  cases a <;> rfl

theorem fires_false {start q : Nat} :
    Fires threshold f start false q ↔ IsPeak threshold f q :=
  and_iff_left (fun h => nomatch h.1)

/-- A rise in sight ends the wait. -/
theorem fires_of_rise {start q r : Nat} {awaitingRise : Bool} (hpeak : IsPeak threshold f q)
    (hstart : start ≤ r) (hq : r ≤ q) (hrise : ¬ f (r + 1) < f r) :
    Fires threshold f start awaitingRise q :=
  ⟨hpeak, fun h => hrise (h.2 r hstart hq)⟩

/-- The wait goes on over a falling edge. -/
theorem fires_succ {start q : Nat} (hfall : f (start + 1) < f start) :
    Fires threshold f start true q ↔ Fires threshold f (start + 1) true q := by
  unfold Fires
  refine and_congr_right fun _ => not_congr (and_congr_right fun _ => ?_)
  constructor
  · intro h r hr hrq
    exact h r (by omega) hrq
  · intro h r hr hrq
    rcases Nat.eq_or_lt_of_le hr with rfl | hlt
    · exact hfall
    · exact h r hlt hrq

/-- The first bin does not report, and the others do as from the bin after it. -/
theorem Scanned.cons {start stop endBin : Nat} {a a' : Bool} {r : Nat × Bool}
    (h : Scanned threshold f (start + 1) stop endBin a' r)
    (hfirst : ¬ Fires threshold f start a start)
    (hrest : ∀ q, start + 1 ≤ q →
      (Fires threshold f start a q ↔ Fires threshold f (start + 1) a' q)) :
    Scanned threshold f start stop endBin a r := by
  have hnot {q : Nat} (hq : start ≤ q) (h' : start + 1 ≤ q → ¬ Fires threshold f (start + 1) a' q) :
      ¬ Fires threshold f start a q := by
    rcases Nat.eq_or_lt_of_le hq with rfl | hlt
    · exact hfirst
    · exact (not_congr (hrest q hlt)).mpr (h' hlt)
  cases h with
  | missed awaits hnone =>
    exact .missed awaits fun q hq hstop => hnot hq fun hq' => hnone q hq' hstop
  | found p hp hstop hfires hnone =>
    exact .found p (by omega) hstop ((hrest p hp).mpr hfires) fun q hq hqp =>
      hnot hq fun hq' => hnone q hq' hqp

theorem scanBins_succ (endBin : Nat) {size : Nat} (n : Nat) {peakBin : Nat} (a : Bool)
    (h : peakBin + 1 < size) :
    scanBins threshold (sweep f size) endBin (n + 1) peakBin a =
      if a = true ∧ f (peakBin + 1) < f peakBin then
        scanBins threshold (sweep f size) endBin n (peakBin + 1) a
      else if threshold < f peakBin ∧ f (peakBin + 1) < f peakBin then .ok (peakBin, true)
      else scanBins threshold (sweep f size) endBin n (peakBin + 1) false := by
  conv => lhs; unfold scanBins
  rw [falls_sweep h, exceeds_sweep (by omega), andThen_ok]
  dsimp only [bind, Except.bind, pure, Except.pure]
  rw [andThen_ok]
  simp only [Bool.and_eq_true, decide_eq_true_eq]

/-- What the loop of `find_peak_bin` does with the bins from `peakBin` on. -/
theorem scanBins_spec (endBin : Nat) {size : Nat} (n : Nat) {peakBin : Nat} (a : Bool)
    (hsize : peakBin + n < size) :
    ∃ r, scanBins threshold (sweep f size) endBin n peakBin a = .ok r ∧
      Scanned threshold f peakBin (peakBin + n) endBin a r := by
  induction n generalizing peakBin a with
  | zero => exact ⟨_, rfl, .missed a fun q hq hstop => absurd hstop (by omega)⟩
  | succ n ih =>
    rw [scanBins_succ endBin n a (by omega)]
    have hstop : peakBin + (n + 1) = peakBin + 1 + n := by omega
    rw [hstop]
    split
    · -- the wait goes on
      rename_i hwait
      obtain ⟨rfl, hfall⟩ := hwait
      obtain ⟨r, hr, hscanned⟩ := @ih (peakBin + 1) true (by omega)
      refine ⟨r, hr, hscanned.cons ?_ fun q _ => fires_succ hfall⟩
      intro hfires
      refine hfires.2 ⟨rfl, fun r' hr' hle => ?_⟩
      rwa [Nat.le_antisymm hle hr']
    · rename_i hwait
      split
      · rename_i hpeak
        refine ⟨_, rfl, .found peakBin le_rfl (by omega) ⟨hpeak, ?_⟩ fun q hq hlt => ?_⟩
        · intro h
          exact hwait ⟨h.1, hpeak.2⟩
        · exact absurd hlt (by omega)
      · rename_i hpeak
        obtain ⟨r, hr, hscanned⟩ := @ih (peakBin + 1) false (by omega)
        refine ⟨r, hr, hscanned.cons (fun hfires => hpeak hfires.1) fun q hq => ?_⟩
        rw [fires_false]
        refine ⟨fun hfires => hfires.1, fun hq' => ⟨hq', fun h => ?_⟩⟩
        exact hwait ⟨h.1, h.2 peakBin le_rfl (by omega)⟩

theorem findPeakBin_spec (threshold : α) (f : Nat → α) (startBin endBin : Nat) {bins : Nat}
    (a : Bool) (hbins : 2 ≤ bins) :
    ∃ r, findPeakBin threshold (sweep f endBin) startBin endBin bins a = .ok r ∧
      Scanned threshold f startBin (endBin + 1 - bins) endBin a r := by
  unfold findPeakBin
  split
  · exact ⟨_, rfl, .missed a fun q hq hstop => absurd hstop (by omega)⟩
  · have hstop : startBin + (endBin - bins + 1 - startBin) = endBin + 1 - bins := by omega
    rw [← hstop]
    exact scanBins_spec endBin _ a (by omega)

/-! ## One turn of the loop -/

namespace Scan

variable {c : Scan α} {locate : Nat → Except Fault (Option ρ)} {s s' : Search ρ}

/-- `q` fires in the scan that the turn makes. -/
def FiresNext (c : Scan α) (f : Nat → α) (s : Search ρ) (q : Nat) : Prop :=
  Fires c.threshold f s.minBinToOperateUpon s.awaitingRise q

/-- The first bin from the start of the scan that fires. -/
structure NextPeak (c : Scan α) (f : Nat → α) (s : Search ρ) (p : Nat) : Prop where
  from_start : s.minBinToOperateUpon ≤ p
  fits : p + c.binsToOperateOn ≤ c.rangeInBins
  fires : c.FiresNext f s p
  first : ∀ q, s.minBinToOperateUpon ≤ q → q < p → ¬ c.FiresNext f s q

theorem NextPeak.unique {p q : Nat} (hp : c.NextPeak f s p) (hq : c.NextPeak f s q) : p = q := by
  rcases Nat.lt_trichotomy p q with hlt | heq | hlt
  · exact absurd hp.fires (hq.first p hp.from_start hlt)
  · exact heq
  · exact absurd hq.fires (hp.first q hq.from_start hlt)

/-- What a turn that ends without a fault can do. -/
inductive Trip (c : Scan α) (f : Nat → α) (locate : Nat → Except Fault (Option ρ))
    (s : Search ρ) : Search ρ → Prop where
  | ended (awaits : Bool) :
      (∀ q, s.minBinToOperateUpon ≤ q → q + c.binsToOperateOn ≤ c.rangeInBins →
        ¬ c.FiresNext f s q) →
      Trip c f locate s (c.limit (c.moveTo s c.rangeInBins awaits))
  | found (p : Nat) (target : Option ρ) : c.NextPeak f s p → locate p = .ok target →
      Trip c f locate s (c.take (c.moveTo s p true) p target)

theorem trip_ended {awaits : Bool}
    (h : findPeakBin c.threshold (sweep f c.rangeInBins) s.minBinToOperateUpon c.rangeInBins
      c.binsToOperateOn s.awaitingRise = .ok (c.rangeInBins, awaits)) :
    c.trip (sweep f c.rangeInBins) locate s =
      .ok (c.limit (c.moveTo s c.rangeInBins awaits)) := by
  unfold trip
  rw [h]
  exact if_neg (lt_irrefl _)

theorem trip_found {p : Nat} (hp : p < c.rangeInBins)
    (h : findPeakBin c.threshold (sweep f c.rangeInBins) s.minBinToOperateUpon c.rangeInBins
      c.binsToOperateOn s.awaitingRise = .ok (p, true)) :
    c.trip (sweep f c.rangeInBins) locate s =
      (locate p).map fun target => c.take (c.moveTo s p true) p target := by
  unfold trip
  rw [h]
  show (if p < c.rangeInBins then _ else _) = _
  rw [if_pos hp]
  cases locate p <;> rfl

/-- The turn ends the search, or comes to the next peak. -/
theorem trip_spec (c : Scan α) (f : Nat → α) (locate : Nat → Except Fault (Option ρ))
    (s : Search ρ) :
    (∃ awaits, c.trip (sweep f c.rangeInBins) locate s =
        .ok (c.limit (c.moveTo s c.rangeInBins awaits)) ∧
      ∀ q, s.minBinToOperateUpon ≤ q → q + c.binsToOperateOn ≤ c.rangeInBins →
        ¬ c.FiresNext f s q) ∨
    ∃ p, c.trip (sweep f c.rangeInBins) locate s =
        ((locate p).map fun target => c.take (c.moveTo s p true) p target) ∧
      c.NextPeak f s p := by
  have hfive := c.five_le
  obtain ⟨r, hr, hscanned⟩ := findPeakBin_spec c.threshold f s.minBinToOperateUpon c.rangeInBins
    s.awaitingRise (show 2 ≤ c.binsToOperateOn by omega)
  cases hscanned with
  | missed awaits hnone =>
    exact .inl ⟨awaits, trip_ended hr, fun q hq hfits => hnone q hq (by omega)⟩
  | found p hp hstop hfires hfirst =>
    exact .inr ⟨p, trip_found (by omega) hr, hp, by omega, hfires, hfirst⟩

theorem trip_cases (h : c.trip (sweep f c.rangeInBins) locate s = .ok s') :
    Trip c f locate s s' := by
  rcases trip_spec c f locate s with ⟨awaits, htrip, hnone⟩ | ⟨p, htrip, hpeak⟩
  · rw [htrip] at h
    obtain rfl := Except.ok.inj h
    exact .ended awaits hnone
  · rw [htrip] at h
    cases hlocate : locate p with
    | error e =>
      rw [hlocate] at h
      exact nomatch h
    | ok target =>
      rw [hlocate] at h
      obtain rfl := Except.ok.inj h
      exact .found p target hpeak hlocate

/-- A turn fails only where `locate` does, at the next peak. -/
theorem succeeds_trip : Succeeds (c.trip (sweep f c.rangeInBins) locate s) ↔
    ∀ p, c.NextPeak f s p → Succeeds (locate p) := by
  rcases trip_spec c f locate s with ⟨awaits, htrip, hnone⟩ | ⟨p, htrip, hpeak⟩
  · rw [htrip]
    exact iff_of_true ⟨_, rfl⟩ fun p hp => absurd hp.fires (hnone p hp.from_start hp.fits)
  · rw [htrip, CheckedView.succeeds_map]
    constructor
    · intro h p' hp'
      rwa [hp'.unique hpeak]
    · intro h
      exact h p hpeak

end Scan

end PeakFinder

end Navtech
