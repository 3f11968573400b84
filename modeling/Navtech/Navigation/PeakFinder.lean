/-
  `Peak_finder` of `cpp_17/navigation/peak_finder.cpp`: its state, `configure` and
  `fft_data_handler`.

  The samples are exact, and so is the search for the bins. How a range is computed, and whether
  it is rejected, is a parameter: `κ` is what the computation reads of the two configurations,
  and `Resolve κ` the computation. `Ranging.resolve` is the one in exact numbers.

  The handler drops a sweep of another size than the configuration says, collects sweeps where
  a buffer mode is set, and searches the sweep, or what the buffer amounts to. `configure`
  changes the number of bins and leaves the buffer as it is. So the sweeps in the buffer have
  the configured size, and are read inside their bounds, in the runs in which `configure` finds
  an empty buffer or the number of bins unchanged, and in no others (`matches_iff`).
-/
import Navtech.Navigation.PeakResolve
import Navtech.Network.RadarClient

namespace Navtech

open CheckedView (Succeeds bind_eq_ok map_eq_ok)

/-- `BufferModes`. -/
inductive BufferMode where
  | off | average | max
deriving DecidableEq, Repr

/-- A peak as it is delivered. -/
structure Target where
  range : ExtRat
  power : ℚ
deriving DecidableEq

/-- The peaks of a sweep, with what the sweep says of itself. -/
structure AzimuthTarget where
  azimuth : UInt16
  angle : ExtRat
  ntpSeconds : UInt32
  ntpSplitSeconds : UInt32
  targets : List Target
deriving DecidableEq

namespace PeakFinder

/-- The range of a peak, where the loop of `find_peaks` does not `continue`: from the width of the
    window, the number of bins, the peak and the samples around it. -/
abbrev Resolve (κ : Type) := κ → Nat → Nat → Nat → List ℚ → Option ExtRat

/-- What `configure` sets. -/
structure Settings (κ : Type) where
  scan : Scan ℚ
  ranging : κ
  bufferMode : BufferMode
  bufferLength : Nat

/-- The parameters of `configure`. -/
structure Parameters (κ : Type) where
  rangeInBins : UInt16
  ranging : κ
  threshold : ℚ
  binsToOperateUpon : UInt8
  minBinToOperateUpon : UInt16
  mode : BufferMode
  bufLength : Nat
  maxPeaksPerAzi : UInt32

/-- `std::pow(10.0f, value)` and `std::log10(value)`. -/
structure Decibels where
  pow10 : ℚ → ℚ
  log10 : ℚ → ℚ

end PeakFinder

/-- A `Peak_finder`. Until `configure` is called, `configuration` is null and the defaults of the
    other members that `configure` sets are not read. -/
structure PeakFinder (κ : Type) where
  settings : Option (PeakFinder.Settings κ)
  awaitingRise : Bool
  dataBuffer : List (List ℚ)
  /-- `target_callback` is set. -/
  targetCallback : Bool

namespace PeakFinder

def minBinsToOperateOn : Nat := 5

def maxBinsToOperateOn : Nat := 15

variable {κ : Type}

/-- As constructed: not configured, without a callback. -/
def new : PeakFinder κ := ⟨none, false, [], false⟩

/-- The members that the search reads. -/
def Parameters.scan (p : Parameters κ) : Scan ℚ where
  threshold := p.threshold
  binsToOperateOn := max (min p.binsToOperateUpon.toNat maxBinsToOperateOn) minBinsToOperateOn
  minBinToOperateOn := p.minBinToOperateUpon.toNat
  maxPeaksPerAzimuth := p.maxPeaksPerAzi.toNat
  rangeInBins := p.rangeInBins.toNat
  five_le := Nat.le_max_right _ _
  le_fifteen := Nat.max_le.mpr ⟨Nat.min_le_right _ _, by decide⟩
  minBin_lt := p.minBinToOperateUpon.toNat_lt
  rangeInBins_lt := p.rangeInBins.toNat_lt

/-- What `configure` makes of its parameters. -/
def Parameters.settings (p : Parameters κ) : Settings κ := ⟨p.scan, p.ranging, p.mode, p.bufLength⟩

/-- `configure` replaces the settings. What is in the buffer stays. -/
def configure (pf : PeakFinder κ) (p : Parameters κ) : PeakFinder κ :=
  { pf with settings := some p.settings }

/-- `set_target_callback`, of which only whether there is one matters. -/
def setTargetCallback (pf : PeakFinder κ) (fn : Bool) : PeakFinder κ :=
  { pf with targetCallback := fn }

/-- `set_threshold`. Before `configure` there is nothing that would read the threshold. -/
def setThreshold (pf : PeakFinder κ) (thresh : ℚ) : PeakFinder κ :=
  { pf with
    settings := pf.settings.map fun c => { c with scan := { c.scan with threshold := thresh } } }

/-! ## The buffer -/

/-- The samples of one bin in all sweeps of the buffer. -/
def column (buffer : List (List ℚ)) (bin : Nat) : Except Fault (List ℚ) :=
  match buffer with
  | [] => .ok []
  | sweep :: rest => do
    let value ← sample sweep bin
    let values ← column rest bin
    return value :: values

/-- A loop over the bins, from `bin` on and with `n` bins to go: the result of each, of that of
    the bin before and of the samples of the bin. -/
def overBins (next : ℚ → List ℚ → ℚ) (buffer : List (List ℚ)) :
    Nat → Nat → ℚ → Except Fault (List ℚ)
  | 0, _, _ => .ok []
  | n + 1, bin, last => do
    let values ← column buffer bin
    let result := next last values
    let rest ← overBins next buffer n (bin + 1) result
    return result :: rest

/-- The body of the loop of the mode `average`. -/
def average (d : Decibels) (_ : ℚ) (values : List ℚ) : ℚ :=
  let total := (values.map fun value => d.pow10 (value / 2 / 10)).sum
  d.log10 (total / values.length) * 10

/-- The body of the loop of the mode `max`, which keeps `max` from one bin to the next. -/
def maximum (max : ℚ) (values : List ℚ) : ℚ :=
  values.foldl (fun max value => if max < value / 2 then value / 2 else max) max

/-- The samples of a sweep, as `double`. -/
def samplesOf (fftData : FftData) : List ℚ := fftData.data.map fun v => (v.toNat : ℚ)

/-- What the sweeps of the buffer amount to, in the modes other than `off`. -/
def Settings.profile (c : Settings κ) (d : Decibels) (buffer : List (List ℚ)) :
    Except Fault (List ℚ) :=
  if c.bufferMode = .average then overBins (average d) buffer c.scan.rangeInBins 0 0
  else overBins maximum buffer c.scan.rangeInBins 0 0

/-- `fft_data_handler` until before its call of `find_peaks`: the state, and the samples to be
    searched, if any. -/
def Settings.collect (c : Settings κ) (d : Decibels) (pf : PeakFinder κ) (fftData : FftData) :
    Except Fault (PeakFinder κ × Option (List ℚ)) :=
  let data := samplesOf fftData
  if data.length ≠ c.scan.rangeInBins then .ok (pf, none)
  else if c.bufferMode = .off then .ok (pf, some data)
  else
    let buffer := pf.dataBuffer ++ [data]
    if buffer.length < c.bufferLength then .ok ({ pf with dataBuffer := buffer }, none)
    else do
      let bufferedData ← c.profile d buffer
      return ({ pf with dataBuffer := [] }, some bufferedData)

/-- What the buffer makes of a sweep; without a configuration the null pointer is dereferenced. -/
def collect (d : Decibels) (pf : PeakFinder κ) (fftData : FftData) :
    Except Fault (PeakFinder κ × Option (List ℚ)) :=
  match pf.settings with
  | none => .error .nullPointer
  | some c => c.collect d pf fftData

/-! ## The search -/

/-- `if (peaks_found > 0 && target_callback != nullptr) { target_callback(target); }`. -/
def deliver (pf : PeakFinder κ) (fftData : FftData) (s : Search (ExtRat × ℚ)) :
    Option AzimuthTarget :=
  if 0 < s.peaksFound ∧ pf.targetCallback = true then
    some ⟨fftData.azimuth, fftData.angle, fftData.ntpSeconds, fftData.ntpSplitSeconds,
      s.targets.map fun t => ⟨t.1, t.2⟩⟩
  else none

/-- What becomes of a peak under these settings. -/
def Settings.resolve (c : Settings κ) (resolve : Resolve κ) : Nat → List ℚ → Option ExtRat :=
  resolve c.ranging c.scan.binsToOperateOn c.scan.rangeInBins

/-- The loop of `find_peaks` with these settings. -/
def Settings.search (c : Settings κ) (resolve : Resolve κ) (data : List ℚ) :
    Except Fault (Search (ExtRat × ℚ)) :=
  c.scan.findPeaks data (c.scan.locate data (c.resolve resolve))

/-- `find_peaks`: the flag of the search stays for the next sweep. -/
def findPeaks (resolve : Resolve κ) (pf : PeakFinder κ) (fftData : FftData) (data : List ℚ) :
    Except Fault (PeakFinder κ × Option AzimuthTarget) :=
  match pf.settings with
  | none => .error .nullPointer
  | some c => do
    let s ← c.search resolve data
    return ({ pf with awaitingRise := s.awaitingRise }, pf.deliver fftData s)

/-- `fft_data_handler` searches where the buffer gives a profile. -/
def fftDataHandler (d : Decibels) (resolve : Resolve κ) (pf : PeakFinder κ) (fftData : FftData) :
    Except Fault (PeakFinder κ × Option AzimuthTarget) := do
  let (pf, data) ← pf.collect d fftData
  match data with
  | none => return (pf, none)
  | some data => pf.findPeaks resolve fftData data

/-! ## Runs -/

/-- A call of one of the member functions. -/
inductive Event (κ : Type) where
  | configure (p : Parameters κ)
  | fftData (fftData : FftData)
  | setThreshold (thresh : ℚ)
  | setTargetCallback (fn : Bool)

/-- The state after a call. The search, with which `fft_data_handler` may end, leaves the
    settings and the buffer alone (`fftDataHandler_buffer`) and is left out. -/
def step (d : Decibels) (pf : PeakFinder κ) : Event κ → Except Fault (PeakFinder κ)
  | .configure p => .ok (pf.configure p)
  | .fftData fftData => (pf.collect d fftData).map Prod.fst
  | .setThreshold thresh => .ok (pf.setThreshold thresh)
  | .setTargetCallback fn => .ok (pf.setTargetCallback fn)

/-- Calls made one after the other, each with the state it finds, and the state after them. -/
inductive Run (d : Decibels) :
    PeakFinder κ → List (PeakFinder κ × Event κ) → PeakFinder κ → Prop where
  | nil {pf : PeakFinder κ} : Run d pf [] pf
  | cons {pf pf' pf'' : PeakFinder κ} {e : Event κ} {calls : List (PeakFinder κ × Event κ)} :
      pf.step d e = .ok pf' → Run d pf' calls pf'' → Run d pf ((pf, e) :: calls) pf''

/-- Every sweep in the buffer is as long as the configuration says. -/
def Sized (pf : PeakFinder κ) : Prop :=
  ∀ sweep ∈ pf.dataBuffer, ∃ c, pf.settings = some c ∧ sweep.length = c.scan.rangeInBins

/-- The sweeps have the right size, so that no call reads one of them beyond its end. -/
structure Matches (d : Decibels) (pf : PeakFinder κ) : Prop where
  sized : pf.Sized
  safe : pf.settings ≠ none → ∀ fftData, Succeeds (pf.collect d fftData)

/-- `configure` finds an empty buffer, or the number of bins that it sets. -/
def KeepsSize (pf : PeakFinder κ) : Event κ → Prop
  | .configure p => pf.dataBuffer = [] ∨ ∃ c, pf.settings = some c ∧
      c.scan.rangeInBins = p.rangeInBins.toNat
  | _ => True

variable {d : Decibels} {pf pf' : PeakFinder κ}

/-- The handler leaves settings and buffer as they are before its search. -/
theorem fftDataHandler_buffer {resolve : Resolve κ} {fftData : FftData}
    {r : PeakFinder κ × Option AzimuthTarget}
    (h : pf.fftDataHandler d resolve fftData = .ok r) :
    ∃ pf', pf.step d (.fftData fftData) = .ok pf' ∧ r.1.settings = pf'.settings ∧
      r.1.dataBuffer = pf'.dataBuffer := by
  obtain ⟨⟨pf', data⟩, hcollect, hrest⟩ := bind_eq_ok.mp h
  refine ⟨pf', congrArg (Except.map Prod.fst) hcollect, ?_⟩
  cases data with
  | none =>
    obtain rfl := Except.ok.inj hrest
    exact ⟨rfl, rfl⟩
  | some data =>
    unfold findPeaks at hrest
    dsimp only at hrest
    split at hrest
    · exact nomatch hrest
    · obtain ⟨s, -, hr⟩ := bind_eq_ok.mp hrest
      obtain rfl := Except.ok.inj hr
      exact ⟨rfl, rfl⟩

/-! ## The buffer loops -/

theorem succeeds_column {buffer : List (List ℚ)} {n bin : Nat} (hbin : bin < n)
    (h : ∀ sweep ∈ buffer, sweep.length = n) : Succeeds (column buffer bin) := by
  induction buffer with
  | nil => exact ⟨[], rfl⟩
  | cons sweep rest ih =>
    obtain ⟨hlength, hrest⟩ := List.forall_mem_cons.mp h
    obtain ⟨values, hvalues⟩ := ih hrest
    have hvalue : sample sweep bin = .ok sweep[bin] := by
      unfold sample
      rw [if_neg (by omega), Int.toNat_natCast, List.getElem?_eq_getElem (by omega)]
    refine ⟨sweep[bin] :: values, ?_⟩
    unfold column
    rw [hvalue, hvalues]
    rfl

theorem succeeds_overBins (next : ℚ → List ℚ → ℚ) {buffer : List (List ℚ)} {n bin : Nat} (last : ℚ)
    (h : ∀ sweep ∈ buffer, sweep.length = bin + n) :
    Succeeds (overBins next buffer n bin last) := by
  induction n generalizing bin last with
  | zero => exact ⟨[], rfl⟩
  | succ n ih =>
    obtain ⟨values, hvalues⟩ := succeeds_column (show bin < bin + (n + 1) by omega) h
    obtain ⟨rest, hrest⟩ := @ih (bin + 1) (next last values) fun sweep hs =>
      (h sweep hs).trans (by omega)
    refine ⟨next last values :: rest, bind_eq_ok.mpr ⟨values, hvalues, ?_⟩⟩
    exact bind_eq_ok.mpr ⟨rest, hrest, rfl⟩

/-! ## One call -/

/-- What `fft_data_handler` does with the buffer: nothing, or it adds the sweep, or empties it. -/
inductive Collected (c : Settings κ) (pf : PeakFinder κ) (fftData : FftData) :
    PeakFinder κ × Option (List ℚ) → Prop where
  | aside (profile : Option (List ℚ)) : Collected c pf fftData (pf, profile)
  | added : (samplesOf fftData).length = c.scan.rangeInBins → Collected c pf fftData
      ({ pf with dataBuffer := pf.dataBuffer ++ [samplesOf fftData] }, none)
  | emptied (profile : List ℚ) :
      Collected c pf fftData ({ pf with dataBuffer := [] }, some profile)

theorem collect_eq {c : Settings κ} (hc : pf.settings = some c) (fftData : FftData) :
    pf.collect d fftData = c.collect d pf fftData := by
  unfold collect
  rw [hc]

theorem collect_cases {c : Settings κ} {fftData : FftData} {r : PeakFinder κ × Option (List ℚ)}
    (hc : pf.settings = some c) (h : pf.collect d fftData = .ok r) : Collected c pf fftData r := by
  rw [collect_eq hc] at h
  unfold Settings.collect at h
  dsimp only at h
  split at h
  · obtain rfl := Except.ok.inj h
    exact .aside none
  · rename_i hsize
    split at h
    · obtain rfl := Except.ok.inj h
      exact .aside _
    · split at h
      · obtain rfl := Except.ok.inj h
        exact .added (not_not.mp hsize)
      · obtain ⟨profile, -, hr⟩ := bind_eq_ok.mp h
        obtain rfl := Except.ok.inj hr
        exact .emptied profile

theorem Sized.length {c : Settings κ} (h : pf.Sized) (hc : pf.settings = some c) :
    ∀ sweep ∈ pf.dataBuffer, sweep.length = c.scan.rangeInBins := by
  intro sweep hmem
  obtain ⟨c', hc', hlength⟩ := h sweep hmem
  obtain rfl := Option.some.inj (hc.symm.trans hc')
  exact hlength

/-- With sweeps of the right size the loops stay inside them. -/
theorem Sized.safe (h : pf.Sized) (hconfigured : pf.settings ≠ none) (fftData : FftData) :
    Succeeds (pf.collect d fftData) := by
  obtain ⟨c, hc⟩ := Option.ne_none_iff_exists'.mp hconfigured
  rw [collect_eq hc]
  unfold Settings.collect
  dsimp only
  split
  · exact ⟨_, rfl⟩
  · rename_i hsize
    split
    · exact ⟨_, rfl⟩
    · split
      · exact ⟨_, rfl⟩
      · have hall : ∀ sweep ∈ pf.dataBuffer ++ [samplesOf fftData],
            sweep.length = 0 + c.scan.rangeInBins := by
          rw [Nat.zero_add]
          exact List.forall_mem_append.mpr
            ⟨h.length hc, List.forall_mem_singleton.mpr (not_not.mp hsize)⟩
        have hloop : Succeeds (c.profile d (pf.dataBuffer ++ [samplesOf fftData])) := by
          unfold Settings.profile
          split
          · exact succeeds_overBins _ 0 hall
          · exact succeeds_overBins _ 0 hall
        obtain ⟨profile, hprofile⟩ := hloop
        exact ⟨_, bind_eq_ok.mpr ⟨profile, hprofile, rfl⟩⟩

theorem Sized.matches (h : pf.Sized) : Matches d pf := ⟨h, fun hc => h.safe hc⟩

/-- `configure` keeps the sizes right where it finds nothing to get wrong. -/
theorem sized_configure_iff (h : pf.Sized) (p : Parameters κ) :
    (pf.configure p).Sized ↔ KeepsSize pf (.configure p) := by
  have hnew : (pf.configure p).Sized ↔
      ∀ sweep ∈ pf.dataBuffer, sweep.length = p.rangeInBins.toNat := by
    constructor
    · intro hsized
      exact hsized.length rfl
    · intro hall sweep hmem
      exact ⟨_, rfl, hall sweep hmem⟩
  rw [hnew]
  constructor
  · intro hall
    cases hbuffer : pf.dataBuffer with
    | nil => exact .inl hbuffer
    | cons sweep rest =>
      have hmem : sweep ∈ pf.dataBuffer := hbuffer ▸ List.mem_cons_self
      obtain ⟨c, hc, hlength⟩ := h sweep hmem
      exact .inr ⟨c, hc, hlength.symm.trans (hall sweep hmem)⟩
  · intro hkeeps sweep hmem
    rcases hkeeps with hnil | ⟨c, hc, hsame⟩
    · rw [hnil] at hmem
      exact absurd hmem List.not_mem_nil
    · rw [← hsame]
      exact h.length hc sweep hmem

theorem sized_collected {c : Settings κ} {fftData : FftData} {r : PeakFinder κ × Option (List ℚ)}
    (h : pf.Sized) (hc : pf.settings = some c) (hr : Collected c pf fftData r) : r.1.Sized := by
  cases hr with
  | aside _ => exact h
  | added hlength =>
    exact List.forall_mem_append.mpr ⟨h, List.forall_mem_singleton.mpr ⟨c, hc, hlength⟩⟩
  | emptied _ => exact fun _ hmem => absurd hmem List.not_mem_nil

theorem sized_step_iff (h : pf.Sized) {e : Event κ} (hstep : pf.step d e = .ok pf') :
    pf'.Sized ↔ KeepsSize pf e := by
  cases e with
  | configure p =>
    obtain rfl := Except.ok.inj hstep
    exact sized_configure_iff h p
  | fftData fftData =>
    obtain ⟨r, hr, rfl⟩ := map_eq_ok.mp hstep
    refine iff_of_true ?_ trivial
    cases hc : pf.settings with
    | none =>
      unfold collect at hr
      rw [hc] at hr
      exact nomatch hr
    | some c => exact sized_collected h hc (collect_cases hc hr)
  | setThreshold thresh =>
    obtain rfl := Except.ok.inj hstep
    refine iff_of_true ?_ trivial
    intro sweep hmem
    obtain ⟨c, hc, hlength⟩ := h sweep hmem
    refine ⟨_, congrArg (Option.map _) hc, hlength⟩
  | setTargetCallback fn =>
    obtain rfl := Except.ok.inj hstep
    exact iff_of_true h trivial

theorem run_matches_iff (h : pf.Sized) {calls : List (PeakFinder κ × Event κ)}
    (hrun : Run d pf calls pf') :
    ((∀ call ∈ calls, Matches d call.1) ∧ Matches d pf') ↔
      ∀ call ∈ calls, KeepsSize call.1 call.2 := by
  induction hrun with
  | nil =>
    exact iff_of_true ⟨fun _ hc => absurd hc List.not_mem_nil, h.matches⟩ fun _ hc => nomatch hc
  | @cons pf pf' pf'' e calls hstep hrest ih =>
    rw [List.forall_mem_cons, List.forall_mem_cons, ← sized_step_iff h hstep]
    constructor
    · intro hall
      obtain ⟨⟨-, hcalls⟩, hlast⟩ := hall
      have hnext : pf'.Sized := by
        cases hrest with
        | nil => exact hlast.sized
        | cons _ _ => exact (hcalls _ List.mem_cons_self).sized
      exact ⟨hnext, (ih hnext).mp ⟨hcalls, hlast⟩⟩
    · intro hall
      obtain ⟨hnext, hkeeps⟩ := hall
      obtain ⟨hcalls, hlast⟩ := (ih hnext).mpr hkeeps
      exact ⟨⟨h.matches, hcalls⟩, hlast⟩

/-- **Buffered sweeps match the configuration** in every state of a run exactly if no call of
    `configure` in it changes the number of bins under a buffer that is not empty. -/
theorem matches_iff {calls : List (PeakFinder κ × Event κ)} (hrun : Run d new calls pf) :
    ((∀ call ∈ calls, Matches d call.1) ∧ Matches d pf) ↔
      ∀ call ∈ calls, KeepsSize call.1 call.2 :=
  run_matches_iff (fun _ hmem => absurd hmem List.not_mem_nil) hrun

/-- Maxima of two sweeps, with a window of five bins. -/
def inPairs (rangeInBins : UInt16) : Parameters Ranging where
  rangeInBins := rangeInBins
  ranging := ⟨1, 0, 1⟩
  threshold := 1
  binsToOperateUpon := 5
  minBinToOperateUpon := 2
  mode := .max
  bufLength := 2
  maxPeaksPerAzi := 10

/-- Where only maxima are taken, the functions are not called. -/
def notAveraging : Decibels := ⟨id, id⟩

/-- A sweep without an echo. -/
def silence (n : Nat) : FftData := ⟨.finite 0, 0, 0, 0, 0, List.replicate n 0⟩

/-- The number of bins is changed when the pair of sweeps is complete. -/
theorem matches_between_pairs :
    Matches notAveraging ((new.configure (inPairs 4)).configure (inPairs 8)) := by
  have hrun : Run notAveraging new [(new, .configure (inPairs 4)),
      (new.configure (inPairs 4), .fftData (silence 4)),
      ({ new.configure (inPairs 4) with dataBuffer := [samplesOf (silence 4)] },
        .fftData (silence 4)),
      (new.configure (inPairs 4), .configure (inPairs 8))]
      ((new.configure (inPairs 4)).configure (inPairs 8)) :=
    .cons rfl (.cons rfl (.cons rfl (.cons rfl .nil)))
  refine ((matches_iff hrun).mpr ?_).2
  simp only [List.forall_mem_cons]
  exact ⟨.inl rfl, trivial, trivial, .inl rfl, fun _ h => nomatch h⟩

/-- Halfway through a pair, eight bins are configured in place of four; the second sweep of the
    pair makes the loop read the first one beyond its end. -/
theorem not_matches_within_pair : ∃ (calls : List (PeakFinder Ranging × Event Ranging))
    (pf : PeakFinder Ranging), Run notAveraging new calls pf ∧
    pf.dataBuffer.map List.length = [4] ∧ pf.settings.map (·.scan.rangeInBins) = some 8 ∧
    ¬ pf.Sized ∧ pf.collect notAveraging (silence 8) = .error (.outOfBounds 4 4) := by
  refine ⟨[(new, .configure (inPairs 4)), (new.configure (inPairs 4), .fftData (silence 4)),
    ({ new.configure (inPairs 4) with dataBuffer := [samplesOf (silence 4)] },
      .configure (inPairs 8))], _, .cons rfl (.cons rfl (.cons rfl .nil)), rfl, rfl, ?_, rfl⟩
  intro h
  exact absurd (h.length rfl _ List.mem_cons_self) (by decide)

/-! ## What is delivered -/

theorem findPeaks_eq {resolve : Resolve κ} {c : Settings κ} (hc : pf.settings = some c)
    {fftData : FftData} {data : List ℚ} {s : Search (ExtRat × ℚ)}
    (hs : c.search resolve data = .ok s) :
    pf.findPeaks resolve fftData data =
      .ok ({ pf with awaitingRise := s.awaitingRise }, pf.deliver fftData s) := by
  unfold findPeaks
  split
  · rename_i hnone
    exact nomatch hc.symm.trans hnone
  · rename_i c' hc'
    obtain rfl := Option.some.inj (hc.symm.trans hc')
    rw [hs]
    rfl

/-- Five samples around bin 6. -/
def around6 (a b c d e : ℚ) (bin : Nat) : ℚ := [0, 0, 0, 0, a, b, c, d, e].getD bin 0

end PeakFinder

end Navtech
