/-
  `Laser_scan_publisher`: one range and one intensity for each azimuth of a rotation.

  The handler of a sweep looks for the first sample above the power threshold in the window of
  bins, and then uses the index at which its loop has stopped without asking why. Where there is
  such a sample, what is stored for the azimuth is that first return (`firstPeakBinIndex_spec`).
  Where there is none, the index is the first one behind the window, which has a sample only if
  the sweep goes on there; and that sample is stored as a return (`storesReturn_iff`). Nor does
  the handler ask whether the azimuth that it has turned is one of the image's
  (`firstReturn_iff`).

  Both vectors have a place for each azimuth, from the configuration on. A read or a write
  outside a vector is a `Fault`. A range is a product of `float`s, rounded to 24 bits; the angles
  and times of the message are exact. Logging is left out, and so are the messages that pass a
  configuration on.
-/
import Navtech.Ros.Parameters

namespace Navtech

namespace Ros

open CheckedView (Succeeds bind_eq_ok)
open Buffer (resize)
open Network (Bytes)

namespace LaserScan

/-- An access out of bounds. -/
inductive Fault where
  /-- The element `index` of a vector of `size` elements is read. -/
  | outOfBounds (index size : Nat)
  /-- It is written. -/
  | writeOutOfBounds (index : Int) (size : Nat)
deriving DecidableEq, Repr

/-- `data[index]`. -/
def readAt (data : Bytes) (index : Nat) : Except Fault UInt8 :=
  match data[index]? with
  | some v => .ok v
  | none => .error (.outOfBounds index data.length)

/-- `values[index] = v`. -/
def writeAt {α : Type} (values : List α) (index : Int) (v : α) : Except Fault (List α) :=
  if 0 ≤ index ∧ index < values.length then .ok (values.set index.toNat v)
  else .error (.writeOutOfBounds index values.length)

/-- The message. Its angles are in turns here, not in radians. -/
structure Scan where
  ntpSeconds : UInt32
  ntpSplitSeconds : UInt32
  angleMin : ExtRat
  angleMax : ExtRat
  angleIncrement : ExtRat
  timeIncrement : ExtRat
  scanTime : ExtRat
  rangeMin : ExtRat
  rangeMax : ExtRat
  ranges : List ExtRat
  intensities : List ℚ
deriving DecidableEq, Repr

end LaserScan

open LaserScan

/-- The members that the handlers read. -/
structure LaserScanPublisher where
  parameters : WindowParameters
  powerThresholdParameter : Int64
  window : Window
  powerThreshold : UInt16
  rangeValues : List ExtRat
  intensityValues : List ℚ
  azimuthSamples : UInt16
  binSize : ExtRat
  rangeInBins : UInt16
  expectedRotationRate : UInt16
  lastAzimuth : Nat
  rotationCount : Nat
deriving DecidableEq, Repr

namespace LaserScanPublisher

/-- After the constructor. -/
def initial (p : WindowParameters) (powerThreshold : Int64) : LaserScanPublisher where
  parameters := p
  powerThresholdParameter := powerThreshold
  window := p.window
  powerThreshold := memberOf powerThreshold
  rangeValues := []
  intensityValues := []
  azimuthSamples := 0
  binSize := .finite 0
  rangeInBins := 0
  expectedRotationRate := 0
  lastAzimuth := 0
  rotationCount := 0

/-- What `publish_laser_scan` publishes. -/
def laserScan (st : LaserScanPublisher) (data : FftData) : Scan where
  ntpSeconds := data.ntpSeconds
  ntpSplitSeconds := data.ntpSplitSeconds
  angleMin := (ExtRat.div 1 st.azimuthSamples.toNat).scale st.window.startAzimuth.toNat
  angleMax := (ExtRat.div 1 st.azimuthSamples.toNat).scale st.window.endAzimuth.toNat
  angleIncrement := .div 1 st.azimuthSamples.toNat
  timeIncrement := .div 1 (st.expectedRotationRate.toNat * st.azimuthSamples.toNat)
  scanTime := .div 1 st.expectedRotationRate.toNat
  rangeMin := st.binSize
  rangeMax := (st.binSize.scale st.rangeInBins.toNat).nearest 24
  ranges := st.rangeValues
  intensities := st.intensityValues

/-- The loop of `fft_data_handler`, at `first_peak_bin_index` and with `n` bins to go until
    `stop`: the index at which it ends. -/
def searchFrom (powerThreshold : UInt16) (samples : Bytes) (stop : Nat) :
    Nat → Nat → Except Fault Nat
  | 0, index => .ok index
  | n + 1, index =>
    if index < stop then do
      let sample ← readAt samples index
      if sample.toNat > powerThreshold.toNat then return index
      else searchFrom powerThreshold samples stop n (index + 1)
    else .ok index

/-- `std::min((unsigned int)data->data.size(), (unsigned int)end_bin)`. -/
def stopBin (st : LaserScanPublisher) (samples : Bytes) : Nat :=
  min samples.length st.window.endBin.toNat

/-- The loop that looks for the first return, from the start of the window on. -/
def firstPeakBinIndex (st : LaserScanPublisher) (samples : Bytes) : Except Fault Nat :=
  searchFrom st.powerThreshold samples (st.stopBin samples)
    (st.stopBin samples - st.window.startBin.toNat) st.window.startBin.toNat

/-- The range and the intensity that are stored for the sweep. -/
def stored (undefined : ExtRat → Int) (st : LaserScanPublisher) (data : FftData) :
    Except Fault (ExtRat × ℚ) := do
  let firstPeakBinIndex ← st.firstPeakBinIndex data.data
  let range := (st.binSize.scale firstPeakBinIndex).nearest 24
  let intensity ← readAt data.data firstPeakBinIndex
  if st.window.holdsAzimuth (azimuthIndex undefined data.angle st.azimuthSamples) then
    return (range, intensity.toNat)
  else return (.finite 0, 0)

/-- They are stored. -/
def store (st : LaserScanPublisher) (adjusted : Int) (values : ExtRat × ℚ) :
    Except Fault LaserScanPublisher := do
  let rangeValues ← writeAt st.rangeValues adjusted values.1
  let intensityValues ← writeAt st.intensityValues adjusted values.2
  return { st with rangeValues := rangeValues, intensityValues := intensityValues }

/-- The parameters are read. An invalid power threshold is set back to the member. -/
def refresh (st : LaserScanPublisher) : LaserScanPublisher :=
  let window := Ros.refresh st.azimuthSamples st.rangeInBins st.parameters st.window
  let power := refreshed (within 255) (ofMember st.powerThreshold)
    st.powerThresholdParameter (temp st.powerThresholdParameter) st.powerThreshold
  { st with
    parameters := window.1
    window := window.2
    powerThresholdParameter := power.2
    powerThreshold := power.1
    rotationCount := 0 }

/-- `rotation_count >= config_publish_count`. -/
def refreshIfDue (st : LaserScanPublisher) : LaserScanPublisher :=
  if st.rotationCount ≥ configPublishCount then st.refresh else st

/-- At a sweep that starts a rotation, the ranges of the last one are published. -/
def endRotation (st : LaserScanPublisher) (data : FftData) : LaserScanPublisher × Option Scan :=
  if data.azimuth.toNat < st.lastAzimuth then
    ({ st with rotationCount := st.rotationCount + 1 }, some (st.laserScan data))
  else (st, none)

/-- `fft_data_handler`: the pair is stored before the end of the rotation is looked for. -/
def fftDataHandler (undefined : ExtRat → Int) (st : LaserScanPublisher) (data : FftData) :
    Except Fault (LaserScanPublisher × Option Scan) := do
  let values ← st.stored undefined data
  let index := azimuthIndex undefined data.angle st.azimuthSamples
  let adjusted := adjustedAzimuthIndex index st.window.azimuthOffset st.azimuthSamples
  let st ← st.store adjusted values
  let rotated := st.endRotation data
  return (refreshIfDue { rotated.1 with lastAzimuth := data.azimuth.toNat }, rotated.2)

/-- `configuration_data_handler` fits both vectors to the number of azimuths. -/
def configurationDataHandler (st : LaserScanPublisher) (data : ConfigurationData) :
    LaserScanPublisher :=
  { st with
    azimuthSamples := data.azimuthSamples
    binSize := data.binSize.nearest 24
    window := { st.window with endBin := data.rangeInBins }
    rangeInBins := data.rangeInBins
    expectedRotationRate := data.expectedRotationRate
    rangeValues := resize st.rangeValues data.azimuthSamples.toNat (.finite 0)
    intensityValues := resize st.intensityValues data.azimuthSamples.toNat 0 }

/-! ## The first return -/

/-- The first bin of the window with a sample above the threshold. -/
structure FirstReturn (st : LaserScanPublisher) (samples : Bytes) (bin : Nat) (sample : UInt8) :
    Prop where
  from_start : st.window.startBin.toNat ≤ bin
  before_end : bin < st.window.endBin.toNat
  found : samples[bin]? = some sample
  above : st.powerThreshold.toNat < sample.toNat
  first : ∀ (b : Nat) (v : UInt8), st.window.startBin.toNat ≤ b → b < bin →
    samples[b]? = some v → ¬ st.powerThreshold.toNat < v.toNat

/-- The range and the intensity for a sweep are those of the first return, or zeros if there is
    none, as for an azimuth outside the window. -/
def IsReturn (undefined : ExtRat → Int) (st : LaserScanPublisher) (data : FftData)
    (range : ExtRat) (intensity : ℚ) : Prop :=
  st.window.holdsAzimuth (azimuthIndex undefined data.angle st.azimuthSamples) = true →
    (∀ bin sample, st.FirstReturn data.data bin sample →
      range = (st.binSize.scale bin).nearest 24 ∧ intensity = sample.toNat) ∧
    ((∀ bin sample, ¬ st.FirstReturn data.data bin sample) →
      range = .finite 0 ∧ intensity = 0)

/-- What the handler should do with a sweep: it reads and writes in bounds only, and sets the
    place of the azimuth in both vectors to what is to be stored, and no other. -/
def Reports (undefined : ExtRat → Int) (st : LaserScanPublisher) (data : FftData) : Prop :=
  ∃ handled, st.fftDataHandler undefined data = .ok handled ∧
    ∃ (place : Nat) (range : ExtRat) (intensity : ℚ),
      adjustedAzimuthIndex (azimuthIndex undefined data.angle st.azimuthSamples)
        st.window.azimuthOffset st.azimuthSamples = place ∧
      place < st.rangeValues.length ∧ place < st.intensityValues.length ∧
      handled.1.rangeValues = st.rangeValues.set place range ∧
      handled.1.intensityValues = st.intensityValues.set place intensity ∧
      IsReturn undefined st data range intensity

/-- The azimuth, turned by the offset and taken back by a round if that is past the end, has a
    place in both vectors. -/
def HasPlace (undefined : ExtRat → Int) (st : LaserScanPublisher) (data : FftData) : Prop :=
  let turned := azimuthIndex undefined data.angle st.azimuthSamples + st.window.azimuthOffset.toNat
  ∃ place : Nat, place < st.rangeValues.length ∧ place < st.intensityValues.length ∧
    (turned = place ∧ place < st.azimuthSamples.toNat ∨ turned = place + st.azimuthSamples.toNat)

variable {undefined : ExtRat → Int} {st : LaserScanPublisher} {data : FftData} {samples : Bytes}

theorem readAt_of_some {index : Nat} {v : UInt8} (h : samples[index]? = some v) :
    readAt samples index = .ok v := by
  rw [readAt, h]

theorem readAt_eq_ok {index : Nat} {v : UInt8} :
    readAt samples index = .ok v ↔ samples[index]? = some v := by
  unfold readAt
  cases samples[index]? <;> simp

/-- The loop ends at the first sample above the threshold, or at its end. -/
theorem searchFrom_spec (powerThreshold : UInt16) {stop : Nat} (hstop : stop ≤ samples.length)
    (n : Nat) : ∀ index : Nat, stop - index = n →
      ∃ result, searchFrom powerThreshold samples stop n index = .ok result ∧
        (∀ (b : Nat) (v : UInt8), index ≤ b → b < result → samples[b]? = some v →
          ¬ powerThreshold.toNat < v.toNat) ∧
        (result = max index stop ∨ index ≤ result ∧ result < stop ∧
          ∃ v, samples[result]? = some v ∧ powerThreshold.toNat < v.toNat) := by
  induction n with
  | zero =>
    intro index hn
    exact ⟨index, rfl, fun b v hb hlt => absurd hlt (Nat.not_lt.mpr hb), .inl (by omega)⟩
  | succ n ih =>
    intro index hn
    have hlt : index < stop := by omega
    have hget : samples[index]? = some samples[index] := List.getElem?_eq_getElem _
    rw [searchFrom, if_pos hlt, readAt_of_some hget]
    change ∃ result, (if samples[index].toNat > powerThreshold.toNat then _ else _) = _ ∧ _
    by_cases habove : samples[index].toNat > powerThreshold.toNat
    · rw [if_pos habove]
      exact ⟨index, rfl, fun b v hb hb' => absurd hb' (Nat.not_lt.mpr hb),
        .inr ⟨le_rfl, hlt, _, hget, habove⟩⟩
    · obtain ⟨result, hresult, hnone, hend⟩ := ih (index + 1) (by omega)
      rw [if_neg habove]
      refine ⟨result, hresult, fun b v hb hb' hv => ?_, ?_⟩
      · rcases Nat.eq_or_lt_of_le hb with rfl | hb
        · rw [hget] at hv
          rwa [← Option.some.inj hv]
        · exact hnone b v hb hb' hv
      · rcases hend with hend | ⟨hfrom, hrest⟩
        · exact .inl (by omega)
        · exact .inr ⟨by omega, hrest⟩

/-- The index at which the loop stops: the first return, or the first bin behind the window. -/
theorem firstPeakBinIndex_spec (st : LaserScanPublisher) (samples : Bytes) :
    (∃ bin sample, st.firstPeakBinIndex samples = .ok bin ∧ st.FirstReturn samples bin sample) ∨
      st.firstPeakBinIndex samples = .ok (max st.window.startBin.toNat (st.stopBin samples)) ∧
        ∀ bin sample, ¬ st.FirstReturn samples bin sample := by
  obtain ⟨result, hresult, hnone, hend⟩ := searchFrom_spec st.powerThreshold
    (Nat.min_le_left samples.length st.window.endBin.toNat) _ st.window.startBin.toNat rfl
  rcases hend with rfl | ⟨hfrom, hbefore, v, hv, habove⟩
  · refine .inr ⟨hresult, fun bin sample h => ?_⟩
    have hlt : bin < samples.length := (List.getElem?_eq_some_iff.mp h.found).1
    have hend := h.before_end
    exact hnone bin sample h.from_start (by omega) h.found h.above
  · exact .inl ⟨result, v, hresult, hfrom, by omega, hv, habove, hnone⟩

theorem FirstReturn.unique {bin bin' : Nat} {sample sample' : UInt8}
    (h : st.FirstReturn samples bin sample) (h' : st.FirstReturn samples bin' sample') :
    bin = bin' ∧ sample = sample' := by
  have heq : bin = bin' := by
    rcases Nat.lt_trichotomy bin bin' with hlt | heq | hlt
    · exact absurd h.above (h'.first bin sample h.from_start hlt h.found)
    · exact heq
    · exact absurd h'.above (h.first bin' sample' h'.from_start hlt h'.found)
  subst heq
  exact ⟨rfl, Option.some.inj (h.found.symm.trans h'.found)⟩

/-- What is stored, once the index is known. -/
theorem stored_of_index (undefined : ExtRat → Int) {index : Nat}
    (h : st.firstPeakBinIndex data.data = .ok index) :
    st.stored undefined data = (readAt data.data index).map fun intensity =>
      if st.window.holdsAzimuth (azimuthIndex undefined data.angle st.azimuthSamples) = true then
        ((st.binSize.scale index).nearest 24, (intensity.toNat : ℚ))
      else (.finite 0, 0) := by
  unfold stored
  rw [h]
  cases hread : readAt data.data index with
  | error e => simp [bind, Except.bind, Except.map, hread]
  | ok v =>
    simp only [bind, Except.bind, Except.map, hread]
    split <;> rfl

/-- Behind the window, the index of the loop and the end of the window come to the same. -/
theorem getElem?_behind (st : LaserScanPublisher) (samples : Bytes) {sample : UInt8} :
    samples[max st.window.startBin.toNat (st.stopBin samples)]? = some sample ↔
      samples[max st.window.startBin.toNat st.window.endBin.toNat]? = some sample := by
  unfold stopBin
  rcases Nat.lt_or_ge st.window.endBin.toNat samples.length with hlt | hge
  · rw [Nat.min_eq_right hlt.le]
  · rw [List.getElem?_eq_none (by omega), List.getElem?_eq_none (by omega)]

/-- What is stored is a return exactly if there is one, or if the sweep goes on behind the window
    with a bin that is as good as none. -/
theorem storesReturn_iff (undefined : ExtRat → Int) (st : LaserScanPublisher) (data : FftData) :
    (∃ range intensity, st.stored undefined data = .ok (range, intensity) ∧
      IsReturn undefined st data range intensity) ↔
      (∃ bin sample, st.FirstReturn data.data bin sample) ∨
        ∃ sample, data.data[max st.window.startBin.toNat st.window.endBin.toNat]? = some sample ∧
          (st.window.holdsAzimuth (azimuthIndex undefined data.angle st.azimuthSamples) = true →
            sample = 0 ∧
            st.binSize.scale (max st.window.startBin.toNat st.window.endBin.toNat : Nat) =
              .finite 0) := by
  rcases st.firstPeakBinIndex_spec data.data with ⟨bin, sample, hindex, hreturn⟩ | ⟨hindex, hnone⟩
  · refine iff_of_true ?_ (.inl ⟨bin, sample, hreturn⟩)
    have hstored := stored_of_index undefined hindex
    rw [readAt_of_some hreturn.found] at hstored
    by_cases hin : st.window.holdsAzimuth
        (azimuthIndex undefined data.angle st.azimuthSamples) = true
    · refine ⟨_, _, hstored.trans (congrArg Except.ok (if_pos hin)), fun _ => ⟨?_, ?_⟩⟩
      · intro bin' sample' hreturn'
        obtain ⟨rfl, rfl⟩ := hreturn.unique hreturn'
        exact ⟨rfl, rfl⟩
      · exact fun hno => absurd hreturn (hno bin sample)
    · exact ⟨_, _, hstored.trans (congrArg Except.ok (if_neg hin)), fun h => absurd h hin⟩
  · have hstored := stored_of_index undefined hindex
    rw [or_iff_right fun h => hnone _ _ h.choose_spec.choose_spec]
    constructor
    · rintro ⟨range, intensity, hok, hreports⟩
      rw [hstored] at hok
      obtain ⟨sample, hread, hvalues⟩ := CheckedView.map_eq_ok.mp hok
      have hsample := (getElem?_behind st data.data).mp (readAt_eq_ok.mp hread)
      refine ⟨sample, hsample, fun hin => ?_⟩
      obtain ⟨hrange, hintensity⟩ := (hreports hin).2 hnone
      rw [if_pos hin, Prod.mk.injEq, hrange, hintensity, ExtRat.nearest_eq_zero (by decide)]
        at hvalues
      have hend : st.stopBin data.data = st.window.endBin.toNat := by
        have hlt := (List.getElem?_eq_some_iff.mp hsample).1
        exact Nat.min_eq_right (by omega)
      rw [hend] at hvalues
      exact ⟨UInt8.toNat.inj (by exact_mod_cast hvalues.2), hvalues.1⟩
    · rintro ⟨sample, hsample, hzero⟩
      rw [readAt_of_some ((getElem?_behind st data.data).mpr hsample)] at hstored
      have hend : st.stopBin data.data = st.window.endBin.toNat := by
        have hlt := (List.getElem?_eq_some_iff.mp hsample).1
        exact Nat.min_eq_right (by omega)
      rw [hend] at hstored
      by_cases hin : st.window.holdsAzimuth
          (azimuthIndex undefined data.angle st.azimuthSamples) = true
      · obtain ⟨rfl, hrange⟩ := hzero hin
        exact ⟨_, _, hstored.trans (congrArg Except.ok (if_pos hin)),
          fun _ => ⟨fun bin v h => absurd h (hnone bin v),
            fun _ => ⟨(ExtRat.nearest_eq_zero (by decide)).mpr hrange, Nat.cast_zero⟩⟩⟩
      · exact ⟨_, _, hstored.trans (congrArg Except.ok (if_neg hin)), fun h => absurd h hin⟩

theorem writeAt_eq_ok {α : Type} {values values' : List α} {index : Int} {v : α} :
    writeAt values index v = .ok values' ↔
      (0 ≤ index ∧ index < values.length) ∧ values.set index.toNat v = values' := by
  unfold writeAt
  split
  · rename_i hbounds
    rw [Except.ok.injEq, and_iff_right hbounds]
  · rename_i hbounds
    exact iff_of_false (fun h => nomatch h) fun h => hbounds h.1

theorem store_eq_ok {st' : LaserScanPublisher} {adjusted : Int} {values : ExtRat × ℚ}
    (h : st.store adjusted values = .ok st') :
    st' = { st with
      rangeValues := st.rangeValues.set adjusted.toNat values.1
      intensityValues := st.intensityValues.set adjusted.toNat values.2 } := by
  obtain ⟨ranges, hranges, hrest⟩ := bind_eq_ok.mp h
  obtain ⟨intensities, hintensities, hst'⟩ := bind_eq_ok.mp hrest
  rw [(writeAt_eq_ok.mp hranges).2, (writeAt_eq_ok.mp hintensities).2]
  exact (Except.ok.inj hst').symm

/-- The end of a rotation and the refresh leave the two vectors alone. -/
theorem values_fftDataHandler {handled : LaserScanPublisher × Option Scan}
    (h : st.fftDataHandler undefined data = .ok handled) :
    ∃ values st', st.stored undefined data = .ok values ∧
      st.store (adjustedAzimuthIndex (azimuthIndex undefined data.angle st.azimuthSamples)
        st.window.azimuthOffset st.azimuthSamples) values = .ok st' ∧
      handled.1.rangeValues = st'.rangeValues ∧ handled.1.intensityValues = st'.intensityValues := by
  obtain ⟨values, hvalues, hrest⟩ := bind_eq_ok.mp h
  obtain ⟨st', hst', hhandled⟩ := bind_eq_ok.mp hrest
  refine ⟨values, st', hvalues, hst', ?_⟩
  rw [← Except.ok.inj hhandled]
  unfold refreshIfDue endRotation
  split <;> split <;> exact ⟨rfl, rfl⟩

theorem adjustedAzimuthIndex_eq_iff {index : Int} {azimuthOffset azimuthSamples : UInt16}
    {place : Nat} : adjustedAzimuthIndex index azimuthOffset azimuthSamples = place ↔
      index + azimuthOffset.toNat = place ∧ place < azimuthSamples.toNat ∨
        index + azimuthOffset.toNat = place + azimuthSamples.toNat := by
  simp only [adjustedAzimuthIndex]
  split <;> omega

/-- What is set at a place is known from the vector. -/
theorem set_inj {α : Type} {values : List α} {place : Nat} {v w : α} (h : place < values.length)
    (heq : values.set place v = values.set place w) : v = w := by
  have hget := congrArg (fun l => l[place]?) heq
  simpa [h] using hget

/-- The handler reports what it should exactly if what it stores is right and has a place. -/
theorem reports_iff_stored : st.Reports undefined data ↔
    (∃ range intensity, st.stored undefined data = .ok (range, intensity) ∧
      IsReturn undefined st data range intensity) ∧ st.HasPlace undefined data := by
  constructor
  · rintro ⟨handled, hhandled, place, range, intensity, hplace, hranges, hintensities, hrange,
      hintensity, hreturn⟩
    obtain ⟨values, st', hstored, hstore, hranges', hintensities'⟩ :=
      values_fftDataHandler hhandled
    obtain rfl := store_eq_ok hstore
    rw [hplace, Int.toNat_natCast] at hranges' hintensities'
    obtain rfl := set_inj hranges (hrange.symm.trans hranges')
    obtain rfl := set_inj hintensities (hintensity.symm.trans hintensities')
    exact ⟨⟨_, _, hstored, hreturn⟩, place, hranges, hintensities,
      adjustedAzimuthIndex_eq_iff.mp hplace⟩
  · rintro ⟨⟨range, intensity, hstored, hreturn⟩, place, hranges, hintensities, hturned⟩
    have hplace := adjustedAzimuthIndex_eq_iff.mpr hturned
    have hstore : st.store place (range, intensity) = .ok { st with
        rangeValues := st.rangeValues.set place range
        intensityValues := st.intensityValues.set place intensity } :=
      bind_eq_ok.mpr ⟨_, writeAt_eq_ok.mpr ⟨⟨Int.natCast_nonneg _, Int.ofNat_lt.mpr hranges⟩, rfl⟩,
        bind_eq_ok.mpr ⟨_, writeAt_eq_ok.mpr
          ⟨⟨Int.natCast_nonneg _, Int.ofNat_lt.mpr hintensities⟩, rfl⟩, rfl⟩⟩
    rw [← hplace] at hstore
    obtain ⟨handled, hhandled⟩ : ∃ handled, st.fftDataHandler undefined data = .ok handled :=
      ⟨_, bind_eq_ok.mpr ⟨_, hstored, bind_eq_ok.mpr ⟨_, hstore, rfl⟩⟩⟩
    obtain ⟨values, st', hstored', hstore', hranges', hintensities'⟩ :=
      values_fftDataHandler hhandled
    obtain rfl := Except.ok.inj (hstored.symm.trans hstored')
    obtain rfl := Except.ok.inj (hstore.symm.trans hstore')
    exact ⟨_, hhandled, place, range, intensity, hplace, hranges, hintensities, hranges',
      hintensities', hreturn⟩

/-- **The first return** is stored at the place of the azimuth exactly if that is a place of both
    vectors, and there is a first return, or the sweep goes on behind the window with a bin that
    is as good as none: it is not in an azimuth of the window, or its sample and its range are
    zero. -/
theorem firstReturn_iff (undefined : ExtRat → Int) (st : LaserScanPublisher) (data : FftData) :
    st.Reports undefined data ↔
      ((∃ bin sample, st.FirstReturn data.data bin sample) ∨
        ∃ sample, data.data[max st.window.startBin.toNat st.window.endBin.toNat]? = some sample ∧
          (st.window.holdsAzimuth (azimuthIndex undefined data.angle st.azimuthSamples) = true →
            sample = 0 ∧
            st.binSize.scale (max st.window.startBin.toNat st.window.endBin.toNat : Nat) =
              .finite 0)) ∧
      st.HasPlace undefined data := by
  rw [reports_iff_stored, storesReturn_iff]

/-- A radar that has been configured, and a sweep without a return: its end is passed. -/
theorem not_forall_reports :
    ¬ ∀ (undefined : ExtRat → Int) (st : LaserScanPublisher) (data : FftData),
      data.data.length ≤ st.rangeInBins.toNat → st.Reports undefined data := by
  intro h
  obtain ⟨handled, hok, -⟩ := h (fun _ => 0)
    ((initial wideOpen 0).configurationDataHandler fourByTwo) { lastSweep with data := [0, 0] }
    (by decide)
  have hfault : fftDataHandler (fun _ => 0)
      ((initial wideOpen 0).configurationDataHandler fourByTwo)
      { lastSweep with data := [0, 0] } = .error (.outOfBounds 2 2) := rfl
  exact nomatch hfault.symm.trans hok

end LaserScanPublisher

end Ros

end Navtech
