/-
  `Point_cloud_publisher` and `Navigation_mode_point_cloud_publisher`: the handlers of a sweep,
  the points they keep and the clouds they publish.

  A handler adds the points of the sweep that pass the filters and then asks whether the
  azimuth has fallen. If it has, the sweep starts a rotation, but its points are already among
  those that are published and dropped. So a cloud per rotation it is, with the points of that
  rotation and no others, exactly in the runs in which the filters let nothing through of a
  sweep that starts a rotation (`one_cloud_per_rotation`). The filters are those in force when
  the sweep is handled.

  The three vectors of a publisher grow and are cleared together; they are one list of points
  here. What `publish_point_cloud` makes of a point, its Cartesian coordinates as bytes, is left
  out, and so is the configuration that is sent to the radar in the navigation mode.
-/
import Navtech.Lib.Runs
import Navtech.Ros.Parameters

namespace Navtech

namespace Ros

open SignificantBits (nearest)

/-! ## What the publishers share -/

/-- A point, by the azimuth and the bin that its coordinates are computed from. -/
structure Point where
  azimuth : Int
  bin : Int
  intensity : ℚ
deriving DecidableEq, Repr

/-- The message: the time stamp in its header, and its points. -/
structure PointCloud where
  ntpSeconds : UInt32
  ntpSplitSeconds : UInt32
  points : List Point
deriving DecidableEq, Repr

/-- The members both classes have. -/
structure Publisher where
  parameters : WindowParameters
  window : Window
  azimuthSamples : UInt16
  rangeInBins : UInt16
  /-- `azimuth_values`, `bin_values` and `intensity_values`. -/
  points : List Point
  lastAzimuth : Nat
  rotationCount : Nat
deriving DecidableEq, Repr

namespace Publisher

/-- After the constructor. -/
def initial (p : WindowParameters) : Publisher where
  parameters := p
  window := p.window
  azimuthSamples := 0
  rangeInBins := 0
  points := []
  lastAzimuth := 0
  rotationCount := 0

/-- A handler up to the refresh: the points of the sweep are added, and if the azimuth has
    fallen, all points are published and cleared. -/
def accumulate (passing : List Point) (azimuth : UInt16) (ntpSeconds ntpSplitSeconds : UInt32)
    (st : Publisher) : Publisher × Option PointCloud :=
  let points := st.points ++ passing
  if azimuth.toNat < st.lastAzimuth then
    ({ st with
        points := []
        lastAzimuth := azimuth.toNat
        rotationCount := st.rotationCount + 1 },
      some ⟨ntpSeconds, ntpSplitSeconds, points⟩)
  else ({ st with points := points, lastAzimuth := azimuth.toNat }, none)

variable {st : Publisher} {passing : List Point} {azimuth : UInt16}
  {ntpSeconds ntpSplitSeconds : UInt32}

@[simp] theorem lastAzimuth_accumulate :
    (st.accumulate passing azimuth ntpSeconds ntpSplitSeconds).1.lastAzimuth = azimuth.toNat := by
  unfold accumulate
  split <;> rfl

theorem accumulate_fall (passing : List Point) (ntpSeconds ntpSplitSeconds : UInt32)
    (h : azimuth.toNat < st.lastAzimuth) :
    (st.accumulate passing azimuth ntpSeconds ntpSplitSeconds).2 =
        some ⟨ntpSeconds, ntpSplitSeconds, st.points ++ passing⟩ ∧
      (st.accumulate passing azimuth ntpSeconds ntpSplitSeconds).1.points = [] := by
  simp [accumulate, h]

theorem accumulate_rise (passing : List Point) (ntpSeconds ntpSplitSeconds : UInt32)
    (h : ¬ azimuth.toNat < st.lastAzimuth) :
    (st.accumulate passing azimuth ntpSeconds ntpSplitSeconds).2 = none ∧
      (st.accumulate passing azimuth ntpSeconds ntpSplitSeconds).1.points =
        st.points ++ passing := by
  simp [accumulate, h]

end Publisher

/-! ## `Point_cloud_publisher` -/

/-- Beside the members of both nodes, the threshold. -/
structure PointCloudPublisher extends Publisher where
  powerThresholdParameter : Int64
  powerThreshold : UInt16
deriving DecidableEq, Repr

namespace PointCloudPublisher

/-- After the constructor. -/
def initial (p : WindowParameters) (powerThreshold : Int64) : PointCloudPublisher where
  toPublisher := .initial p
  powerThresholdParameter := powerThreshold
  powerThreshold := memberOf powerThreshold

/-- `configuration_data_handler` also ends the window behind the last bin. -/
def configurationDataHandler (st : PointCloudPublisher) (data : ConfigurationData) :
    PointCloudPublisher :=
  { st with
    azimuthSamples := data.azimuthSamples
    rangeInBins := data.rangeInBins
    window := { st.window with endBin := data.rangeInBins } }

/-- The handler's loop over the bins: the points of the sweep that pass the filters. -/
def passing (undefined : ExtRat → Int) (st : PointCloudPublisher) (data : FftData) :
    List Point :=
  let index := azimuthIndex undefined data.angle st.azimuthSamples
  let adjusted := adjustedAzimuthIndex index st.window.azimuthOffset st.azimuthSamples
  let start := st.window.startBin.toNat
  if st.window.holdsAzimuth index then
    (((data.data.drop start).zipIdx start).filter fun (sample, bin) =>
      st.window.holdsBin bin && decide (sample.toNat > st.powerThreshold.toNat)).map
        fun (sample, bin) => ⟨adjusted, bin, sample.toNat⟩
  else []

/-- The parameters are read. An invalid power threshold is set back to the member. -/
def refresh (st : PointCloudPublisher) : PointCloudPublisher :=
  let window := Ros.refresh st.azimuthSamples st.rangeInBins st.parameters st.window
  let power := refreshed (within 255) (ofMember st.powerThreshold)
    st.powerThresholdParameter (temp st.powerThresholdParameter) st.powerThreshold
  { st with
    parameters := window.1
    window := window.2
    powerThresholdParameter := power.2
    powerThreshold := power.1
    rotationCount := 0 }

/-- `rotation_count >= config_publish_count`. -/
def refreshIfDue (st : PointCloudPublisher) : PointCloudPublisher :=
  if st.rotationCount ≥ configPublishCount then st.refresh else st

/-- `fft_data_handler`: the sweep is collected first, and the parameters may be read again after
    it. -/
def fftDataHandler (undefined : ExtRat → Int) (st : PointCloudPublisher) (data : FftData) :
    PointCloudPublisher × Option PointCloud :=
  let accumulated := st.toPublisher.accumulate (st.passing undefined data) data.azimuth
    data.ntpSeconds data.ntpSplitSeconds
  (refreshIfDue { st with toPublisher := accumulated.1 }, accumulated.2)

/-- The sweep is in the window, and has a bin in the window above the power threshold. -/
def Contributes (undefined : ExtRat → Int) (st : PointCloudPublisher) (data : FftData) : Prop :=
  st.window.holdsAzimuth (azimuthIndex undefined data.angle st.azimuthSamples) = true ∧
    ∃ (bin : Nat) (sample : UInt8), data.data[bin]? = some sample ∧
      st.window.holdsBin bin = true ∧ st.powerThreshold.toNat < sample.toNat

variable {undefined : ExtRat → Int} {st : PointCloudPublisher} {data : FftData}

/-- The bins of the loop. -/
theorem mem_drop_zipIdx {samples : Network.Bytes} {start bin : Nat} {sample : UInt8} :
    (sample, bin) ∈ (samples.drop start).zipIdx start ↔
      start ≤ bin ∧ samples[bin]? = some sample := by
  rw [List.mem_zipIdx_iff_le_and_getElem?_sub, List.getElem?_drop]
  refine and_congr_right fun hle => ?_
  rw [Nat.add_sub_cancel' hle]

theorem passing_eq_nil_iff :
    st.passing undefined data = [] ↔ ¬ st.Contributes undefined data := by
  unfold passing Contributes
  by_cases h : st.window.holdsAzimuth (azimuthIndex undefined data.angle st.azimuthSamples) = true
  · simp only [h, if_true, List.map_eq_nil_iff, List.filter_eq_nil_iff, true_and, Prod.forall,
      mem_drop_zipIdx, Bool.and_eq_true, decide_eq_true_eq, gt_iff_lt]
    constructor
    · rintro hnone ⟨bin, sample, hsample, hbin, hpower⟩
      have hstart : st.window.startBin.toNat ≤ bin := Window.startBin_le_of_holdsBin hbin
      exact hnone sample bin ⟨hstart, hsample⟩ ⟨hbin, hpower⟩
    · intro hnone sample bin hmem hpass
      exact hnone ⟨bin, sample, hmem.2, hpass.1, hpass.2⟩
  · simp [h]

@[simp] theorem points_refreshIfDue : st.refreshIfDue.points = st.points := by
  unfold refreshIfDue
  split <;> rfl

@[simp] theorem lastAzimuth_refreshIfDue : st.refreshIfDue.lastAzimuth = st.lastAzimuth := by
  unfold refreshIfDue
  split <;> rfl

/-- The handler collects the points of the runs in which the azimuth does not fall. -/
def collector (undefined : ExtRat → Int) : Runs.Collector PointCloudPublisher FftData Point where
  handle st data :=
    let handled := st.fftDataHandler undefined data
    (handled.1, handled.2.map PointCloud.points)
  key data := data.azimuth.toNat
  values := passing undefined
  collected st := st.points
  last st := st.lastAzimuth
  handle_fall st data hfall := by
    obtain ⟨hcloud, hempty⟩ := Publisher.accumulate_fall (st.passing undefined data)
      data.ntpSeconds data.ntpSplitSeconds hfall
    simp [fftDataHandler, hcloud, hempty]
  handle_rise st data hrise := by
    obtain ⟨hnone, hmore⟩ := Publisher.accumulate_rise (st.passing undefined data)
      data.ntpSeconds data.ntpSplitSeconds hrise
    simp [fftDataHandler, hnone, hmore]
  last_handle st data := by simp [fftDataHandler]

end PointCloudPublisher

/-! ## `Navigation_mode_point_cloud_publisher` -/

/-- `static_cast<int>(target_range / bin_size)`, of two `float`s. -/
def binIndex (undefined : ExtRat → Int) (targetRange : ℚ) : ExtRat → Int
  | .finite binSize => castInt undefined ((ExtRat.div targetRange binSize).nearest 24)
  | .nan => castInt undefined .nan
  | _ => castInt undefined (.finite 0)

/-- Beside the members of both nodes, the size of a bin. -/
structure NavigationModePointCloudPublisher extends Publisher where
  binSize : ExtRat
deriving DecidableEq, Repr

namespace NavigationModePointCloudPublisher

/-- After the constructor. -/
def initial (p : WindowParameters) : NavigationModePointCloudPublisher where
  toPublisher := .initial p
  binSize := .finite 0

/-- `configuration_data_handler`: the size of a bin is kept as a `float`. -/
def configurationDataHandler (st : NavigationModePointCloudPublisher)
    (data : ConfigurationData) : NavigationModePointCloudPublisher :=
  { st with
    azimuthSamples := data.azimuthSamples
    binSize := data.binSize.nearest 24
    rangeInBins := data.rangeInBins }

/-- `target_power`: a quotient of `double`s, stored in a `float`. -/
def targetPower (power : UInt16) : ℚ := nearest 24 (nearest 53 (power.toNat / 10))

/-- The handler's loop over the peaks: the points of the sweep that pass the filters. The radar
    has applied the power threshold. -/
def passing (undefined : ExtRat → Int) (st : NavigationModePointCloudPublisher)
    (data : NavigationData) : List Point :=
  let index := azimuthIndex undefined data.angle st.azimuthSamples
  let adjusted := adjustedAzimuthIndex index st.window.azimuthOffset st.azimuthSamples
  if st.window.holdsAzimuth index then
    (data.peaks.filter fun (targetRange, _) =>
      st.window.holdsBin (binIndex undefined targetRange st.binSize)).map
        fun (targetRange, power) =>
          ⟨adjusted, binIndex undefined targetRange st.binSize, targetPower power⟩
  else []

/-- The parameters are read. -/
def refresh (st : NavigationModePointCloudPublisher) : NavigationModePointCloudPublisher :=
  let window := refreshNavigation st.azimuthSamples st.rangeInBins st.parameters st.window
  { st with
    parameters := window.1
    window := window.2
    rotationCount := 0 }

/-- `check_config_publish`, every four rotations. -/
def checkConfigPublish (st : NavigationModePointCloudPublisher) :
    NavigationModePointCloudPublisher :=
  if st.rotationCount ≥ configPublishCount then st.refresh else st

/-- `navigation_data_handler`, as for a sweep of FFT data. -/
def navigationDataHandler (undefined : ExtRat → Int) (st : NavigationModePointCloudPublisher)
    (data : NavigationData) : NavigationModePointCloudPublisher × Option PointCloud :=
  let accumulated := st.toPublisher.accumulate (st.passing undefined data) data.azimuth
    data.ntpSeconds data.ntpSplitSeconds
  (checkConfigPublish { st with toPublisher := accumulated.1 }, accumulated.2)

/-- The sweep is in the window, and has a peak in the window. -/
def Contributes (undefined : ExtRat → Int) (st : NavigationModePointCloudPublisher)
    (data : NavigationData) : Prop :=
  st.window.holdsAzimuth (azimuthIndex undefined data.angle st.azimuthSamples) = true ∧
    ∃ peak ∈ data.peaks, st.window.holdsBin (binIndex undefined peak.1 st.binSize) = true

variable {undefined : ExtRat → Int} {st : NavigationModePointCloudPublisher}
  {data : NavigationData}

theorem passing_eq_nil_iff :
    st.passing undefined data = [] ↔ ¬ st.Contributes undefined data := by
  unfold passing Contributes
  by_cases h : st.window.holdsAzimuth (azimuthIndex undefined data.angle st.azimuthSamples) = true
  · simp [h]
  · simp [h]

@[simp] theorem points_checkConfigPublish : st.checkConfigPublish.points = st.points := by
  unfold checkConfigPublish
  split <;> rfl

@[simp] theorem lastAzimuth_checkConfigPublish :
    st.checkConfigPublish.lastAzimuth = st.lastAzimuth := by
  unfold checkConfigPublish
  split <;> rfl

/-- The handler collects the points of the runs in which the azimuth does not fall. -/
def collector (undefined : ExtRat → Int) :
    Runs.Collector NavigationModePointCloudPublisher NavigationData Point where
  handle st data :=
    let handled := st.navigationDataHandler undefined data
    (handled.1, handled.2.map PointCloud.points)
  key data := data.azimuth.toNat
  values := passing undefined
  collected st := st.points
  last st := st.lastAzimuth
  handle_fall st data hfall := by
    obtain ⟨hcloud, hempty⟩ := Publisher.accumulate_fall (st.passing undefined data)
      data.ntpSeconds data.ntpSplitSeconds hfall
    simp [navigationDataHandler, hcloud, hempty]
  handle_rise st data hrise := by
    obtain ⟨hnone, hmore⟩ := Publisher.accumulate_rise (st.passing undefined data)
      data.ntpSeconds data.ntpSplitSeconds hrise
    simp [navigationDataHandler, hnone, hmore]
  last_handle st data := by simp [navigationDataHandler]

end NavigationModePointCloudPublisher

/-! ## One cloud per rotation -/

/-- The points of the clouds published in a run are those of the completed rotations: the runs
    in which the azimuth does not fall, the last one aside, with the points of their sweeps that
    pass the filters in force. -/
def OneCloudPerRotation {σ S : Type} (c : Runs.Collector σ S Point) (st : σ) (sweeps : List S) :
    Prop :=
  c.handedOver st sweeps = (Runs.runs (c.items st sweeps)).dropLast.map Runs.content

/-- **One cloud per rotation.** -/
theorem one_cloud_per_rotation (undefined : ExtRat → Int) (p : WindowParameters)
    (config : ConfigurationData) :
    (∀ (powerThreshold : Int64) (sweeps : List FftData),
      let st := (PointCloudPublisher.initial p powerThreshold).configurationDataHandler config
      OneCloudPerRotation (PointCloudPublisher.collector undefined) st sweeps ↔
        (PointCloudPublisher.collector undefined).EveryFall
          (fun st data => ¬ st.Contributes undefined data) st sweeps) ∧
    (∀ (sweeps : List NavigationData),
      let st := (NavigationModePointCloudPublisher.initial p).configurationDataHandler config
      OneCloudPerRotation (NavigationModePointCloudPublisher.collector undefined) st sweeps ↔
        (NavigationModePointCloudPublisher.collector undefined).EveryFall
          (fun st data => ¬ st.Contributes undefined data) st sweeps) := by
  constructor
  · intro powerThreshold sweeps st
    rw [OneCloudPerRotation, Runs.Collector.handedOver_iff _ rfl rfl]
    exact Runs.Collector.everyFall_congr _ (fun _ _ => PointCloudPublisher.passing_eq_nil_iff) _ _
  · intro sweeps st
    rw [OneCloudPerRotation, Runs.Collector.handedOver_iff _ rfl rfl]
    exact Runs.Collector.everyFall_congr _
      (fun _ _ => NavigationModePointCloudPublisher.passing_eq_nil_iff) _ _

/-- A rotation ends with one sweep and the next starts with another; the cloud published has the
    points of both. -/
theorem startingSweep_published :
    (PointCloudPublisher.collector fun _ => 0).handedOver
        ((PointCloudPublisher.initial wideOpen 0).configurationDataHandler fourByTwo)
        [lastSweep, firstSweep] = [[⟨3, 1, 8⟩, ⟨0, 0, 9⟩]] ∧
      ¬ OneCloudPerRotation (PointCloudPublisher.collector fun _ => 0)
        ((PointCloudPublisher.initial wideOpen 0).configurationDataHandler fourByTwo)
        [lastSweep, firstSweep] := by
  unfold OneCloudPerRotation
  decide +kernel

end Ros

end Navtech
