/-
  What the handlers of `Radar_client` read of a frame that the peer sent.

  A frame that has been accepted announces its own payload length, and that is all that was
  checked. A handler reads the members of the class that belongs to the type and builds the
  range behind them, so it stays inside the frame exactly when the payload is at least as long
  as the class (`handleData_succeeds_iff`). Where it is shorter the first read past the end or
  the reversed range is a `Fault`. No handler runs without its callback, and the loop over the
  navigation records never leaves their vector.
-/
import Navtech.Network.Frame
import Navtech.Network.RadarClient

namespace Navtech

open CheckedView PackedRecord Navtech.Network.MessageBase
open Navtech.Network (Bytes Message MessageType FloatScaling Frame frameBytes length_frameBytes
  succeeds_uint16At succeeds_uint32At succeeds_rawUint32At succeeds_floatAt succeeds_toVector
  succeeds_toString)

namespace RadarClient

variable {x : Externals}

/-! ## The values handed to callbacks -/

section Values

variable {t : MessageType} {body : Bytes}

theorem succeeds_configurationData (binSize : ExtRat) :
    Succeeds (configurationData binSize (frameBytes t body)) ↔
      Network.Configuration.size ≤ body.length := by
  have hparts : Succeeds (configurationData binSize (frameBytes t body)) ↔ _ :=
    succeeds_bind_of fun _ _ => succeeds_bind_of fun _ _ => succeeds_bind_of fun _ _ =>
      succeeds_bind_of fun _ _ => succeeds_bind_of fun _ _ => succeeds_bind_of fun _ _ =>
        iff_of_true (succeeds_pure _) trivial
  rw [hparts]
  unfold Network.Configuration.encoderSize Network.Configuration.azimuthSamples
    Network.Configuration.rangeInBins Network.Configuration.rotationSpeed
    Network.Configuration.rangeGain Network.Configuration.rangeOffset
  simp only [succeeds_uint16At, succeeds_floatAt, length_frameBytes]
  simp [Network.Configuration.layout, Network.Configuration.size, beginOffset, fieldOffset]
  omega

theorem succeeds_fftData (encoderSize : UInt16) (hlt : body.length < 2 ^ 32) :
    Succeeds (fftData encoderSize (frameBytes t body)) ↔ Network.FftData.size ≤ body.length := by
  have hparts : Succeeds (fftData encoderSize (frameBytes t body)) ↔ _ :=
    succeeds_bind_of fun _ _ => succeeds_bind_of fun _ _ => succeeds_bind_of fun _ _ =>
      succeeds_bind_of fun _ _ => succeeds_bind_of fun _ _ => iff_of_true (succeeds_pure _) trivial
  rw [hparts]
  unfold Network.FftData.azimuth Network.FftData.sweepCounter Network.FftData.ntpSeconds
    Network.FftData.ntpSplitSeconds
  simp only [succeeds_uint16At, succeeds_rawUint32At, succeeds_toVector hlt, length_frameBytes]
  simp [Network.FftData.layout, Network.FftData.size, beginOffset, fieldOffset]
  omega

/-- The records that fit into a vector are read inside it. -/
theorem succeeds_peaks {targets : Bytes} {count i : Nat}
    (hfit : i + count * navDataRecordLength ≤ targets.length) :
    Succeeds (peaks targets count i) := by
  induction count generalizing i with
  | zero => exact succeeds_ok _
  | succ count ih =>
    have hnext : i + navDataRecordLength + count * navDataRecordLength ≤ targets.length := by
      rw [Nat.succ_mul] at hfit
      omega
    have hsix : i + 6 ≤ targets.length := Nat.le_trans (Nat.le_add_right _ _) hnext
    have hparts : Succeeds (peaks targets (count + 1) i) ↔ _ :=
      succeeds_bind_of fun _ _ => succeeds_bind_of fun _ _ => succeeds_bind_of fun _ _ =>
        iff_of_true (succeeds_pure _) trivial
    rw [hparts, succeeds_read, succeeds_read]
    exact ⟨by omega, by omega, ih hnext, trivial⟩

theorem succeeds_navigationData (encoderSize : UInt16) (hlt : body.length < 2 ^ 32) :
    Succeeds (navigationData encoderSize (frameBytes t body)) ↔
      Network.NavigationData.size ≤ body.length := by
  have hpeaks (targets : Bytes) :
      Succeeds (peaks targets (targets.length / navDataRecordLength) 0) := by
    refine succeeds_peaks ?_
    rw [Nat.zero_add]
    exact Nat.div_mul_le_self _ _
  have hparts : Succeeds (navigationData encoderSize (frameBytes t body)) ↔ _ :=
    succeeds_bind_of fun targets _ => succeeds_bind_of fun _ _ => succeeds_bind_of fun _ _ =>
      succeeds_bind_of fun _ _ =>
        (succeeds_bind_of fun _ _ => iff_of_true (succeeds_pure _) trivial).trans
          (iff_of_true ⟨hpeaks targets, trivial⟩ trivial)
  rw [hparts]
  unfold Network.NavigationData.azimuth Network.NavigationData.ntpSeconds
    Network.NavigationData.ntpSplitSeconds
  simp only [succeeds_uint16At, succeeds_uint32At, succeeds_toVector hlt, length_frameBytes]
  simp [Network.NavigationData.layout, Network.NavigationData.size, beginOffset, fieldOffset]
  omega

theorem succeeds_navigationConfig (scaling : FloatScaling) :
    Succeeds (navigationConfig scaling (frameBytes t body)) ↔
      Network.NavigationConfig.size ≤ body.length := by
  have hparts : Succeeds (navigationConfig scaling (frameBytes t body)) ↔ _ :=
    succeeds_bind_of fun _ _ => succeeds_bind_of fun _ _ => succeeds_bind_of fun _ _ =>
      succeeds_bind_of fun _ _ => iff_of_true (succeeds_pure _) trivial
  rw [hparts]
  unfold Network.NavigationConfig.binsToOperateOn Network.NavigationConfig.minBinToOperateOn
    Network.NavigationConfig.navigationThreshold Network.NavigationConfig.maxPeaksPerAzimuth
  simp only [succeeds_uint16At, succeeds_uint32At, succeeds_map, succeeds_floatAt,
    length_frameBytes]
  simp [Network.NavigationConfig.layout, Network.NavigationConfig.size, beginOffset, fieldOffset]
  omega

end Values

/-! ## The handlers -/

/-- The size of the class as which a frame of type `t` is viewed; where nothing views it, 0. -/
def viewedSize (c : RadarClient) (t : MessageType) : Nat :=
  if t = .configuration then
    if c.configurationDataCallback then Network.Configuration.size else 0
  else if t = .fftData then
    if c.fftDataCallback then Network.FftData.size else 0
  else if t = .navigationData then
    if c.navigationDataCallback then Network.NavigationData.size else 0
  else if t = .health then
    if c.healthDataCallback then Network.Health.size else 0
  else if t = .navigationConfiguration then
    if c.navigationConfigCallback then Network.NavigationConfig.size else 0
  else 0

section Handlers

variable {c : RadarClient} {t : MessageType} {body : Bytes}

/-- A handler ends by handing the raw message on, or not: it succeeds either way. -/
theorem succeeds_raw {α : Type} {b : Bool} {r r' : α} :
    Succeeds (if b = true then pure r else pure r' : Except Fault α) ↔ True := by
  refine iff_of_true ?_ trivial
  split
  · exact succeeds_pure r
  · exact succeeds_pure r'

theorem succeeds_handleConfigurationMessage (hlt : body.length < 2 ^ 32) :
    Succeeds (c.handleConfigurationMessage (x := x) (.ofBuffer (frameBytes t body))) ↔
      (c.configurationDataCallback = true → Network.Configuration.size ≤ body.length) := by
  have htake : Succeeds (c.takeConfiguration (x := x) (frameBytes t body)) ↔
      Network.Configuration.size ≤ body.length := by
    have hparts : Succeeds (c.takeConfiguration (x := x) (frameBytes t body)) ↔ _ :=
      succeeds_bind_of fun _ _ =>
        (succeeds_bind_of fun _ _ => iff_of_true (succeeds_pure _) trivial).trans
          (and_congr_left' (succeeds_configurationData _))
    rw [hparts, succeeds_toString hlt, and_true, and_self]
  have hparts : Succeeds (c.handleConfigurationMessage (x := x) (.ofBuffer (frameBytes t body))) ↔
      _ := succeeds_bind_of fun _ _ => succeeds_raw
  rw [hparts, and_true]
  split
  · exact htake.trans ⟨fun h _ => h, fun h => h ‹_›⟩
  · exact iff_of_true (succeeds_ok _) fun h => absurd h ‹_›

theorem succeeds_handleFftDataMessage (hlt : body.length < 2 ^ 32) :
    Succeeds (c.handleFftDataMessage (x := x) (.ofBuffer (frameBytes t body))) ↔
      (c.fftDataCallback = true → Network.FftData.size ≤ body.length) := by
  have hparts : Succeeds (c.handleFftDataMessage (x := x) (.ofBuffer (frameBytes t body))) ↔ _ :=
    succeeds_bind_of fun _ _ => succeeds_raw
  rw [hparts, and_true]
  split
  · exact ((succeeds_map _).trans (succeeds_fftData _ hlt)).trans ⟨fun h _ => h, fun h => h ‹_›⟩
  · exact iff_of_true (succeeds_ok _) fun h => absurd h ‹_›

/-- A handler that returns where its callback is not set. -/
theorem succeeds_guarded {α β : Type} {callback : Bool} {value : Except Fault α} {f : α → β}
    {b : β} {P : Prop} (hvalue : Succeeds value ↔ P) :
    Succeeds (if callback = true then value >>= fun v => pure (f v) else pure b) ↔
      (callback = true → P) := by
  split
  · refine (succeeds_bind_of fun _ _ => iff_of_true (succeeds_pure _) trivial).trans ?_
    rw [and_true, hvalue]
    exact ⟨fun h _ => h, fun h => h ‹_›⟩
  · exact iff_of_true (succeeds_pure _) fun h => absurd h ‹_›

/-- **What parsing a frame takes.** A frame is handled without a read past its end and without
    a reversed range exactly if its payload is as long as the class it is viewed as. -/
theorem handleData_succeeds_iff (c : RadarClient) (f : Frame) :
    Succeeds (c.handleData (x := x) f.bytes) ↔ c.viewedSize f.type ≤ f.payload.length := by
  have hlt : f.payload.length < 2 ^ 32 := Nat.lt_trans f.small (by decide)
  have hsize {callback : Bool} {size : Nat} :
      (callback = true → size ≤ f.payload.length) ↔
        (if callback then size else 0) ≤ f.payload.length := by
    split
    · exact ⟨fun h => h ‹_›, fun h _ => h⟩
    · exact iff_of_true (fun h => absurd h ‹_›) (Nat.zero_le _)
  have htype : (Message.ofBuffer f.bytes).type = f.type := rfl
  unfold handleData viewedSize
  simp only [htype]
  split
  · exact (succeeds_handleConfigurationMessage hlt).trans hsize
  split
  · exact (succeeds_handleFftDataMessage hlt).trans hsize
  split
  · exact (succeeds_guarded (succeeds_navigationData _ hlt)).trans hsize
  split
  · rename_i halarm
    have hother : ¬ f.type = .health ∧ ¬ f.type = .navigationConfiguration := by
      rw [halarm]
      decide
    rw [if_neg hother.1, if_neg hother.2]
    exact iff_of_true (succeeds_pure _) (Nat.zero_le _)
  split
  · exact (succeeds_guarded (succeeds_toString hlt)).trans hsize
  split
  · exact (succeeds_guarded (succeeds_navigationConfig _)).trans hsize
  · exact iff_of_true (succeeds_pure _) (Nat.zero_le _)

/-- Frames without a payload: FFT data is read past the end of the frame, and the range of the
    navigation records ends ten bytes before it begins. -/
theorem handleData_empty_payload :
    (new.setFftDataCallback true).handleData (x := .unparsed) (Frame.mk 30 [] (by decide)).bytes =
        .error (.outOfBounds 26 2) ∧
      (new.setNavigationDataCallback true).handleData (x := .unparsed)
          (Frame.mk 123 [] (by decide)).bytes =
        .error (.reversedRange 32 22) := by
  constructor <;> rfl

end Handlers

end RadarClient

end Navtech
