/-
  The values that the handlers of `Radar_client` hand out, in terms of the payload of a frame.

  `read` and `range` in the handlers may fail. On a payload as long as the class asks for, they
  do not, and what is handed out is said here without them: `configurationValues`, `fftValues`
  and `navigationValues`.
-/
import Navtech.IASDK.Decoding
import Navtech.Network.ParseSafety

namespace Navtech

namespace RadarClient

open ByteOrder PackedRecord CheckedView Navtech.Utility
open Navtech.Network (Bytes Frame MessageType Message frameBytes)
open Navtech.IASDK (uint16Member uint32Member uint16At_frame uint32At_frame rawUint32At_frame
  read_frame toVector_drop)

variable {x : Externals}

/-! ## Values -/

/-- The values of a configuration, by the offsets of its fields. -/
def configurationValues (binSize : ExtRat) (payload : Bytes) : ConfigurationData where
  azimuthSamples := ntohs (uint16Member payload 0)
  encoderSize := ntohs (uint16Member payload 6)
  binSize := binSize
  rangeInBins := ntohs (uint16Member payload 4)
  expectedRotationRate := ntohs (uint16Member payload 8) / 1000
  rangeGain := fromUint32Network (uint32Member payload 12)
  rangeOffset := fromUint32Network (uint32Member payload 16)

/-- The values of a sweep. Its two times are not converted. -/
def fftValues (encoderSize : UInt16) (payload : Bytes) : FftData where
  angle := angle (ntohs (uint16Member payload 4)) encoderSize
  azimuth := ntohs (uint16Member payload 4)
  sweepCounter := ntohs (uint16Member payload 2)
  ntpSeconds := uint32Member payload 6
  ntpSplitSeconds := uint32Member payload 10
  data := payload.drop 14

/-- The values of a sweep of navigation data, with its records read. -/
def navigationValues (encoderSize : UInt16) (payload : Bytes) (records : List (UInt32 × UInt16)) :
    NavigationData where
  angle := angle (ntohs (uint16Member payload 0)) encoderSize
  azimuth := ntohs (uint16Member payload 0)
  ntpSeconds := ntohl (uint32Member payload 2)
  ntpSplitSeconds := ntohl (uint32Member payload 6)
  peaks := records.map peak

section Frames

variable {t : MessageType} {payload : Bytes}

theorem floatAt_frame {l : Layout} {i : Nat} (h : fieldOffset l i + 4 ≤ payload.length) :
    Network.floatAt l i (frameBytes t payload) =
      .ok (fromUint32Network (uint32Member payload (fieldOffset l i))) := by
  rw [Network.floatAt, read_frame t h]
  rfl

theorem configurationData_frame (binSize : ExtRat) (hlen : 20 ≤ payload.length) :
    configurationData binSize (frameBytes t payload) =
      .ok (configurationValues binSize payload) := by
  have hencoder : Network.Configuration.encoderSize (frameBytes t payload) = _ :=
    uint16At_frame t (show 6 + 2 ≤ _ by omega)
  have hazimuth : Network.Configuration.azimuthSamples (frameBytes t payload) = _ :=
    uint16At_frame t (show 0 + 2 ≤ _ by omega)
  have hrange : Network.Configuration.rangeInBins (frameBytes t payload) = _ :=
    uint16At_frame t (show 4 + 2 ≤ _ by omega)
  have hspeed : Network.Configuration.rotationSpeed (frameBytes t payload) = _ :=
    uint16At_frame t (show 8 + 2 ≤ _ by omega)
  have hgain : Network.Configuration.rangeGain (frameBytes t payload) = _ :=
    floatAt_frame (show 12 + 4 ≤ _ by omega)
  have hoffset : Network.Configuration.rangeOffset (frameBytes t payload) = _ :=
    floatAt_frame (show 16 + 4 ≤ _ by omega)
  unfold configurationData
  rw [hencoder, hazimuth, hrange, hspeed, hgain, hoffset]
  rfl

theorem fftData_frame (encoderSize : UInt16) (hlen : 14 ≤ payload.length)
    (hsize : payload.length < 2 ^ 32) :
    fftData encoderSize (frameBytes t payload) = .ok (fftValues encoderSize payload) := by
  have hazimuth : Network.FftData.azimuth (frameBytes t payload) = _ :=
    uint16At_frame t (show 4 + 2 ≤ _ by omega)
  have hsweep : Network.FftData.sweepCounter (frameBytes t payload) = _ :=
    uint16At_frame t (show 2 + 2 ≤ _ by omega)
  have hseconds : Network.FftData.ntpSeconds (frameBytes t payload) = _ :=
    rawUint32At_frame t (show 6 + 4 ≤ _ by omega)
  have hsplit : Network.FftData.ntpSplitSeconds (frameBytes t payload) = _ :=
    rawUint32At_frame t (show 10 + 4 ≤ _ by omega)
  have hvector := toVector_drop (n := Network.FftData.size) t hlen hsize
  unfold fftData
  rw [hazimuth, hsweep, hseconds, hsplit, hvector]
  rfl

theorem navigationData_frame (encoderSize : UInt16) {records : List (UInt32 × UInt16)}
    {extra : Bytes} (hlen : 10 ≤ payload.length) (hsize : payload.length < 2 ^ 32)
    (htargets : payload.drop 10 = recordsBytes records ++ extra)
    (hextra : extra.length < navDataRecordLength) :
    navigationData encoderSize (frameBytes t payload) =
      .ok (navigationValues encoderSize payload records) := by
  have hazimuth : Network.NavigationData.azimuth (frameBytes t payload) = _ :=
    uint16At_frame t (show 0 + 2 ≤ _ by omega)
  have hseconds : Network.NavigationData.ntpSeconds (frameBytes t payload) = _ :=
    uint32At_frame t (show 2 + 4 ≤ _ by omega)
  have hsplit : Network.NavigationData.ntpSplitSeconds (frameBytes t payload) = _ :=
    uint32At_frame t (show 6 + 4 ≤ _ by omega)
  have hvector := toVector_drop (n := Network.NavigationData.size) t hlen hsize
  have hten : Network.NavigationData.size = 10 := rfl
  rw [hten, htargets] at hvector
  unfold navigationData
  rw [hazimuth, hseconds, hsplit, hten, hvector]
  simp only [bind, Except.bind, peaks_targets records hextra]
  rfl

end Frames

/-! ## What the client does with a frame -/

variable {c : RadarClient} {f : Frame}

/-- The bin size is the one of the protocol buffer behind the members. -/
def binSizeOf (x : Externals) (payload : Bytes) : ExtRat :=
  x.rangeResolutionMetres (x.parseConfiguration (payload.drop Network.Configuration.size))

theorem takeConfiguration_frame (c : RadarClient) (hlen : 20 ≤ f.payload.length) :
    c.takeConfiguration (x := x) f.bytes =
      .ok ({ c with
          encoderSize := (configurationValues (binSizeOf x f.payload) f.payload).encoderSize
          binSize := binSizeOf x f.payload },
        (if c.sendRadarData then c.sendSimpleNetworkMessage .startFftData else []) ++
          [.configurationData (configurationValues (binSizeOf x f.payload) f.payload)
            (x.parseConfiguration (f.payload.drop Network.Configuration.size))]) := by
  have hsmall : f.payload.length < 2 ^ 32 := Nat.lt_trans f.small (by decide)
  have hconfig : Network.MessageBase.toString Network.Configuration.size f.bytes = _ :=
    toVector_drop (n := Network.Configuration.size) f.type hlen hsmall
  unfold takeConfiguration
  rw [hconfig]
  simp only [bind, Except.bind]
  rw [Frame.bytes, configurationData_frame _ hlen]
  rfl

section Received

variable {r : RadarClient × List (Output x)} (hdata : c.handleData f.bytes = .ok r)

include hdata

/-- A configuration frame, where only its value is asked for. -/
theorem received_configuration (htype : f.type = .configuration)
    (hset : c.configurationDataCallback = true) (hraw : c.rawConfigurationDataCallback = false) :
    r = ({ c with
          encoderSize := (configurationValues (binSizeOf x f.payload) f.payload).encoderSize
          binSize := binSizeOf x f.payload },
        (if c.sendRadarData then c.sendSimpleNetworkMessage .startFftData else []) ++
          [.configurationData (configurationValues (binSizeOf x f.payload) f.payload)
            (x.parseConfiguration (f.payload.drop Network.Configuration.size))]) := by
  have hsmall : f.payload.length < 2 ^ 32 := Nat.lt_trans f.small (by decide)
  have hfirst : c.handleData (x := x) f.bytes =
      c.handleConfigurationMessage (.ofBuffer f.bytes) := if_pos htype
  rw [hfirst] at hdata
  have hlen : 20 ≤ f.payload.length :=
    (succeeds_handleConfigurationMessage hsmall).mp ⟨r, hdata⟩ hset
  obtain ⟨r₁, htake, hlast⟩ := bind_eq_ok.mp hdata
  rw [if_pos hset, Message.ofBuffer, takeConfiguration_frame c hlen] at htake
  rw [if_neg (Bool.eq_false_iff.mp hraw)] at hlast
  rw [← Except.ok.inj hlast, ← Except.ok.inj htake]

/-- A frame of FFT data, where only its value is asked for. -/
theorem received_fft (htype : f.type = .fftData) (hset : c.fftDataCallback = true)
    (hraw : c.rawFftDataCallback = false) :
    r = (c, [.fftData (fftValues c.encoderSize f.payload)]) := by
  have hsmall : f.payload.length < 2 ^ 32 := Nat.lt_trans f.small (by decide)
  have hnot : ¬ f.type = .configuration := by
    rw [htype]
    decide
  have hfirst : c.handleData (x := x) f.bytes = c.handleFftDataMessage (.ofBuffer f.bytes) :=
    (if_neg hnot).trans (if_pos htype)
  rw [hfirst] at hdata
  have hlen : 14 ≤ f.payload.length :=
    (succeeds_handleFftDataMessage hsmall).mp ⟨r, hdata⟩ hset
  unfold handleFftDataMessage at hdata
  rw [if_pos hset, Message.ofBuffer, Frame.bytes, fftData_frame _ hlen hsmall] at hdata
  simp only [bind, Except.bind, Except.map, hraw, Bool.false_eq_true, if_false] at hdata
  exact (Except.ok.inj hdata).symm

omit hdata

/-- A frame of another type, where nothing else is asked for. -/
theorem received_other (hconfiguration : ¬ f.type = .configuration) (hfft : ¬ f.type = .fftData)
    (hnavigation : f.type = .navigationData → c.navigationDataCallback = false)
    (hhealth : c.healthDataCallback = false) (hconfig : c.navigationConfigCallback = false) :
    c.handleData (x := x) f.bytes = .ok (c, []) := by
  refine (if_neg hconfiguration).trans ((if_neg hfft).trans ?_)
  split
  · unfold handleNavigationDataMessage
    rw [hnavigation ‹_›]
    rfl
  split
  · rfl
  split
  · unfold handleHealthMessage
    rw [hhealth]
    rfl
  split
  · unfold handleNavigationConfigMessage
    rw [hconfig]
    rfl
  · rfl

end Received

end RadarClient

end Navtech
