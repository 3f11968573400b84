/-
  The program of `ros1/src/talker1.cpp`: the first SDK's `RadarClient` with its two handlers,
  from the frames of the radar to the polar image on the topic.

  An image has a row for each range bin and a column for each azimuth. It is begun anew by a
  configuration, and from the third fall of the azimuth on every sweep is painted into it; the
  pointer of `at<uchar>` is not checked. A fall publishes the image as it is, before the sweep
  that falls is painted. Whether images are published is read from the parameter server at each
  configuration, and once they are, they are for good: the flag is not set back.

  `frame_number` does not reach the end of a `long`. The column of a sweep is a parameter of the
  node, and `doubleBearing` is what the program computes.

  What the node needs not to write outside the image, and what it hands out if it does not, is
  said in terms of the frames alone, whatever the columns (`talker_follows`); and where the
  azimuths are below the encoder size, the columns that are computed lie in the image
  (`bearing_double`), and it shows in each the last sweeps there (`talker_columns`).
-/
import Navtech.Legacy.Handlers
import Navtech.Lib.Machine
import Navtech.Lib.Raster

namespace Navtech

namespace Ros

open CheckedView Machine Utility
open Legacy (Frame)
open Network (Bytes frameBytes)
open IASDK (uint16Member)
open SignificantBits (nearest)
open RadarClient (fftValues)

/-- `std_msgs::Header` of an image. -/
structure ImageHeader where
  seq : UInt32
  sec : UInt32
  nsec : UInt32
deriving DecidableEq, Repr

/-- `sensor_msgs::Image` with encoding `mono8`. -/
structure PolarImage where
  header : ImageHeader
  height : Nat
  width : Nat
  data : List UInt8
deriving DecidableEq, Repr

/-- The global variables that the handlers use. -/
structure Talker where
  lastAzimuth : UInt16
  frameNumber : Nat
  check3 : String
  publishImage : Bool
  rangeRes : ℚ
  rangeInBins : UInt16
  azimuths : UInt16
  encoderSize : UInt16
  radarImagePolar : Raster

/-- The program, with `/talker1/param3` of the parameter server, which others may set. -/
structure TalkerNode where
  client : Legacy.Client
  talker : Talker
  param3 : Option String

namespace Talker

/-- The globals before `main`: there is no image yet. -/
def initial : Talker := ⟨0, 0, "", false, 0, 0, 0, 0, .zeros 0 0⟩

/-- `data->BinSize / 10000.0`, which is kept in a `float`. -/
def rangeResolution (binSize : UInt16) : ℚ := nearest 24 (nearest 53 (binSize.toNat / 10000))

/-- What the handlers do. -/
inductive Effect where
  | send (data : Bytes)
  | setParameters (configurationRangeRes : ℚ) (configurationAzimuths : UInt16)
      (configurationRangeInBins : UInt16)
  | publish (message : PolarImage)
deriving DecidableEq

variable (bearing : UInt16 → UInt16 → UInt16 → Int)

/-- `CvImage(header, "mono8", radar_image_polar).toImageMsg()`. -/
def polarMsg (st : Talker) (data : Legacy.FFTData) : PolarImage where
  header := ⟨UInt32.ofNat st.frameNumber, data.ntpSeconds, data.ntpSplitSeconds⟩
  height := st.radarImagePolar.rows
  width := st.radarImagePolar.cols
  data := st.radarImagePolar.data

/-- `FFTDataHandler`: a fall publishes the image as it is, and only then is the sweep painted. -/
def fftDataHandler (st : Talker) (data : Legacy.FFTData) : Except Fault (Talker × List Effect) := do
  let fall : Bool := data.azimuth < st.lastAzimuth
  let published := if fall && decide (st.frameNumber > 2) && st.publishImage then
      [Effect.publish (st.polarMsg data)] else []
  let st := if fall then { st with frameNumber := st.frameNumber + 1 } else st
  let image ← if st.frameNumber > 2 then
      st.radarImagePolar.paint (bearing data.azimuth st.encoderSize st.azimuths) data.data 0
    else .ok st.radarImagePolar
  return ({ st with radarImagePolar := image, lastAzimuth := data.azimuth }, published)

/-- `getParam` leaves the string as it is if there is no such parameter. -/
def configurationDataHandler (st : Talker) (param3 : Option String)
    (data : Legacy.ConfigurationData) : Talker × List Effect :=
  let rangeRes := rangeResolution data.binSize
  let check3 := param3.getD st.check3
  ({ st with
      rangeRes := rangeRes
      rangeInBins := data.rangeInBins
      azimuths := data.azimuthSamples
      encoderSize := data.encoderSize
      lastAzimuth := 0
      check3 := check3
      publishImage := st.publishImage || check3 == "image_on"
      radarImagePolar := .zeros data.rangeInBins.toNat data.azimuthSamples.toNat },
    [.setParameters rangeRes data.azimuthSamples data.rangeInBins])

end Talker

namespace TalkerNode

open Talker (Effect)

/-- What happens to the program: a frame, a change of the connection, or a new value of the
    parameter. -/
inductive Event where
  | received (f : Frame)
  | connection (connected : Bool)
  | param3 (value : Option String)

variable (bearing : UInt16 → UInt16 → UInt16 → Int)

/-- After `main` has set the callbacks. -/
def start : TalkerNode where
  client := { Legacy.Client.new with fftDataCallback := true, configurationDataCallback := true }
  talker := .initial
  param3 := none

/-- An output of the client: sent, or handed to the callback that is set for it. -/
def handOut (st : TalkerNode) : Legacy.Output → Except Fault (TalkerNode × List Effect)
  | .send data => .ok (st, [.send data])
  | .configurationData data =>
    let handled := st.talker.configurationDataHandler st.param3 data
    let started := st.client.startFFTData
    .ok ({ st with client.toRadarClient := started.1, talker := handled.1 },
      handled.2 ++ started.2.map .send)
  | .fftData data => do
    let handled ← st.talker.fftDataHandler bearing data
    return ({ st with talker := handled.1 }, handled.2)
  | .navigationData _ => .ok (st, [])

/-- A frame is handled with all that the handlers do; the others only change what is there. -/
def step (st : TalkerNode) : Event → Except Fault (TalkerNode × List Effect)
  | .received f => do
    let r ← st.client.handleData (Legacy.messageOf f)
    Machine.run (handOut bearing) { st with client := r.1 } r.2
  | .connection connected =>
    .ok ({ st with client := { st.client with connected := connected } }, [])
  | .param3 value => .ok ({ st with param3 := value }, [])

/-! ## What the frames say -/

/-- The azimuth of a sweep, by its frame. -/
def sweepAzimuth (f : Frame) : UInt16 := (fftValues 0 f.payload).azimuth

/-- The samples behind the header of a sweep. -/
def samples (f : Frame) : Bytes := f.payload.drop 14

/-- What the frames and the parameter have said so far. -/
structure History where
  connected : Bool
  /-- There has been a configuration. -/
  started : Bool
  param3 : Option String
  /-- The last value of the parameter at a configuration. -/
  check3 : String
  /-- It has once been `image_on` at a configuration. -/
  on : Bool
  rangeInBins : UInt16
  azimuths : UInt16
  encoderSize : UInt16
  /-- The azimuth of the last sweep since the last configuration, or 0. -/
  last : UInt16
  /-- How often the azimuth has fallen. -/
  falls : Nat
  /-- The sweeps that have been painted since the last configuration, the last one first. -/
  painted : List Frame

namespace History

/-- Before the first event. -/
def start : History := ⟨false, false, none, "", false, 0, 0, 0, 0, 0, []⟩

variable (h : History)

/-- How often the azimuth has fallen, with this sweep. -/
def fallsWith (f : Frame) : Nat := if sweepAzimuth f < h.last then h.falls + 1 else h.falls

/-- From the third fall on, sweeps are painted. -/
def Paints (f : Frame) : Prop := 2 < h.fallsWith f

instance (f : Frame) : Decidable (h.Paints f) := inferInstanceAs (Decidable (_ < _))

/-- A configuration begins a new image and forgets the azimuth; a sweep is added to what is
    painted if there have been three falls. -/
def after : Event → History
  | .connection connected => { h with connected := connected }
  | .param3 value => { h with param3 := value }
  | .received f =>
    if f.type = .configuration then
      { h with
        started := true
        check3 := h.param3.getD h.check3
        on := h.on || h.param3.getD h.check3 == "image_on"
        rangeInBins := ntohs (uint16Member f.payload 4)
        azimuths := ntohs (uint16Member f.payload 0)
        encoderSize := ntohs (uint16Member f.payload 6)
        last := 0
        painted := [] }
    else if f.type = .fftData then
      { h with
        last := sweepAzimuth f
        falls := h.fallsWith f
        painted := if h.Paints f then f :: h.painted else h.painted }
    else h

/-- A start of the stream, which needs a connection. -/
def request : List Effect := if h.connected then [.send (frameBytes 21 [])] else []

/-- The column of a sweep. -/
def column (f : Frame) : Int := bearing (sweepAzimuth f) h.encoderSize h.azimuths

/-- The column of a sweep and what is painted there. -/
def stroke (f : Frame) : Raster.Stroke := ⟨h.column bearing f, samples f⟩

/-- The image that the sweep before a fall leaves. -/
def image (f : Frame) : PolarImage where
  header := ⟨UInt32.ofNat h.falls, (fftValues 0 f.payload).ntpSeconds,
    (fftValues 0 f.payload).ntpSplitSeconds⟩
  height := h.rangeInBins.toNat
  width := h.azimuths.toNat
  data := Raster.picture h.rangeInBins.toNat h.azimuths.toNat (h.painted.map (h.stroke bearing))

/-- What an event makes the program send and publish. -/
def emits : Event → List Effect
  | .connection _ => []
  | .param3 _ => []
  | .received f =>
    if f.type = .configuration then
      (if h.started then h.request else []) ++
        .setParameters (Talker.rangeResolution (ntohs (uint16Member f.payload 2)))
          (ntohs (uint16Member f.payload 0)) (ntohs (uint16Member f.payload 4)) :: h.request
    else if f.type = .fftData then
      if sweepAzimuth f < h.last ∧ 2 < h.falls ∧ h.on then [.publish (h.image bearing f)] else []
    else []

/-- The payload is long enough, and a sweep that is painted fits into the image. -/
def Fits : Event → Prop
  | .connection _ => True
  | .param3 _ => True
  | .received f =>
    (f.type = .configuration → 20 ≤ f.payload.length) ∧
      (f.type = .fftData → 14 ≤ f.payload.length ∧ (h.Paints f →
        (h.stroke bearing f).Fits h.rangeInBins.toNat h.azimuths.toNat))

end History

/-- The node is as the history says. -/
structure Follows (st : TalkerNode) (h : History) : Prop where
  connected : st.client.connected = h.connected
  started : st.client.sendRadarData = h.started
  clientEncoderSize : st.client.encoderSize = h.encoderSize
  fftSet : st.client.fftDataCallback = true
  configurationSet : st.client.configurationDataCallback = true
  noNavigation : st.client.navigationDataCallback = false
  param3 : st.param3 = h.param3
  check3 : st.talker.check3 = h.check3
  on : st.talker.publishImage = h.on
  azimuths : st.talker.azimuths = h.azimuths
  encoderSize : st.talker.encoderSize = h.encoderSize
  last : st.talker.lastAzimuth = h.last
  falls : st.talker.frameNumber = h.falls
  rows : st.talker.radarImagePolar.rows = h.rangeInBins.toNat
  cols : st.talker.radarImagePolar.cols = h.azimuths.toNat
  pixels : st.talker.radarImagePolar.data = Raster.picture h.rangeInBins.toNat h.azimuths.toNat
    (h.painted.map (h.stroke bearing))

theorem follows_start : start.Follows bearing .start :=
  ⟨rfl, rfl, rfl, rfl, rfl, rfl, rfl, rfl, rfl, rfl, rfl, rfl, rfl, rfl, rfl, rfl⟩

variable {bearing} {st : TalkerNode} {h : History} {f : Frame} {r : TalkerNode × List Effect}

/-! ## One event -/

/-- A frame of neither type. -/
theorem step_other (hc : st.Follows bearing h) (hconfiguration : ¬ f.type = .configuration)
    (hfft : ¬ f.type = .fftData) : st.step bearing (.received f) = .ok (st, []) := by
  have hquiet : st.client.handleNavigationDataMessage (Legacy.messageOf f) = .ok (st.client, []) :=
    if_pos (by rw [hc.noNavigation]; exact Bool.false_ne_true)
  have hdata : st.client.handleData (Legacy.messageOf f) = .ok (st.client, []) := by
    refine (if_neg hconfiguration).trans ((if_neg hfft).trans ?_)
    split
    · exact hquiet
    · rfl
  exact bind_eq_ok.mpr ⟨_, hdata, rfl⟩

/-- The node after a configuration. -/
def configured (st : TalkerNode) (payload : Bytes) : TalkerNode where
  client := { st.client.keeping payload with sendRadarData := true }
  talker := (st.talker.configurationDataHandler st.param3
    (st.client.keeping payload).configurationData).1
  param3 := st.param3

/-- The handler of the client's configuration callback. -/
theorem handOut_configuration (hc : st.Follows bearing h) (payload : Bytes) :
    handOut bearing { st with client := st.client.keeping payload }
        (.configurationData (st.client.keeping payload).configurationData) =
      .ok (st.configured payload,
        .setParameters (Talker.rangeResolution (ntohs (uint16Member payload 2)))
          (ntohs (uint16Member payload 0)) (ntohs (uint16Member payload 4)) :: h.request) := by
  have hrequest : ((st.client.keeping payload).sendSimpleNetworkMessage .startFFTData).map
      Effect.send = h.request := by
    unfold History.request
    rw [Legacy.RadarClient.sendSimpleNetworkMessage_eq, ← hc.connected]
    exact apply_ite (List.map Effect.send) _ _ _
  rw [← hrequest]
  rfl

theorem step_configuration (hc : st.Follows bearing h) (htype : f.type = .configuration)
    (hlen : 20 ≤ f.payload.length) : st.step bearing (.received f) =
      .ok (st.configured f.payload, h.emits bearing (.received f)) := by
  have hemits : h.emits bearing (.received f) = _ := if_pos htype
  have hfirst : st.client.handleData (Legacy.messageOf f) =
      st.client.handleConfigurationMessage (Legacy.messageOf f) := if_pos htype
  have hdata := hfirst.trans (st.client.received_configuration (f := f) hlen)
  refine bind_eq_ok.mpr ⟨_, hdata, ?_⟩
  rw [hemits]
  unfold Legacy.Client.answers
  -- the client remembers a start and sends it again before the callback
  have hresumed : Machine.run (handOut bearing) { st with client := st.client.keeping f.payload }
      (if st.client.sendRadarData && st.client.connected then [.send (frameBytes 21 [])] else []) =
        .ok ({ st with client := st.client.keeping f.payload },
          if h.started then h.request else []) := by
    unfold History.request
    rw [← hc.started, ← hc.connected]
    cases st.client.sendRadarData with
    | false => rfl
    | true =>
      cases st.client.connected with
      | false => rfl
      | true => rfl
  refine Machine.run_append hresumed ?_
  rw [if_pos hc.configurationSet, Machine.run_one]
  exact handOut_configuration hc f.payload

theorem follows_configured (hc : st.Follows bearing h) (htype : f.type = .configuration) :
    (st.configured f.payload).Follows bearing (h.after (.received f)) := by
  have hafter : h.after (.received f) = _ := if_pos htype
  have hcheck : st.param3.getD st.talker.check3 = h.param3.getD h.check3 := by
    rw [hc.param3, hc.check3]
  rw [hafter]
  refine ⟨hc.connected, rfl, rfl, hc.fftSet, hc.configurationSet, hc.noNavigation, hc.param3,
    hcheck, ?_, rfl, rfl, rfl, hc.falls, rfl, rfl, (Raster.picture_nil _ _).symm⟩
  show (st.talker.publishImage || st.param3.getD st.talker.check3 == "image_on") = _
  rw [hc.on, hcheck]

/-- The handler of FFT data, with one place where it may fail. -/
theorem fftDataHandler_eq (st : Talker) (data : Legacy.FFTData) {next : Nat}
    (hnext : next = if data.azimuth < st.lastAzimuth then st.frameNumber + 1 else st.frameNumber) :
    st.fftDataHandler bearing data =
      (if 2 < next then
          st.radarImagePolar.paint (bearing data.azimuth st.encoderSize st.azimuths) data.data 0
        else .ok st.radarImagePolar) >>= fun image =>
      .ok ({ st with
          frameNumber := next, radarImagePolar := image, lastAzimuth := data.azimuth },
        if data.azimuth < st.lastAzimuth ∧ 2 < st.frameNumber ∧ st.publishImage then
          [.publish (st.polarMsg data)] else []) := by
  unfold Talker.fftDataHandler
  by_cases hfall : data.azimuth < st.lastAzimuth
  · rw [if_pos hfall] at hnext
    simp only [hfall, decide_true, Bool.true_and, if_true, true_and, Bool.and_eq_true,
      decide_eq_true_eq, gt_iff_lt, ← hnext]
    by_cases hpaints : 2 < next
    · rw [if_pos hpaints, if_pos hpaints]
      rfl
    · rw [if_neg hpaints, if_neg hpaints]
      rfl
  · rw [if_neg hfall] at hnext
    simp only [hfall, decide_false, Bool.false_and, Bool.false_eq_true, if_false, false_and,
      gt_iff_lt, ← hnext]
    by_cases hpaints : 2 < next
    · rw [if_pos hpaints, if_pos hpaints]
      rfl
    · rw [if_neg hpaints, if_neg hpaints]
      rfl

/-- A frame of FFT data. -/
theorem step_fft (hc : st.Follows bearing h) (htype : f.type = .fftData)
    (hlen : 14 ≤ f.payload.length) : st.step bearing (.received f) =
      (if h.Paints f then st.talker.radarImagePolar.paint (h.column bearing f) (samples f) 0
        else .ok st.talker.radarImagePolar) >>= fun image =>
      .ok ({ st with
          talker := { st.talker with
            frameNumber := h.fallsWith f
            radarImagePolar := image
            lastAzimuth := sweepAzimuth f } },
        h.emits bearing (.received f)) := by
  have hnot : ¬ f.type = .configuration := by
    rw [htype]
    decide
  have hemits : h.emits bearing (.received f) = _ := (if_neg hnot).trans (if_pos htype)
  have hfirst : st.client.handleData (Legacy.messageOf f) =
      st.client.handleFFTDataMessage (Legacy.messageOf f) := (if_neg hnot).trans (if_pos htype)
  have hdata := hfirst.trans (st.client.received_fft (f := f) hc.fftSet hlen)
  have hstep : st.step bearing (.received f) = handOut bearing st
      (.fftData (fftValues st.client.encoderSize f.payload)) := by
    show st.client.handleData (Legacy.messageOf f) >>= _ = _
    rw [hdata]
    exact Machine.run_one _ _ _
  have hmessage : st.talker.polarMsg (fftValues st.client.encoderSize f.payload) =
      h.image bearing f := by
    unfold Talker.polarMsg History.image
    rw [hc.falls, hc.rows, hc.cols, hc.pixels]
    rfl
  have hnext : h.fallsWith f = if sweepAzimuth f < st.talker.lastAzimuth then
      st.talker.frameNumber + 1 else st.talker.frameNumber := by
    rw [hc.last, hc.falls]
    rfl
  have hhandler : st.talker.fftDataHandler bearing (fftValues st.client.encoderSize f.payload) =
      _ := fftDataHandler_eq st.talker (fftValues st.client.encoderSize f.payload) hnext
  rw [hstep, hemits]
  unfold handOut
  dsimp only
  rw [hhandler, hmessage, hc.last, hc.falls, hc.on, hc.azimuths, hc.encoderSize, bind_assoc]
  rfl

theorem step_short (hc : st.Follows bearing h)
    (hshort : f.type = .configuration ∧ ¬ 20 ≤ f.payload.length ∨
      f.type = .fftData ∧ ¬ 14 ≤ f.payload.length) :
    ¬ Succeeds (st.step bearing (.received f)) := by
  rintro ⟨r, hr⟩
  obtain ⟨r₁, hdata, -⟩ := bind_eq_ok.mp hr
  rcases hshort with ⟨htype, hlen⟩ | ⟨htype, hlen⟩
  · have hfirst : st.client.handleData (Legacy.messageOf f) =
        st.client.handleConfigurationMessage (Legacy.messageOf f) := if_pos htype
    exact st.client.received_configuration_short (f := f) hlen ⟨r₁, hfirst.symm.trans hdata⟩
  · have hnot : ¬ f.type = .configuration := by
      rw [htype]
      decide
    have hfirst : st.client.handleData (Legacy.messageOf f) =
        st.client.handleFFTDataMessage (Legacy.messageOf f) := (if_neg hnot).trans (if_pos htype)
    exact st.client.received_fft_short (f := f) hc.fftSet hlen ⟨r₁, hfirst.symm.trans hdata⟩

/-- The image is painted exactly if the stroke fits. -/
theorem succeeds_paint_iff (hc : st.Follows bearing h) :
    Succeeds (if h.Paints f then
        st.talker.radarImagePolar.paint (h.column bearing f) (samples f) 0
      else .ok st.talker.radarImagePolar) ↔
      (h.Paints f → (h.stroke bearing f).Fits h.rangeInBins.toNat h.azimuths.toNat) := by
  by_cases hpaints : h.Paints f
  · have hpaint : Succeeds (st.talker.radarImagePolar.paint (h.column bearing f) (samples f) 0) ↔
        _ := Raster.succeeds_paint
    rw [if_pos hpaints, hpaint, hc.rows, hc.cols]
    simp only [Nat.zero_add]
    exact ⟨fun hall _ => hall, fun hfits => hfits hpaints⟩
  · rw [if_neg hpaints]
    exact iff_of_true ⟨_, rfl⟩ fun hp => absurd hp hpaints

/-- Whether an event succeeds. -/
theorem succeeds_step {e : Event} (hc : st.Follows bearing h) :
    Succeeds (st.step bearing e) ↔ h.Fits bearing e := by
  cases e with
  | connection connected => exact iff_of_true ⟨_, rfl⟩ trivial
  | param3 value => exact iff_of_true ⟨_, rfl⟩ trivial
  | received f =>
    show _ ↔ (f.type = .configuration → _) ∧ (f.type = .fftData → _)
    by_cases hconfiguration : f.type = .configuration
    · have hnot : ¬ f.type = .fftData := by
        rw [hconfiguration]
        decide
      by_cases hlen : 20 ≤ f.payload.length
      · exact iff_of_true ⟨_, step_configuration hc hconfiguration hlen⟩
          ⟨fun _ => hlen, fun hfft => absurd hfft hnot⟩
      · exact iff_of_false (step_short hc (.inl ⟨hconfiguration, hlen⟩))
          fun hfits => hlen (hfits.1 hconfiguration)
    by_cases hfft : f.type = .fftData
    · by_cases hlen : 14 ≤ f.payload.length
      · rw [step_fft hc hfft hlen, succeeds_bind_of fun image _ =>
          iff_of_true (succeeds_ok _) trivial, and_true, succeeds_paint_iff hc]
        exact ⟨fun hfits => ⟨fun htype => absurd htype hconfiguration, fun _ => ⟨hlen, hfits⟩⟩,
          fun hfits => (hfits.2 hfft).2⟩
      · exact iff_of_false (step_short hc (.inr ⟨hfft, hlen⟩))
          fun hfits => hlen (hfits.2 hfft).1
    · exact iff_of_true ⟨_, step_other hc hconfiguration hfft⟩
        ⟨fun htype => absurd htype hconfiguration, fun htype => absurd htype hfft⟩

theorem follows_fft (hc : st.Follows bearing h) (htype : f.type = .fftData)
    (hlen : 14 ≤ f.payload.length) (hstep : st.step bearing (.received f) = .ok r) :
    r.1.Follows bearing (h.after (.received f)) ∧ r.2 = h.emits bearing (.received f) := by
  rw [step_fft hc htype hlen] at hstep
  obtain ⟨image, himage, hr⟩ := bind_eq_ok.mp hstep
  obtain rfl := Except.ok.inj hr
  have hnot : ¬ f.type = .configuration := by
    rw [htype]
    decide
  have hafter : h.after (.received f) = _ := (if_neg hnot).trans (if_pos htype)
  refine ⟨?_, rfl⟩
  rw [hafter]
  by_cases hpaints : h.Paints f
  · rw [if_pos hpaints] at himage
    have hpixels : st.talker.radarImagePolar.data = Raster.picture
        st.talker.radarImagePolar.rows st.talker.radarImagePolar.cols
        (h.painted.map (h.stroke bearing)) := by
      rw [hc.rows, hc.cols, hc.pixels]
    obtain ⟨hrows, hcols, hdata⟩ := Raster.paint_picture (s := h.stroke bearing f) hpixels himage
    rw [hc.rows, hc.cols] at hdata
    rw [if_pos hpaints]
    exact { hc with
      last := rfl
      falls := rfl
      rows := hrows.trans hc.rows
      cols := hcols.trans hc.cols
      pixels := hdata }
  · rw [if_neg hpaints] at himage ⊢
    obtain rfl := Except.ok.inj himage
    exact { hc with last := rfl, falls := rfl }

theorem step_follows {e : Event} (hc : st.Follows bearing h)
    (hstep : st.step bearing e = .ok r) :
    r.1.Follows bearing (h.after e) ∧ r.2 = h.emits bearing e := by
  cases e with
  | connection connected =>
    obtain rfl := Except.ok.inj hstep
    exact ⟨{ hc with connected := rfl }, rfl⟩
  | param3 value =>
    obtain rfl := Except.ok.inj hstep
    exact ⟨{ hc with param3 := rfl }, rfl⟩
  | received f =>
    obtain ⟨hconfig, hsweep⟩ := (succeeds_step hc).mp ⟨r, hstep⟩
    by_cases hconfiguration : f.type = .configuration
    · rw [step_configuration hc hconfiguration (hconfig hconfiguration)] at hstep
      obtain rfl := Except.ok.inj hstep
      exact ⟨follows_configured hc hconfiguration, rfl⟩
    by_cases hfft : f.type = .fftData
    · exact follows_fft hc hfft (hsweep hfft).1 hstep
    · have hafter : h.after (.received f) = h := (if_neg hconfiguration).trans (if_neg hfft)
      have hemits : h.emits bearing (.received f) = [] :=
        (if_neg hconfiguration).trans (if_neg hfft)
      rw [step_other hc hconfiguration hfft] at hstep
      obtain rfl := Except.ok.inj hstep
      rw [hafter, hemits]
      exact ⟨hc, rfl⟩

/-! ## Runs -/

theorem run_fits (bearing : UInt16 → UInt16 → UInt16 → Int) (events : List Event) :
    Succeeds (Machine.run (step bearing) start events) ↔
      Throughout History.after (History.Fits bearing) .start events :=
  succeeds_run (follows_start bearing) (fun hc hstep => (step_follows hc hstep).1) succeeds_step

theorem run_as_history {events : List Event}
    (hrun : Machine.run (step bearing) start events = .ok r) :
    r.1.Follows bearing (events.foldl History.after .start) ∧
      r.2 = trace History.after (History.emits bearing) .start events := by
  have hfollows := run_trace (f := some) hrun (follows_start bearing) fun hc hstep => by
    rw [List.filterMap_some]
    exact step_follows hc hstep
  rwa [List.filterMap_some] at hfollows

/-- **The ROS 1 node.** A run writes outside the image or reads past a payload exactly if the
    frames say so. If it does not, then what the node sends, sets and publishes is what the
    frames and the parameter say: a start for each configuration that arrives while connected,
    and from the second one on another; the values of each configuration; and at each fall
    after the third, once images are on, the picture of the sweeps since the last
    configuration, without the sweep that fell, under the number of falls before it. -/
theorem talker_follows (bearing : UInt16 → UInt16 → UInt16 → Int) (events : List Event) :
    (Succeeds (Machine.run (step bearing) start events) ↔
        Throughout History.after (History.Fits bearing) .start events) ∧
      ∀ r, Machine.run (step bearing) start events = .ok r →
        r.2 = trace History.after (History.emits bearing) .start events :=
  ⟨run_fits bearing events, fun _ hrun => (run_as_history hrun).2⟩

/-! ## Columns -/

namespace History

/-- A sweep has an azimuth below the encoder size, and there are columns. -/
def Below (h : History) : Event → Prop
  | .received f => f.type = .fftData → sweepAzimuth f < h.encoderSize ∧ 0 < h.azimuths
  | _ => True

/-- The payload is long enough, and a sweep that is painted has no more samples than rows. -/
def Short (h : History) : Event → Prop
  | .received f =>
    (f.type = .configuration → 20 ≤ f.payload.length) ∧
      (f.type = .fftData → 14 ≤ f.payload.length ∧
        (h.Paints f → (samples f).length ≤ h.rangeInBins.toNat))
  | _ => True

instance (h : History) : DecidablePred h.Below
  | .received _ => inferInstanceAs (Decidable (_ → _ ∧ _))
  | .connection _ => .isTrue trivial
  | .param3 _ => .isTrue trivial

instance (h : History) : DecidablePred h.Short
  | .received _ => inferInstanceAs (Decidable ((_ → _) ∧ (_ → _ ∧ (_ → _))))
  | .connection _ => .isTrue trivial
  | .param3 _ => .isTrue trivial

/-- The sample in a row of a column: that of the last sweep there that reaches the row. -/
def pixel (bearing : UInt16 → UInt16 → UInt16 → Int) (h : History) (row c : Nat) : UInt8 :=
  (h.painted.findSome? fun f =>
    if h.column bearing f = c then (samples f)[row]? else none).getD 0

/-- The column of a sweep is one of the image. -/
def InImage (bearing : UInt16 → UInt16 → UInt16 → Int) (h : History) (f : Frame) : Prop :=
  0 ≤ h.column bearing f ∧ h.column bearing f < h.azimuths.toNat

end History

/-- The bearing of an azimuth below the encoder size lies below the number of azimuths. -/
def Bearing (bearing : UInt16 → UInt16 → UInt16 → Int) : Prop :=
  ∀ azimuth encoderSize azimuths, azimuth < encoderSize → 0 < azimuths →
    0 ≤ bearing azimuth encoderSize azimuths ∧
      bearing azimuth encoderSize azimuths < azimuths.toNat

/-- With the sweep in a column of the image, it fits if it is not too long. -/
theorem fits_iff_short (hbearing : Bearing bearing) {e : Event} (hbelow : h.Below e) :
    h.Fits bearing e ↔ h.Short e := by
  cases e with
  | connection connected => exact Iff.rfl
  | param3 value => exact Iff.rfl
  | received f =>
    refine and_congr_right fun _ => forall_congr' fun hfft => and_congr_right fun _ =>
      forall_congr' fun _ => ?_
    obtain ⟨hazimuth, hcolumns⟩ := hbelow hfft
    exact Raster.fits_column (hbearing _ _ _ hazimuth hcolumns)

/-- The painted sweeps stay in columns of the image. -/
theorem inImage_after (hbearing : Bearing bearing) {e : Event}
    (hall : ∀ f ∈ h.painted, h.InImage bearing f) (hbelow : h.Below e) :
    ∀ f ∈ (h.after e).painted, (h.after e).InImage bearing f := by
  cases e with
  | connection connected => exact hall
  | param3 value => exact hall
  | received f =>
    by_cases hconfiguration : f.type = .configuration
    · have hafter : h.after (.received f) = _ := if_pos hconfiguration
      rw [hafter]
      exact fun g hg => absurd hg List.not_mem_nil
    by_cases hfft : f.type = .fftData
    · have hafter : h.after (.received f) = _ := (if_neg hconfiguration).trans (if_pos hfft)
      obtain ⟨hazimuth, hcolumns⟩ := hbelow hfft
      rw [hafter]
      intro g hg
      by_cases hpaints : h.Paints f
      · rw [if_pos hpaints] at hg
        rcases List.mem_cons.mp hg with rfl | hg
        · exact hbearing _ _ _ hazimuth hcolumns
        · exact hall g hg
      · rw [if_neg hpaints] at hg
        exact hall g hg
    · have hafter : h.after (.received f) = h := (if_neg hconfiguration).trans (if_neg hfft)
      rw [hafter]
      exact hall

/-- An image is published only for a fall. -/
theorem image_of_publish {image : PolarImage}
    (hpublish : Effect.publish image ∈ h.emits bearing (.received f)) :
    image = h.image bearing f := by
  have hrequest : Effect.publish image ∉ h.request := by
    unfold History.request
    split
    · simp
    · exact List.not_mem_nil
  by_cases hconfiguration : f.type = .configuration
  · have hemits : h.emits bearing (.received f) = _ := if_pos hconfiguration
    rw [hemits, List.mem_append, List.mem_cons] at hpublish
    rcases hpublish with hfirst | hset | hsecond
    · split at hfirst
      · exact absurd hfirst hrequest
      · cases hfirst
    · cases hset
    · exact absurd hsecond hrequest
  · have hemits : h.emits bearing (.received f) = _ := if_neg hconfiguration
    rw [hemits] at hpublish
    split at hpublish
    · split at hpublish
      · exact Effect.publish.inj (List.mem_singleton.mp hpublish)
      · cases hpublish
    · cases hpublish

/-- The images, wherever the columns of sweeps lie. -/
theorem columns_of_bearing (hbearing : Bearing bearing) {events : List Event}
    (hbelow : Throughout History.after History.Below .start events) :
    (Succeeds (Machine.run (step bearing) start events) ↔
        Throughout History.after History.Short .start events) ∧
      ∀ r, Machine.run (step bearing) start events = .ok r →
        ∀ f r' image, r.1.step bearing (.received f) = .ok r' → .publish image ∈ r'.2 →
          ∀ row < image.height, ∀ c < image.width, image.data[row * image.width + c]? =
            some ((events.foldl History.after .start).pixel bearing row c) := by
  have hshort : Throughout History.after (History.Fits bearing) .start events ↔
      Throughout History.after History.Short .start events :=
    throughout_congr (fits_iff_short hbearing) hbelow
  refine ⟨(run_fits bearing events).trans hshort,
    fun r hrun f r' image hstep hpublish row hrow c hc => ?_⟩
  have hlast := (run_as_history hrun).1
  have hall : ∀ g ∈ (events.foldl History.after .start).painted,
      (events.foldl History.after .start).InImage bearing g :=
    foldl_keeps (I := fun h => ∀ g ∈ h.painted, h.InImage bearing g) (inImage_after hbearing)
      (fun g hg => absurd hg List.not_mem_nil) hbelow
  rw [(step_follows hlast hstep).2] at hpublish
  obtain rfl := image_of_publish hpublish
  refine (Raster.picture_column hrow hc fun s hs => ?_).trans ?_
  · obtain ⟨g, hg, rfl⟩ := List.mem_map.mp hs
    exact hall g hg
  · rw [List.findSome?_map]
    rfl

/-- `((double)data->Azimuth / (double)encoder_size) * (double)azimuths`, as an `int`. Without an
    encoder size there is no number to convert. -/
def doubleBearing (undefined : UInt16 → UInt16 → Int) (azimuth encoderSize azimuths : UInt16) :
    Int :=
  if encoderSize = 0 then undefined azimuth azimuths
  else ⌊nearest 53 (nearest 53 (azimuth.toNat / encoderSize.toNat) * azimuths.toNat)⌋

/-- Two roundings up do not make up for what a quotient is below 1. -/
theorem nearest_product_lt {a e n : Nat} (ha : a < e) (he : e < 2 ^ 16) (hn : 0 < n) :
    nearest 53 (nearest 53 (a / e) * n) < n := by
  have hcast : (a : ℚ) + 1 ≤ e := by exact_mod_cast ha
  have hcast' : (e : ℚ) < 2 ^ 16 := by exact_mod_cast he
  have hpos : (0 : ℚ) < n := by exact_mod_cast hn
  have hepos : (0 : ℚ) < e := by exact_mod_cast Nat.zero_lt_of_lt ha
  have hquotient : (0 : ℚ) ≤ a / e := div_nonneg (Nat.cast_nonneg a) hepos.le
  have hbelow : (a : ℚ) / e ≤ 1 - 1 / 2 ^ 16 := by
    rw [div_le_iff₀ hepos]
    linarith
  have hfirst := SignificantBits.nearest_le 53 hquotient
  have hproduct : 0 ≤ nearest 53 ((a : ℚ) / e) * n :=
    mul_nonneg (SignificantBits.nearest_nonneg hquotient) hpos.le
  calc nearest 53 (nearest 53 ((a : ℚ) / e) * n)
      ≤ nearest 53 ((a : ℚ) / e) * n * (1 + 1 / 2 ^ 53) := SignificantBits.nearest_le 53 hproduct
    _ ≤ (1 - 1 / 2 ^ 16) * (1 + 1 / 2 ^ 53) * n * (1 + 1 / 2 ^ 53) := by
        refine mul_le_mul_of_nonneg_right (mul_le_mul_of_nonneg_right ?_ hpos.le) (by norm_num)
        exact hfirst.trans (mul_le_mul_of_nonneg_right hbelow (by norm_num))
    _ < n := by linarith

theorem bearing_double (undefined : UInt16 → UInt16 → Int) : Bearing (doubleBearing undefined) := by
  intro azimuth encoderSize azimuths hazimuth hcolumns
  have hlt : azimuth.toNat < encoderSize.toNat := hazimuth
  have hpos : 0 < azimuths.toNat := hcolumns
  have hne : encoderSize ≠ 0 := by
    rintro rfl
    exact absurd hlt (Nat.not_lt_zero _)
  unfold doubleBearing
  rw [if_neg hne]
  constructor
  · refine Int.floor_nonneg.mpr (SignificantBits.nearest_nonneg (mul_nonneg ?_ ?_))
    · exact SignificantBits.nearest_nonneg (div_nonneg (Nat.cast_nonneg _) (Nat.cast_nonneg _))
    · exact Nat.cast_nonneg _
  · rw [Int.floor_lt, Int.cast_natCast]
    exact nearest_product_lt hlt encoderSize.toNat_lt hpos

/-- **The images.** If every azimuth is below the encoder size, a run writes outside the image
    exactly if a sweep has more samples than the image has rows. And whatever image is published
    next shows at each place the sample of the last sweep painted in this column since the
    configuration that reaches this row, or zero. -/
theorem talker_columns (undefined : UInt16 → UInt16 → Int) {events : List Event}
    (hbelow : Throughout History.after History.Below .start events) :
    (Succeeds (Machine.run (step (doubleBearing undefined)) start events) ↔
        Throughout History.after History.Short .start events) ∧
      ∀ r, Machine.run (step (doubleBearing undefined)) start events = .ok r →
        ∀ f r' image, r.1.step (doubleBearing undefined) (.received f) = .ok r' →
          .publish image ∈ r'.2 →
            ∀ row < image.height, ∀ c < image.width, image.data[row * image.width + c]? =
              some ((events.foldl History.after .start).pixel (doubleBearing undefined) row c) :=
  columns_of_bearing (bearing_double undefined) hbelow

/-- A sweep with these samples. -/
def sweepFrame (azimuth : UInt8) (samples : Bytes) (h : samples.length ≤ 4) : Frame where
  type := 30
  payload := [0, 0, 0, 0, 0, azimuth, 0, 0, 0, 0, 0, 0, 0, 0] ++ samples
  fits := by
    rw [List.length_append]
    exact (Nat.add_le_add_left h 14).trans (by decide)

/-- Two azimuths of two bins, for an encoder of size 4. -/
def twoByTwoFrame : Frame where
  type := 10
  payload := [0, 2, 0, 0, 0, 2, 0, 4, 0, 0, 0, 0, 0, 0, 0, 0, 0, 0, 0, 0]
  fits := by decide

/-- A sweep behind azimuth 0 and one at 0, with these samples. -/
def turn (samples : Bytes) (h : samples.length ≤ 4) : List Event :=
  [.received (sweepFrame 3 [] (by decide)), .received (sweepFrame 0 samples h)]

/-- Three falls of the azimuth, and two sweeps that are painted. -/
def threeFalls : List Event :=
  [.param3 (some "image_on"), .received twoByTwoFrame] ++ turn [] (by decide) ++
    turn [] (by decide) ++ turn [7, 8] (by decide) ++
    [.received (sweepFrame 3 [9] (by decide))]

/-- The fall that publishes both. -/
def fourthFall : Frame := sweepFrame 0 [] (by decide)

/-- The image that the fourth fall publishes. -/
def twoByTwo : PolarImage := ⟨⟨3, 0, 0⟩, 2, 2, [7, 9, 8, 0]⟩

/-- Nothing that comes up here. -/
def noBearing (_ _ : UInt16) : Int := 0

theorem talker_columns_two :
    ∃ r r', Machine.run (step (doubleBearing noBearing)) start threeFalls = .ok r ∧
      r.1.step (doubleBearing noBearing) (.received fourthFall) = .ok r' ∧
      .publish twoByTwo ∈ r'.2 ∧
      twoByTwo.data[0 * 2 + 1]? = some
        ((threeFalls.foldl History.after .start).pixel (doubleBearing noBearing) 0 1) := by
  have hbelow : Throughout History.after History.Below .start threeFalls := by decide
  have hshort : Throughout History.after History.Short .start threeFalls := by decide
  obtain ⟨hsucceeds, himages⟩ := talker_columns noBearing hbelow
  obtain ⟨r, hr⟩ := hsucceeds.mpr hshort
  have hlast := (run_as_history hr).1
  have hfits : (threeFalls.foldl History.after .start).Fits (doubleBearing noBearing)
      (.received fourthFall) :=
    (fits_iff_short (bearing_double noBearing) (by decide)).mpr (by decide)
  obtain ⟨r', hstep⟩ := (succeeds_step hlast).mpr hfits
  have hpublish : Effect.publish twoByTwo ∈ r'.2 := by
    rw [(step_follows hlast hstep).2]
    decide +kernel
  exact ⟨r, r', hr, hstep, hpublish,
    himages r hr fourthFall r' twoByTwo hstep hpublish 0 (by decide) 1 (by decide)⟩

end TalkerNode

end Ros

end Navtech
