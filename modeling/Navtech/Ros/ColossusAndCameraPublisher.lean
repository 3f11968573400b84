/-
  `Colossus_and_camera_publisher`, and the program that runs it: the handlers of a
  `Radar_client`, and the images of a camera.

  The handler of a sweep is that of `Colossus_publisher`, but it returns at its beginning while
  the latest image is empty, and publishes that image at each fall of the azimuth. So on the
  radar's topics the program does what a `Colossus_publisher` does that is handed the
  configurations, and of the sweeps those that arrive while there is an image (`radar_topics`).

  The handlers of the radar run on the thread of the client and the one of the images on that of
  `main`, and they share `camera_message` and `fps` without a lock. Here each is one step, so
  this is about runs in which none begins while another is under way. The clock is part of the
  event. What is read of
  a `cv::Mat` is in `Mat`; its `data` is the memory from `ptr(0)` on.
-/
import Navtech.Lib.Machine
import Navtech.Network.Angles
import Navtech.Network.FrameValues
import Navtech.Network.Requests
import Navtech.Ros.ColossusPublisher

namespace Navtech

namespace Ros

open CheckedView (Fault Succeeds bind_eq_ok map_eq_ok)
open Machine
open Network (Bytes Frame MessageType frameBytes)
open RadarClient (configurationValues fftValues binSizeOf)
open Utility (Binary64)

/-- `cv::Mat`. -/
structure Mat where
  rows : Nat
  cols : Nat
  channels : Nat
  step : Nat
  data : Bytes
  /-- The numbers are of the type `int`. -/
  rows_lt : rows < 2 ^ 31
  cols_lt : cols < 2 ^ 31
  pixels_lt : cols * rows < 2 ^ 31

/-- What is published about the camera. The rate is the radar's. -/
structure CameraConfigurationMessage where
  height : UInt32
  width : UInt32
  channels : UInt32
  fps : UInt32
deriving DecidableEq, Repr

/-- `sensor_msgs::msg::Image`. -/
structure ImageMessage where
  stamp : Nat
  frameId : String
  height : UInt32
  width : UInt32
  encoding : String
  isBigendian : UInt8
  step : UInt32
  data : Bytes
deriving DecidableEq, Repr

namespace ImageMessage

/-- A new message. -/
def new : ImageMessage := ⟨0, "", 0, 0, "", 0, 0, []⟩

/-- There is an image in it, and not an empty one. -/
def Shows (message : ImageMessage) : Prop := 0 < message.height ∧ 0 < message.width

instance (message : ImageMessage) : Decidable message.Shows := inferInstanceAs (Decidable (_ ∧ _))

theorem not_shows_iff {message : ImageMessage} :
    ¬ message.Shows ↔ (decide (message.height ≤ 0) || decide (message.width ≤ 0)) = true := by
  unfold Shows
  rw [not_and_or, UInt32.not_lt, UInt32.not_lt, Bool.or_eq_true, decide_eq_true_iff,
    decide_eq_true_iff]

end ImageMessage

/-- The members that the handlers read. -/
structure ColossusAndCameraPublisher where
  azimuthSamples : UInt16
  fps : UInt16
  lastAzimuth : Nat
  rotatedOnce : Bool
  rotationCount : Nat
  frameCount : Nat
  configurationSent : Bool
  configMessage : RadarConfigurationMessage
  cameraMessage : ImageMessage

namespace ColossusAndCameraPublisher

/-- A message on one of the four topics. -/
inductive Published where
  | radar (message : ColossusPublisher.Published)
  | cameraConfiguration (message : CameraConfigurationMessage)
  | cameraImage (message : ImageMessage)
deriving DecidableEq, Repr

/-- As constructed: no image, no configuration and no rate. -/
def initial : ColossusAndCameraPublisher where
  azimuthSamples := 0
  fps := 0
  lastAzimuth := 0
  rotatedOnce := false
  rotationCount := 0
  frameCount := 0
  configurationSent := false
  configMessage := ⟨[], [], [], [], []⟩
  cameraMessage := .new

section Handlers

variable (double : ExtRat → Binary64)

/-- `fft_data_handler`: without an image nothing is done, and the azimuth is not noted either. -/
def fftDataHandler (st : ColossusAndCameraPublisher) (data : FftData) :
    ColossusAndCameraPublisher × List Published :=
  let message := ColossusPublisher.fftDataMessage double data
  if st.cameraMessage.height ≤ 0 || st.cameraMessage.width ≤ 0 then (st, [])
  else
    let falls := decide (data.azimuth.toNat < st.lastAzimuth)
    let rotationCount := if falls then st.rotationCount + 1 else st.rotationCount
    let rotatedOnce := st.rotatedOnce || falls
    let due := decide (rotationCount ≥ configPublishCount)
    ({ st with
        lastAzimuth := data.azimuth.toNat
        rotatedOnce := rotatedOnce
        rotationCount := if due then 0 else rotationCount },
      (if falls then [.cameraImage st.cameraMessage] else []) ++
        ((if due then [.radar (.configuration st.configMessage)] else []) ++
          if rotatedOnce then [.radar (.fftData message)] else []))

/-- Until before the request at its end. -/
def configurationDataHandler (st : ColossusAndCameraPublisher) (data : ConfigurationData) :
    ColossusAndCameraPublisher × List Published :=
  let message := ColossusPublisher.configurationMessage double data
  ({ st with
      azimuthSamples := data.azimuthSamples
      configMessage := message
      fps := data.expectedRotationRate },
    [.radar (.configuration message)])

/-- `camera_image_handler` copies the pixels out of the image, and publishes the configuration of
    the camera first if it is due. -/
def cameraImageHandler (st : ColossusAndCameraPublisher) (image : Mat) (now : Nat) :
    Except Fault (ColossusAndCameraPublisher × List Published) := do
  let vectorBuffer ← CheckedView.range image.data 0 (image.cols * image.rows * 3)
  let due := !st.configurationSent || decide (st.frameCount ≥ configPublishCount)
  let message : CameraConfigurationMessage :=
    ⟨UInt32.ofNat image.rows, UInt32.ofNat image.cols, UInt32.ofNat image.channels,
      UInt32.ofNat st.fps.toNat⟩
  return ({ st with
      configurationSent := st.configurationSent || due
      frameCount := (if due then 0 else st.frameCount) + 1
      cameraMessage := ⟨now, "camera_image", UInt32.ofNat image.rows, UInt32.ofNat image.cols,
        "8UC3", 1, UInt32.ofNat image.step, vectorBuffer⟩ },
    if due then [.cameraConfiguration message] else [])

end Handlers

/-! ## The handlers, beside those of `Colossus_publisher` -/

/-- The members that `Colossus_publisher` has. -/
def radarPart (st : ColossusAndCameraPublisher) : ColossusPublisher :=
  ⟨st.lastAzimuth, st.rotatedOnce, st.rotationCount, st.configMessage⟩

/-- The same with the members that `Colossus_publisher` has set anew. -/
def withRadarPart (st : ColossusAndCameraPublisher) (publisher : ColossusPublisher) :
    ColossusAndCameraPublisher :=
  { st with
    lastAzimuth := publisher.lastAzimuth
    rotatedOnce := publisher.rotatedOnce
    rotationCount := publisher.rotationCount
    configMessage := publisher.configMessage }

variable {double : ExtRat → Binary64}

theorem fftDataHandler_of_shows {st : ColossusAndCameraPublisher} (data : FftData)
    (hshows : st.cameraMessage.Shows) :
    st.fftDataHandler double data =
      (st.withRadarPart (st.radarPart.fftDataHandler double data).1,
        (if data.azimuth.toNat < st.lastAzimuth then [.cameraImage st.cameraMessage] else []) ++
          (st.radarPart.fftDataHandler double data).2.map .radar) := by
  unfold fftDataHandler ColossusPublisher.fftDataHandler
  rw [if_neg (not_not.mpr hshows ∘ ImageMessage.not_shows_iff.mpr)]
  dsimp only [radarPart, withRadarPart]
  by_cases hfall : data.azimuth.toNat < st.lastAzimuth
  · simp only [hfall, decide_true, if_true, List.map_append, apply_ite (List.map Published.radar),
      List.map_cons, List.map_nil, decide_eq_true_eq]
  · simp only [hfall, decide_false, if_false, Bool.false_eq_true, List.map_append,
      apply_ite (List.map Published.radar), List.map_cons, List.map_nil, decide_eq_true_eq]

theorem fftDataHandler_of_not_shows {st : ColossusAndCameraPublisher} (data : FftData)
    (hnone : ¬ st.cameraMessage.Shows) : st.fftDataHandler double data = (st, []) :=
  if_pos (ImageMessage.not_shows_iff.mp hnone)

/-- How many images there have been since the configuration of the camera was published. -/
def framesSince (images : Nat) : Nat :=
  if images = 0 then 0 else (images - 1) % configPublishCount + 1

theorem due_iff {st : ColossusAndCameraPublisher} {images : Nat}
    (hsent : st.configurationSent = decide (0 < images))
    (hcount : st.frameCount = framesSince images) :
    (!st.configurationSent || decide (st.frameCount ≥ configPublishCount)) =
      decide (images % configPublishCount = 0) := by
  have h4 : configPublishCount = 4 := rfl
  rw [hsent, hcount, ← decide_not, ← Bool.decide_or]
  refine decide_eq_decide.mpr ?_
  unfold framesSince
  rw [h4]
  split
  · omega
  · omega

theorem framesSince_succ (images : Nat) :
    framesSince (images + 1) =
      (if images % configPublishCount = 0 then 0 else framesSince images) + 1 := by
  have h4 : configPublishCount = 4 := rfl
  unfold framesSince
  rw [h4]
  split
  · omega
  · split
    · omega
    · split
      · omega
      · omega

end ColossusAndCameraPublisher

/-- The program. -/
structure CameraNode where
  client : RadarClient
  publisher : ColossusAndCameraPublisher

namespace CameraNode

open ColossusAndCameraPublisher (Published)

/-- What is seen of the program: a request to the radar, or a message. -/
inductive Effect where
  | send (data : Bytes)
  | publish (message : Published)
deriving DecidableEq

inductive Event where
  | received (f : Frame)
  | connection (connected : Bool)
  /-- `main` has got an image, and the clock shows `now`. -/
  | image (image : Mat) (now : Nat)

variable {x : Externals} {double : ExtRat → Binary64}

/-- After `main` has set the callbacks. -/
def start : CameraNode where
  client := (RadarClient.new.setFftDataCallback true).setConfigurationDataCallback true
  publisher := .initial

/-- An output of the client: sent, or handed to the callback that is set for it. -/
def handOut (double : ExtRat → Binary64) (st : CameraNode) :
    Output x → Except Fault (CameraNode × List Effect)
  | .send data => .ok (st, [.send data])
  | .configurationData data _ =>
    let handled := st.publisher.configurationDataHandler double data
    let started := st.client.startNonContourFftData (x := x)
    .ok (⟨started.1, handled.1⟩, handled.2.map .publish ++ RadarClient.sends .send started.2)
  | .fftData data =>
    let handled := st.publisher.fftDataHandler double data
    .ok ({ st with publisher := handled.1 }, handled.2.map .publish)
  | _ => .ok (st, [])

/-- A frame is handled with all that its handler does, before anything else happens. -/
def step (x : Externals) (double : ExtRat → Binary64) (st : CameraNode) :
    Event → Except Fault (CameraNode × List Effect)
  | .received f => do
    let r ← st.client.handleData (x := x) f.bytes
    Machine.run (handOut double) { st with client := r.1 } r.2
  | .connection connected =>
    .ok ({ st with client := { st.client with connected := connected } }, [])
  | .image image now => do
    let handled ← st.publisher.cameraImageHandler image now
    return ({ st with publisher := handled.1 }, handled.2.map .publish)

/-! ## What is seen -/

/-- What a `Colossus_publisher` is handed. -/
abbrev Heard := ColossusPublisher.Event

/-- What the frames and the images have said so far. -/
structure History where
  connected : Bool
  /-- There has been a configuration. -/
  started : Bool
  encoderSize : UInt16
  /-- The rate of the latest configuration, or 0. -/
  fps : UInt16
  /-- A `Colossus_publisher` that is handed what is heard. -/
  publisher : ColossusPublisher
  /-- The message of the latest image, or an empty one. -/
  image : ImageMessage
  /-- The number of images. -/
  images : Nat

namespace History

/-- Before the first event. -/
def start : History := ⟨false, false, 0, 0, .initial, .new, 0⟩

variable (x : Externals) (double : ExtRat → Binary64) (h : History)

/-- What the publisher of the radar's messages is handed: configurations, and the sweeps that
    arrive while there is an image. -/
def hears : Event → List Heard
  | .connection _ => []
  | .image _ _ => []
  | .received f =>
    if f.type = .configuration then
      [.configuration (configurationValues (binSizeOf x f.payload) f.payload)]
    else if f.type = .fftData ∧ h.image.Shows then [.sweep (fftValues h.encoderSize f.payload)]
    else []

/-- The message of an image. -/
def messageOf (image : Mat) (now : Nat) : ImageMessage :=
  ⟨now, "camera_image", UInt32.ofNat image.rows, UInt32.ofNat image.cols, "8UC3", 1,
    UInt32.ofNat image.step, image.data.take (image.cols * image.rows * 3)⟩

/-- The publisher after all of this. -/
def publisherAfter (publisher : ColossusPublisher) (heard : List Heard) : ColossusPublisher :=
  heard.foldl (fun publisher e => (publisher.handle double e).1) publisher

/-- An image is the latest one, and of a configuration the client keeps the encoder size and
    the handler the rate. -/
def after (e : Event) : History :=
  let h' := { h with publisher := publisherAfter double h.publisher (h.hears x e) }
  match e with
  | .connection connected => { h' with connected := connected }
  | .image image now => { h' with image := messageOf image now, images := h.images + 1 }
  | .received f =>
    if f.type = .configuration then
      let values := configurationValues (binSizeOf x f.payload) f.payload
      { h' with
        started := true
        encoderSize := values.encoderSize
        fps := values.expectedRotationRate }
    else h'

/-- What is published on the radar's topics. -/
def radar (e : Event) : List Effect :=
  (ColossusPublisher.published double h.publisher (h.hears x e)).map fun message =>
    .publish (.radar message)

/-- What the radar is sent, and what is published: of an image at most a configuration, of a
    sweep the image where the azimuth falls, and of a configuration the two requests around
    it. -/
def emits : Event → List Effect
  | .connection _ => []
  | .image image _ =>
    -- the first image, and every fourth one after it
    if h.images % configPublishCount = 0 then
      [.publish (.cameraConfiguration ⟨UInt32.ofNat image.rows, UInt32.ofNat image.cols,
        UInt32.ofNat image.channels, UInt32.ofNat h.fps.toNat⟩)]
    else []
  | .received f =>
    if f.type = .configuration then
      (RadarClient.resumed h.started h.connected).map .send ++
        (h.radar x double (.received f) ++
          (RadarClient.request h.connected .startNonContourFftData).map .send)
    else if f.type = .fftData ∧ h.image.Shows then
      (if (fftValues 0 f.payload).azimuth.toNat < h.publisher.lastAzimuth then
        [.publish (.cameraImage h.image)] else []) ++ h.radar x double (.received f)
    else []

end History

/-! ## One event -/

/-- The program is as the history says. -/
structure Follows (st : CameraNode) (h : History) : Prop where
  connected : st.client.connected = h.connected
  started : st.client.sendRadarData = h.started
  encoderSize : st.client.encoderSize = h.encoderSize
  fftSet : st.client.fftDataCallback = true
  configurationSet : st.client.configurationDataCallback = true
  noRaw : st.client.rawFftDataCallback = false
  noRawConfiguration : st.client.rawConfigurationDataCallback = false
  noHealth : st.client.healthDataCallback = false
  noNavigation : st.client.navigationDataCallback = false
  noNavigationConfig : st.client.navigationConfigCallback = false
  fps : st.publisher.fps = h.fps
  radar : st.publisher.radarPart = h.publisher
  image : st.publisher.cameraMessage = h.image
  sent : st.publisher.configurationSent = decide (0 < h.images)
  frameCount : st.publisher.frameCount = ColossusAndCameraPublisher.framesSince h.images

theorem follows_start : start.Follows .start :=
  ⟨rfl, rfl, rfl, rfl, rfl, rfl, rfl, rfl, rfl, rfl, rfl, rfl, rfl, rfl, rfl⟩

variable {st : CameraNode} {h : History} {f : Frame} {r : CameraNode × List Effect}

/-- An image. -/
theorem follows_image (hc : st.Follows h) {image : Mat} {now : Nat}
    (hstep : st.step x double (.image image now) = .ok r) :
    r.1.Follows (h.after x double (.image image now)) ∧
      r.2.filterMap some = h.emits x double (.image image now) := by
  obtain ⟨handled, himage, hr⟩ := bind_eq_ok.mp hstep
  obtain ⟨buffer, hbuffer, hhandled⟩ := bind_eq_ok.mp himage
  obtain rfl := Except.ok.inj hr
  obtain rfl := Except.ok.inj hhandled
  obtain ⟨-, rfl⟩ := CheckedView.range_zero_eq_ok.mp hbuffer
  have hdue := ColossusAndCameraPublisher.due_iff hc.sent hc.frameCount
  have hcount := ColossusAndCameraPublisher.framesSince_succ h.images
  rw [hdue]
  refine ⟨{ hc with image := rfl, sent := ?_, frameCount := ?_ }, ?_⟩
  · show (st.publisher.configurationSent || decide (h.images % configPublishCount = 0)) = true
    have h4 : configPublishCount = 4 := rfl
    rw [hc.sent, ← Bool.decide_or, decide_eq_true_iff, h4]
    omega
  · refine Eq.trans ?_ hcount.symm
    simp only [decide_eq_true_eq, hc.frameCount]
  · rw [List.filterMap_some]
    unfold History.emits
    simp only [decide_eq_true_eq, hc.fps]
    split
    · rfl
    · rfl

/-- A configuration. -/
theorem follows_configuration (hc : st.Follows h) (htype : f.type = .configuration)
    (hstep : st.step x double (.received f) = .ok r) :
    r.1.Follows (h.after x double (.received f)) ∧
      r.2.filterMap some = h.emits x double (.received f) := by
  obtain ⟨r₁, hdata, hr⟩ := bind_eq_ok.mp hstep
  obtain rfl := RadarClient.received_configuration hdata htype hc.configurationSet
    hc.noRawConfiguration
  have hears : h.hears x (.received f) = _ := if_pos htype
  have hafter : h.after x double (.received f) = _ := if_pos htype
  have hemits : h.emits x double (.received f) = _ := if_pos htype
  have hresumed : RadarClient.resumed st.client.sendRadarData st.client.connected =
      RadarClient.resumed h.started h.connected := congrArg₂ _ hc.started hc.connected
  -- the client remembers a start and sends it again before the callback
  have hfirst (st' : CameraNode) : Machine.run (handOut (x := x) double) st' _ =
      .ok (st', List.map Effect.send _) :=
    RadarClient.run_resumed (fun _ _ => rfl) st' st.client
  rw [run_append_of_ok (hfirst _), run_one, hresumed] at hr
  obtain rfl := Except.ok.inj hr
  rw [hafter, hemits, List.filterMap_some]
  unfold History.radar
  rw [hears]
  refine ⟨{ hc with
    started := rfl, encoderSize := rfl, fps := rfl, radar := ?_ }, ?_⟩
  · rw [← hc.radar]
    rfl
  · show _ ++ (_ ++ RadarClient.sends Effect.send
      (st.client.sendSimpleNetworkMessage (x := x) .startNonContourFftData)) = _
    rw [RadarClient.sends_request, hc.connected]
    rfl

/-- A sweep, heard or not. -/
theorem follows_fft (hc : st.Follows h) (htype : f.type = .fftData)
    (hstep : st.step x double (.received f) = .ok r) :
    r.1.Follows (h.after x double (.received f)) ∧
      r.2.filterMap some = h.emits x double (.received f) := by
  obtain ⟨r₁, hdata, hr⟩ := bind_eq_ok.mp hstep
  obtain rfl := RadarClient.received_fft hdata htype hc.fftSet hc.noRaw
  rw [run_one, hc.encoderSize] at hr
  obtain rfl := Except.ok.inj hr
  have hnot : ¬ f.type = .configuration := by
    rw [htype]
    decide
  have hafter : h.after x double (.received f) =
      { h with publisher := History.publisherAfter double h.publisher (h.hears x (.received f)) } :=
    if_neg hnot
  have hemits : h.emits x double (.received f) = _ := if_neg hnot
  have hears : h.hears x (.received f) = _ := if_neg hnot
  have himage := hc.image
  rw [hafter, hemits, List.filterMap_some]
  unfold History.radar
  rw [hears]
  dsimp only
  by_cases hshows : h.image.Shows
  · rw [if_pos ⟨htype, hshows⟩, if_pos ⟨htype, hshows⟩]
    rw [← himage] at hshows
    have hlast : st.publisher.lastAzimuth = h.publisher.lastAzimuth :=
      congrArg ColossusPublisher.lastAzimuth hc.radar
    rw [ColossusAndCameraPublisher.fftDataHandler_of_shows _ hshows, hc.radar, hlast, himage]
    refine ⟨{ hc with radar := rfl }, ?_⟩
    rw [List.map_append]
    refine congrArg₂ (· ++ ·) ?_ ?_
    · exact apply_ite (List.map Effect.publish) _ _ _
    · show _ = List.map _ (_ ++ [])
      rw [List.append_nil, List.map_map]
      rfl
  · rw [if_neg fun h => hshows h.2, if_neg fun h => hshows h.2]
    rw [← himage] at hshows
    rw [ColossusAndCameraPublisher.fftDataHandler_of_not_shows _ hshows]
    exact ⟨hc, rfl⟩

theorem follows_step {e : Event} (hc : st.Follows h) (hstep : st.step x double e = .ok r) :
    r.1.Follows (h.after x double e) ∧ r.2.filterMap some = h.emits x double e := by
  cases e with
  | connection connected =>
    obtain rfl := Except.ok.inj hstep
    exact ⟨{ hc with connected := rfl }, rfl⟩
  | image image now => exact follows_image hc hstep
  | received f =>
    by_cases hconfiguration : f.type = .configuration
    · exact follows_configuration hc hconfiguration hstep
    by_cases hfft : f.type = .fftData
    · exact follows_fft hc hfft hstep
    · have hother : st.client.handleData (x := x) f.bytes = .ok (st.client, []) :=
        RadarClient.received_other hconfiguration hfft (fun _ => hc.noNavigation) hc.noHealth
          hc.noNavigationConfig
      have hsame : st.step x double (.received f) = .ok (st, []) :=
        bind_eq_ok.mpr ⟨_, hother, rfl⟩
      have hears : h.hears x (.received f) = [] :=
        (if_neg hconfiguration).trans (if_neg fun h => hfft h.1)
      have hafter : h.after x double (.received f) =
          { h with
            publisher := History.publisherAfter double h.publisher (h.hears x (.received f)) } :=
        if_neg hconfiguration
      have hemits : h.emits x double (.received f) = [] :=
        (if_neg hconfiguration).trans (if_neg fun h => hfft h.1)
      obtain rfl := Except.ok.inj (hsame.symm.trans hstep)
      rw [hafter, hemits, hears]
      exact ⟨hc, rfl⟩

/-! ## The radar's topics -/

theorem published_append (double : ExtRat → Binary64) (publisher : ColossusPublisher)
    (heard others : List Heard) :
    ColossusPublisher.published double publisher (heard ++ others) =
      ColossusPublisher.published double publisher heard ++
        ColossusPublisher.published double (History.publisherAfter double publisher heard)
          others := by
  induction heard generalizing publisher with
  | nil => rfl
  | cons e heard ih =>
    rw [List.cons_append, ColossusPublisher.published, ih, ColossusPublisher.published,
      List.append_assoc]
    rfl

/-- A message on one of the radar's topics. -/
def Effect.radarTopic : Effect → Option ColossusPublisher.Published
  | .publish (.radar message) => some message
  | _ => none

theorem send_radarTopic (frames : List Bytes) :
    (frames.map Effect.send).filterMap Effect.radarTopic = [] := by
  rw [List.filterMap_map]
  exact List.filterMap_eq_nil_iff.mpr fun _ _ => rfl

/-- What is published of a frame for the radar's topics. -/
theorem radar_radarTopic (x : Externals) (double : ExtRat → Binary64) (h : History) (e : Event) :
    (h.radar x double e).filterMap Effect.radarTopic =
      ColossusPublisher.published double h.publisher (h.hears x e) := by
  unfold History.radar
  rw [List.filterMap_map]
  exact List.filterMap_some

theorem emits_radarTopic (x : Externals) (double : ExtRat → Binary64) (h : History) (e : Event) :
    (h.emits x double e).filterMap Effect.radarTopic =
      ColossusPublisher.published double h.publisher (h.hears x e) := by
  have hradar := radar_radarTopic x double h e
  cases e with
  | connection connected => rfl
  | image image now =>
    unfold History.emits
    dsimp only
    split
    · rfl
    · rfl
  | received f =>
    unfold History.emits
    dsimp only
    split
    · rw [List.filterMap_append, send_radarTopic, List.filterMap_append, send_radarTopic,
        List.append_nil, List.nil_append, hradar]
    · rename_i hconfiguration
      split
      · rw [List.filterMap_append, hradar]
        split
        · rfl
        · rfl
      · rename_i hunheard
        have hears : h.hears x (.received f) = [] := (if_neg hconfiguration).trans (if_neg hunheard)
        rw [hears]
        rfl

theorem after_publisher (x : Externals) (double : ExtRat → Binary64) (h : History) (e : Event) :
    (h.after x double e).publisher = History.publisherAfter double h.publisher (h.hears x e) := by
  cases e with
  | connection connected => rfl
  | image image now => rfl
  | received f =>
    unfold History.after
    dsimp only
    split
    · rfl
    · rfl

theorem trace_radarTopic (x : Externals) (double : ExtRat → Binary64) (events : List Event)
    (h : History) :
    (trace (History.after x double) (History.emits x double) h events).filterMap
        Effect.radarTopic =
      ColossusPublisher.published double h.publisher
        (trace (History.after x double) (History.hears x) h events) := by
  induction events generalizing h with
  | nil => rfl
  | cons e events ih =>
    rw [trace, List.filterMap_append, ih, emits_radarTopic, after_publisher, trace,
      published_append]

/-- What is sent and published, in terms of the frames and the images. -/
theorem effects_eq {events : List Event} {r : CameraNode × List Effect}
    (hrun : Machine.run (step x double) start events = .ok r) :
    r.2 = trace (History.after x double) (History.emits x double) .start events := by
  have hseen : r.2.filterMap some = _ := (run_trace hrun follows_start follows_step).2
  rwa [List.filterMap_some] at hseen

/-- **The camera node**, its handlers taken one at a time. Over every run, what it sends and
    publishes is what the frames and the images say; and on the radar's topics it is what a
    `Colossus_publisher` publishes that is handed the configurations, and of the sweeps those
    that arrive while there is an image. -/
theorem radar_topics {events : List Event} {r : CameraNode × List Effect}
    (hrun : Machine.run (step x double) start events = .ok r) :
    r.2 = trace (History.after x double) (History.emits x double) .start events ∧
      r.2.filterMap Effect.radarTopic = ColossusPublisher.published double .initial
        (trace (History.after x double) (History.hears x) .start events) := by
  refine ⟨effects_eq hrun, ?_⟩
  rw [effects_eq hrun]
  exact trace_radarTopic x double events .start

/-- An image of one pixel. -/
def onePixel : Mat := ⟨1, 1, 3, 3, [10, 20, 30], by decide, by decide, by decide⟩

/-- A sweep at azimuth 50. -/
def sweepAt50 : Frame := ⟨30, [0, 0, 0, 0, 0, 50, 0, 0, 0, 0, 0, 0, 0, 0, 9], by decide⟩

/-- The sweep before the image is not heard. -/
theorem radar_topics_two :
    ∃ r, Machine.run (step .unparsed fun _ => ⟨0⟩) start [.received RadarClient.fftFrame,
        .image onePixel 7, .received RadarClient.fftFrame, .received sweepAt50] = .ok r ∧
      r.2.filterMap Effect.radarTopic = ColossusPublisher.published (fun _ => ⟨0⟩) .initial
        [.sweep (fftValues 0 RadarClient.fftFrame.payload),
          .sweep (fftValues 0 sweepAt50.payload)] := by
  obtain ⟨r, hr⟩ : ∃ r, Machine.run (step .unparsed fun _ => ⟨0⟩) start
      [.received RadarClient.fftFrame, .image onePixel 7, .received RadarClient.fftFrame,
        .received sweepAt50] = .ok r := ⟨_, rfl⟩
  exact ⟨r, hr, (radar_topics hr).2⟩

end CameraNode

end Ros

end Navtech
