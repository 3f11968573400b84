/-
  `Colossus_and_camera_subscriber_to_video`: the videos of the radar and of the camera, from the
  four topics of `Colossus_and_camera_publisher`.

  The callbacks of the radar's topics are those of `Colossus_subscriber_to_video`, word for word,
  and so are the members they use. The one for the configuration of the camera looks at the flag
  that the radar's sets, and not at its own. So once there is a configuration of the radar, the
  video of the camera is not opened any more, and if it has not been by then, no image is
  recorded at all (`recorded`, `camera_run`). Between the two nodes it is decided by what the
  publisher gets first, an image or a configuration (`camera_recorded`). As the publisher has
  its rate from the configuration, the video is opened with the rate 0 whenever it is opened.

  Both nodes take one handler or callback after the other, and the subscriber gets every message,
  in order: what `main` and the client of the publisher do to `camera_message` at once is not here.
  The video of the radar is left out, up to the image that goes into it, and so is what OpenCV
  does with the camera's: that a file opened again is begun again, and what it makes of the rate 0.
  `height` and `width` of an image are taken to be numbers of type `int`.
-/
import Navtech.Ros.ColossusAndCameraPublisher
import Navtech.Ros.SubscriberToVideo

namespace Navtech

namespace Ros

open CheckedView (bind_eq_ok map_eq_ok mapError_eq_ok)
open Machine
open Network (Bytes)
open ColossusAndCameraPublisher (Published)
open Utility (Binary64)

/-- The members of `Colossus_subscriber_to_video`, and the flag of the camera. -/
structure ColossusAndCameraSubscriberToVideo where
  radar : ColossusSubscriberToVideo
  cameraConfigDataReceived : Bool

namespace ColossusAndCameraSubscriberToVideo

/-- What is read out of bounds: a sweep, or the pixels of an image. -/
inductive Fault where
  | radar (fault : LaserScan.Fault)
  | camera (fault : CheckedView.Fault)

/-- A call of one of the two `cv::VideoWriter`s. -/
inductive Video where
  | writeRadar (image : RadarImage)
  | openCamera (fps width height : UInt32)
  | writeCamera (height width : UInt32) (data : Bytes)

def initial : ColossusAndCameraSubscriberToVideo := ⟨.initial, false⟩

/-- `camera_configuration_data_callback` looks at the flag of the radar, and sets its own. -/
def cameraConfigurationDataCallback (st : ColossusAndCameraSubscriberToVideo)
    (data : CameraConfigurationMessage) : ColossusAndCameraSubscriberToVideo × List Video :=
  if st.radar.configDataReceived then (st, [])
  else ({ st with cameraConfigDataReceived := true },
    [.openCamera data.fps data.width data.height])

/-- `camera_image_callback` looks at the flag of the camera. -/
def cameraImageCallback (st : ColossusAndCameraSubscriberToVideo) (data : ImageMessage) :
    Except Fault (ColossusAndCameraSubscriberToVideo × List Video) :=
  if !st.cameraConfigDataReceived then .ok (st, [])
  else do
    let cameraImage ← (CheckedView.range data.data 0
      (data.height.toNat * data.width.toNat * 3)).mapError .camera
    return (st, [.writeCamera data.height data.width cameraImage])

variable (bearing : UInt16 → UInt16 → UInt16 → Int32)

/-- A message on one of the topics. -/
def handle (st : ColossusAndCameraSubscriberToVideo) :
    Published → Except Fault (ColossusAndCameraSubscriberToVideo × List Video)
  | .radar (.configuration message) =>
    .ok ({ st with radar := st.radar.configurationDataCallback message }, [])
  | .radar (.fftData message) => do
    let r ← (st.radar.fftDataCallback bearing message).mapError .radar
    return ({ st with radar := r.1 }, r.2.toList.map .writeRadar)
  | .cameraConfiguration data => .ok (st.cameraConfigurationDataCallback data)
  | .cameraImage data => st.cameraImageCallback data

/-! ## What is recorded of the camera -/

/-- A call for the video of the camera. -/
def Video.ofCamera : Video → Option Video
  | .writeRadar _ => none
  | call => some call

/-- What is written to the video of the camera. -/
def Video.cameraFrame : Video → Option (UInt32 × UInt32 × Bytes)
  | .writeCamera height width data => some (height, width, data)
  | _ => none

/-- The rate with which the video of the camera is opened. -/
def Video.rate : Video → Option UInt32
  | .openCamera fps _ _ => some fps
  | _ => none

/-- The image in a message. -/
def imageOf : Published → Option ImageMessage
  | .cameraImage message => some message
  | _ => none

/-- What is written of an image. -/
def frame (message : ImageMessage) : UInt32 × UInt32 × Bytes :=
  (message.height, message.width,
    message.data.take (message.height.toNat * message.width.toNat * 3))

/-- The images behind the first configuration of the camera, unless one of the radar comes
    first. -/
def recorded : List Published → List ImageMessage
  | [] => []
  | .cameraConfiguration _ :: messages => messages.filterMap imageOf
  | .radar (.configuration _) :: _ => []
  | _ :: messages => recorded messages

/-- The rates of the configurations of the camera before the first of the radar. -/
def rates : List Published → List UInt32
  | [] => []
  | .cameraConfiguration message :: messages => message.fps :: rates messages
  | .radar (.configuration _) :: _ => []
  | _ :: messages => rates messages

/-- The two flags. -/
structure Flags where
  camera : Bool
  radar : Bool

/-- The flags after a message. -/
def Flags.after (h : Flags) : Published → Flags
  | .radar (.configuration _) => { h with radar := true }
  | .cameraConfiguration _ => { h with camera := h.camera || !h.radar }
  | _ => h

/-- What a message does to the video of the camera. -/
def Flags.calls (h : Flags) : Published → List Video
  | .cameraConfiguration message =>
    if h.radar then [] else [.openCamera message.fps message.width message.height]
  | .cameraImage message =>
    if h.camera then
      [.writeCamera message.height message.width
        (message.data.take (message.height.toNat * message.width.toNat * 3))]
    else []
  | .radar _ => []

/-- The two flags are as the messages say. -/
structure Follows (st : ColossusAndCameraSubscriberToVideo) (h : Flags) : Prop where
  camera : st.cameraConfigDataReceived = h.camera
  radar : st.radar.configDataReceived = h.radar

section Runs

variable {bearing} {st : ColossusAndCameraSubscriberToVideo} {h : Flags}
  {messages : List Published} {q : ColossusAndCameraSubscriberToVideo × List Video}

theorem configurationDataCallback_received (radar : ColossusSubscriberToVideo)
    (message : RadarConfigurationMessage) :
    (radar.configurationDataCallback message).configDataReceived = true := by
  unfold ColossusSubscriberToVideo.configurationDataCallback
  split
  · assumption
  · rfl

theorem fftDataCallback_received {radar : ColossusSubscriberToVideo}
    {message : RadarFftDataMessage} {handled : ColossusSubscriberToVideo × Option RadarImage}
    (hradar : radar.fftDataCallback bearing message = .ok handled) :
    handled.1.configDataReceived = radar.configDataReceived := by
  unfold ColossusSubscriberToVideo.fftDataCallback at hradar
  split at hradar
  · obtain ⟨image, -, hr⟩ := bind_eq_ok.mp hradar
    obtain rfl := Except.ok.inj hr
    rfl
  · obtain rfl := Except.ok.inj hradar
    rfl

/-- A message. -/
theorem follows_handle {message : Published} (hc : st.Follows h)
    (hstep : st.handle bearing message = .ok q) :
    q.1.Follows (h.after message) ∧ q.2.filterMap Video.ofCamera = h.calls message := by
  cases message with
  | radar message =>
    cases message with
    | configuration message =>
      obtain rfl := Except.ok.inj hstep
      exact ⟨⟨hc.camera, configurationDataCallback_received _ message⟩, rfl⟩
    | fftData message =>
      obtain ⟨handled, hradar, hr⟩ := bind_eq_ok.mp hstep
      obtain rfl := Except.ok.inj hr
      have hkept := fftDataCallback_received (mapError_eq_ok.mp hradar)
      refine ⟨⟨hc.camera, hkept.trans hc.radar⟩, ?_⟩
      cases handled.2 with
      | none => rfl
      | some image => rfl
  | cameraConfiguration data =>
    obtain rfl := Except.ok.inj hstep
    unfold cameraConfigurationDataCallback Flags.after Flags.calls
    rw [hc.radar]
    cases hradar : h.radar with
    | true => exact ⟨⟨hc.camera.trans (Bool.or_false _).symm, hc.radar.trans hradar⟩, rfl⟩
    | false => exact ⟨⟨(Bool.or_true _).symm, hc.radar.trans hradar⟩, rfl⟩
  | cameraImage data =>
    unfold handle cameraImageCallback at hstep
    unfold Flags.calls
    rw [hc.camera] at hstep
    cases hcamera : h.camera with
    | false =>
      rw [hcamera] at hstep
      obtain rfl := Except.ok.inj hstep
      exact ⟨hc, rfl⟩
    | true =>
      rw [hcamera] at hstep
      obtain ⟨cameraImage, himage, hr⟩ := bind_eq_ok.mp hstep
      obtain ⟨-, rfl⟩ := CheckedView.range_zero_eq_ok.mp (mapError_eq_ok.mp himage)
      obtain rfl := Except.ok.inj hr
      exact ⟨hc, rfl⟩

/-- Once there is a configuration of the camera, all images are written. -/
theorem frames_open (radar : Bool) (messages : List Published) :
    (trace Flags.after Flags.calls ⟨true, radar⟩ messages).filterMap Video.cameraFrame =
      (messages.filterMap imageOf).map frame := by
  induction messages generalizing radar with
  | nil => rfl
  | cons message messages ih =>
    rw [trace, List.filterMap_append]
    rcases message with (_ | _) | _ | _
    · exact ih true
    · exact ih radar
    · cases radar with
      | true => exact ih true
      | false => exact ih false
    · exact congrArg (_ :: ·) (ih radar)

/-- Once there is one of the radar, the video is not opened. -/
theorem rates_closed (camera : Bool) (messages : List Published) :
    (trace Flags.after Flags.calls ⟨camera, true⟩ messages).filterMap Video.rate = [] := by
  induction messages generalizing camera with
  | nil => rfl
  | cons message messages ih =>
    rw [trace, List.filterMap_append]
    rcases message with (_ | _) | _ | _
    · exact ih camera
    · exact ih camera
    · exact ih _
    · cases camera with
      | true => exact ih true
      | false => exact ih false

/-- If it has not been by then, no image is written. -/
theorem frames_closed (messages : List Published) :
    (trace Flags.after Flags.calls ⟨false, true⟩ messages).filterMap Video.cameraFrame = [] := by
  induction messages with
  | nil => rfl
  | cons message messages ih =>
    rw [trace, List.filterMap_append]
    rcases message with (_ | _) | _ | _
    · exact ih
    · exact ih
    · exact ih
    · exact ih

theorem frames_start (messages : List Published) :
    (trace Flags.after Flags.calls ⟨false, false⟩ messages).filterMap Video.cameraFrame =
      (recorded messages).map frame := by
  induction messages with
  | nil => rfl
  | cons message messages ih =>
    rw [trace, List.filterMap_append]
    rcases message with (_ | _) | _ | _
    · exact frames_closed messages
    · exact ih
    · exact frames_open false messages
    · exact ih

theorem rates_start (camera : Bool) (messages : List Published) :
    (trace Flags.after Flags.calls ⟨camera, false⟩ messages).filterMap Video.rate =
      rates messages := by
  induction messages generalizing camera with
  | nil => rfl
  | cons message messages ih =>
    rw [trace, List.filterMap_append]
    rcases message with (_ | _) | _ | _
    · exact rates_closed camera messages
    · exact ih camera
    · exact congrArg (_ :: ·) (ih _)
    · cases camera with
      | true => exact ih true
      | false => exact ih false

theorem filterMap_cameraFrame (calls : List Video) :
    (calls.filterMap Video.ofCamera).filterMap Video.cameraFrame =
      calls.filterMap Video.cameraFrame := by
  rw [List.filterMap_filterMap]
  congr 1
  funext call
  cases call <;> rfl

theorem filterMap_rate (calls : List Video) :
    (calls.filterMap Video.ofCamera).filterMap Video.rate = calls.filterMap Video.rate := by
  rw [List.filterMap_filterMap]
  congr 1
  funext call
  cases call <;> rfl

/-- **The video of the camera**, for any messages in any order: what is written to it, and the
    rates with which it is opened. -/
theorem camera_run (hrun : Machine.run (handle bearing) initial messages = .ok q) :
    q.2.filterMap Video.cameraFrame = (recorded messages).map frame ∧
      q.2.filterMap Video.rate = rates messages := by
  have hstart : initial.Follows ⟨false, false⟩ := ⟨rfl, rfl⟩
  have hcalls := (run_trace hrun hstart follows_handle).2
  constructor
  · rw [← filterMap_cameraFrame, hcalls]
    exact frames_start messages
  · rw [← filterMap_rate, hcalls]
    exact rates_start false messages

end Runs

/-! ## Behind the publisher -/

section Nodes

open CameraNode (Event History Effect)

variable {x : Externals} {double : ExtRat → Binary64} {bearing}

/-- What an effect puts on a topic. -/
def publishedOf : Effect → Option Published
  | .publish message => some message
  | .send _ => none

/-- An image opens the video, and a configuration of the radar rules that out. -/
def opens : Event → Option Bool
  | .connection _ => none
  | .image _ _ => some true
  | .received f => if f.type = .configuration then some false else none

theorem send_published (frames : List Network.Bytes) :
    (frames.map Effect.send).filterMap publishedOf = [] := by
  rw [List.filterMap_map]
  exact List.filterMap_eq_nil_iff.mpr fun _ _ => rfl

/-- How the messages begin, by what comes first. -/
inductive Opening : Option Bool → List Published → Prop where
  | image (message : CameraConfigurationMessage) (messages : List Published) :
      Opening (some true) (.cameraConfiguration message :: messages)
  | configuration (message : RadarConfigurationMessage) (messages : List Published) :
      Opening (some false) (.radar (.configuration message) :: messages)
  | nothing : Opening none []

/-- Until the first image or configuration nothing is published. -/
theorem opening_trace (x : Externals) (double : ExtRat → Binary64) (events : List Event)
    {h : History} (hfirst : h.images = 0) (hnone : ¬ h.image.Shows) :
    Opening (events.findSome? opens)
      ((trace (History.after x double) (History.emits x double) h events).filterMap
        publishedOf) := by
  induction events generalizing h with
  | nil => exact .nothing
  | cons e events ih =>
    rw [trace, List.filterMap_append, List.findSome?_cons]
    cases e with
    | connection connected => exact ih hfirst hnone
    | image image now =>
      have hemits : h.emits x double (.image image now) = _ := if_pos (by rw [hfirst]; rfl)
      rw [hemits]
      exact .image _ _
    | received f =>
      by_cases hconfiguration : f.type = .configuration
      · have hopens : opens (.received f) = some false := if_pos hconfiguration
        have hears : h.hears x (.received f) = _ := if_pos hconfiguration
        have hemits : h.emits x double (.received f) = _ := if_pos hconfiguration
        rw [hopens, hemits, List.filterMap_append, send_published, List.filterMap_append,
          send_published, History.radar, hears]
        exact .configuration _ _
      · have hopens : opens (.received f) = none := if_neg hconfiguration
        have hemits : h.emits x double (.received f) = [] :=
          (if_neg hconfiguration).trans (if_neg fun h => hnone h.2)
        have hafter : h.after x double (.received f) = _ := if_neg hconfiguration
        rw [hopens, hemits, hafter]
        exact @ih { h with publisher := _ } hfirst hnone

theorem Opening.recorded_eq {first : Option Bool} {messages : List Published}
    (h : Opening first messages) :
    recorded messages = if first = some true then messages.filterMap imageOf else [] := by
  cases h with
  | image message messages => rfl
  | configuration message messages => rfl
  | nothing => rfl

theorem Opening.rates_ne_nil_iff {first : Option Bool} {messages : List Published}
    (h : Opening first messages) : rates messages ≠ [] ↔ first = some true := by
  cases h with
  | image message messages => exact iff_of_true (List.cons_ne_nil _ _) rfl
  | configuration message messages => exact iff_of_false (not_not.mpr rfl) (by decide)
  | nothing => exact iff_of_false (not_not.mpr rfl) (by decide)

/-- In front of messages that open nothing, none of the rates is another one. -/
theorem mem_rates_append {messages others : List Published} {fps : UInt32}
    (hnone : ∀ message, .cameraConfiguration message ∉ messages)
    (hmem : fps ∈ rates (messages ++ others)) : fps ∈ rates others := by
  induction messages with
  | nil => exact hmem
  | cons message messages ih =>
    have hrest := fun message h => hnone message (List.mem_cons_of_mem _ h)
    rcases message with (_ | _) | message | _
    · exact absurd hmem List.not_mem_nil
    · exact ih hrest hmem
    · exact absurd List.mem_cons_self (hnone message)
    · exact ih hrest hmem

/-- What is published of a sweep is not a configuration of the camera. -/
theorem emits_received {h : History} {f : Network.Frame} (message : CameraConfigurationMessage) :
    .cameraConfiguration message ∉
      (h.emits x double (.received f)).filterMap publishedOf := by
  have hradar : .cameraConfiguration message ∉
      (h.radar x double (.received f)).filterMap publishedOf := by
    unfold History.radar
    rw [List.filterMap_map]
    intro hmem
    obtain ⟨radar, -, hpublished⟩ := List.mem_filterMap.mp hmem
    cases hpublished
  unfold History.emits
  dsimp only
  split
  · rw [List.filterMap_append, send_published, List.filterMap_append, send_published,
      List.append_nil, List.nil_append]
    exact hradar
  · split
    · rw [List.filterMap_append, List.mem_append]
      rintro (himage | hmem)
      · split at himage
        · exact absurd (List.mem_singleton.mp himage) Published.noConfusion
        · exact absurd himage List.not_mem_nil
      · exact hradar hmem
    · exact List.not_mem_nil

/-- The publisher has no rate until its configuration comes, and then it publishes that. -/
theorem rates_trace (x : Externals) (double : ExtRat → Binary64) (events : List Event)
    {h : History} (hfps : h.fps = 0) {fps : UInt32}
    (hmem : fps ∈ rates ((trace (History.after x double) (History.emits x double) h
      events).filterMap publishedOf)) : fps = 0 := by
  induction events generalizing h with
  | nil => exact absurd hmem List.not_mem_nil
  | cons e events ih =>
    rw [trace, List.filterMap_append] at hmem
    cases e with
    | connection connected => exact ih (h := h.after x double (.connection connected)) hfps hmem
    | image image now =>
      have hrest := ih (h := h.after x double (.image image now)) hfps
      by_cases hdue : h.images % configPublishCount = 0
      · have hemits : h.emits x double (.image image now) = _ := if_pos hdue
        rw [hemits] at hmem
        rcases List.mem_cons.mp hmem with hfirst | hmem
        · exact hfirst.trans (congrArg (fun rate => UInt32.ofNat (UInt16.toNat rate)) hfps)
        · exact hrest hmem
      · have hemits : h.emits x double (.image image now) = _ := if_neg hdue
        rw [hemits] at hmem
        exact hrest hmem
    | received f =>
      by_cases hconfiguration : f.type = .configuration
      · have hears : h.hears x (.received f) = _ := if_pos hconfiguration
        have hemits : h.emits x double (.received f) = _ := if_pos hconfiguration
        rw [hemits, List.filterMap_append, send_published, List.filterMap_append,
          send_published, History.radar, hears] at hmem
        exact absurd hmem List.not_mem_nil
      · have hafter : h.after x double (.received f) = _ := if_neg hconfiguration
        refine ih ?_ (mem_rates_append emits_received hmem)
        rw [hafter]
        exact hfps

/-- **The camera's video between the two nodes**, their handlers taken one at a time. If the
    subscriber gets what the publisher publishes, all of it and in order, then every image that
    is published is recorded if the publisher gets an image before the first configuration, and
    none otherwise. In exactly these cases the video is opened, and then with the rate 0. -/
theorem camera_recorded {events : List Event} {r : CameraNode × List Effect}
    {q : ColossusAndCameraSubscriberToVideo × List Video}
    (hpublisher : Machine.run (CameraNode.step x double) CameraNode.start events = .ok r)
    (hsubscriber : Machine.run (handle bearing) initial (r.2.filterMap publishedOf) = .ok q) :
    q.2.filterMap Video.cameraFrame =
        (if events.findSome? opens = some true then
          ((r.2.filterMap publishedOf).filterMap imageOf).map frame
        else []) ∧
      (q.2.filterMap Video.rate ≠ [] ↔ events.findSome? opens = some true) ∧
      ∀ fps ∈ q.2.filterMap Video.rate, fps = 0 := by
  obtain ⟨hframes, hrates⟩ := camera_run hsubscriber
  rw [hframes, hrates, CameraNode.effects_eq hpublisher]
  have hopening := opening_trace x double events (h := .start) rfl (by decide)
  refine ⟨?_, hopening.rates_ne_nil_iff, fun fps hmem => rates_trace x double events rfl hmem⟩
  rw [hopening.recorded_eq]
  exact apply_ite (List.map frame) _ _ _

/-- A configuration of 400 azimuths. -/
def configuration : Network.Frame :=
  ⟨10, [1, 144, 0, 0, 0, 0, 1, 144, 0, 0, 0, 0, 0, 0, 0, 0, 0, 0, 0, 0], by decide⟩

/-- An image, a configuration and a rotation. -/
def oneRotation : List Event :=
  [.image CameraNode.onePixel 7, .received configuration, .received RadarClient.fftFrame,
    .received CameraNode.sweepAt50]

theorem camera_recorded_one :
    ∃ r q, Machine.run (CameraNode.step .unparsed fun _ => ⟨0⟩) CameraNode.start oneRotation =
        .ok r ∧
      Machine.run (handle fun _ _ _ => 0) initial (r.2.filterMap publishedOf) = .ok q ∧
      q.2.filterMap Video.cameraFrame = [(1, 1, [10, 20, 30])] ∧
      q.2.filterMap Video.rate ≠ [] := by
  obtain ⟨r, hr⟩ : ∃ r, Machine.run (CameraNode.step .unparsed fun _ => ⟨0⟩) CameraNode.start
      oneRotation = .ok r := ⟨_, rfl⟩
  obtain ⟨q, hq⟩ : ∃ q, Machine.run (handle fun _ _ _ => 0) initial (r.2.filterMap publishedOf) =
      .ok q := by
    obtain rfl := Except.ok.inj hr
    exact ⟨_, rfl⟩
  obtain ⟨hframes, hopened, -⟩ := camera_recorded hr hq
  refine ⟨r, q, hr, hq, hframes.trans ?_, hopened.mpr rfl⟩
  obtain rfl := Except.ok.inj hr
  rfl

end Nodes

end ColossusAndCameraSubscriberToVideo

end Ros

end Navtech
