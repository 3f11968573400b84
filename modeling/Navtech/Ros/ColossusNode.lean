/-
  The program of `ros2/src/nav_ros/src/colossus_publisher_main.cpp`: `Radar_client` with the
  handlers of `Colossus_publisher` as its callbacks, from the frames of the radar to the messages
  on the two topics.

  The handlers run inside those of the client. The one of a configuration calls
  `start_fft_data`, so that from the second configuration on the start is sent twice, once by
  the client, which remembers that a stream was asked for, and once by the call.

  `emits` is what a subscriber and the radar see of a run, in terms of the frames: no state of
  the client or the publisher is in it but the number of times that the azimuth has fallen
  (`node_follows`). So the sweeps on the topic are those of the frames from the first fall on,
  none lost, and each configuration on the topic is the latest.
-/
import Navtech.Lib.Machine
import Navtech.Network.Angles
import Navtech.Network.FrameValues
import Navtech.Network.Requests
import Navtech.Ros.ColossusPublisher

namespace Navtech

namespace Ros

open CheckedView Machine Network Utility
open ColossusPublisher (Published)
open ColossusSubscriber (ReadConfiguration ReadFftData)
open RadarClient (configurationValues fftValues binSizeOf)

/-- The client with the publisher whose handlers it calls. -/
structure ColossusNode where
  client : RadarClient
  publisher : ColossusPublisher

namespace ColossusNode

/-- What the node does. -/
inductive Effect where
  | send (data : Bytes)
  | publish (message : Published)

inductive Event where
  | received (f : Frame)
  | connection (connected : Bool)

variable {x : Externals} {double : ExtRat → Binary64}

/-- After `main` has set the callbacks. -/
def start : ColossusNode where
  client := (RadarClient.new.setFftDataCallback true).setConfigurationDataCallback true
  publisher := .initial

/-- An output of the client: sent, or handed to the callback that is set for it. -/
def handOut (double : ExtRat → Binary64) (st : ColossusNode) :
    Output x → Except Fault (ColossusNode × List Effect)
  | .send data => .ok (st, [.send data])
  | .configurationData data _ =>
    let handled := st.publisher.configurationDataHandler double data
    let started := st.client.startFftData (x := x)
    .ok (⟨started.1, handled.1⟩, handled.2.map .publish ++ RadarClient.sends .send started.2)
  | .fftData data =>
    let handled := st.publisher.fftDataHandler double data
    .ok ({ st with publisher := handled.1 }, handled.2.map .publish)
  | _ => .ok (st, [])

/-- A frame is handled with all that its handler does. -/
def step (x : Externals) (double : ExtRat → Binary64) (st : ColossusNode) :
    Event → Except Fault (ColossusNode × List Effect)
  | .received f => do
    let r ← st.client.handleData (x := x) f.bytes
    Machine.run (handOut double) { st with client := r.1 } r.2
  | .connection connected =>
    .ok ({ st with client := { st.client with connected := connected } }, [])

/-! ## What is seen -/

/-- What the radar receives, and what `Colossus_subscriber` reads. -/
inductive Seen where
  | request (data : Bytes)
  | configuration (read : ReadConfiguration)
  | sweep (read : ReadFftData) (data : Bytes)
deriving DecidableEq

/-- A request is seen by the radar, and a message as the subscriber reads it. -/
def Effect.seen : Effect → Option Seen
  | .send data => some (.request data)
  | .publish (.configuration message) =>
    some (.configuration (ColossusSubscriber.configurationDataCallback message))
  | .publish (.fftData message) =>
    some (.sweep (ColossusSubscriber.fftDataCallback message) message.data)

/-- What is read of a configuration with this payload. -/
def configurationRead (x : Externals) (double : ExtRat → Binary64) (payload : Bytes) :
    ReadConfiguration :=
  let values := configurationValues (binSizeOf x payload) payload
  ⟨some values.azimuthSamples, some values.encoderSize, some (double values.binSize),
    some values.rangeInBins, some values.expectedRotationRate⟩

/-- What is read of a sweep with this payload; the angle is left to the caller. -/
def sweepRead (angle : Option Binary64) (payload : Bytes) : ReadFftData :=
  let values := fftValues 0 payload
  ⟨angle, some values.azimuth, some values.sweepCounter, some values.ntpSeconds,
    some values.ntpSplitSeconds, some (UInt16.ofNat values.data.length)⟩

/-- The azimuth of a sweep, by its frame. -/
def sweepAzimuth (f : Frame) : UInt16 := (fftValues 0 f.payload).azimuth

/-- What the frames have said so far. -/
structure History where
  connected : Bool
  /-- There has been a configuration. -/
  started : Bool
  encoderSize : UInt16
  /-- What is read of the latest configuration, or of an empty message. -/
  latest : ReadConfiguration
  /-- The azimuth of the last sweep. -/
  last : UInt16
  /-- How often the azimuth has fallen. -/
  falls : Nat

namespace History

/-- Before the first event. -/
def start : History := ⟨false, false, 0, ⟨none, none, none, none, none⟩, 0, 0⟩

/-- How often the azimuth has fallen, with this sweep. -/
def fallsWith (h : History) (f : Frame) : Nat :=
  if sweepAzimuth f < h.last then h.falls + 1 else h.falls

variable (x : Externals) (double : ExtRat → Binary64)

/-- A configuration is noted, and of a sweep its azimuth, and whether it has fallen. -/
def after (h : History) : Event → History
  | .connection connected => { h with connected := connected }
  | .received f =>
    if f.type = .configuration then
      { h with
        started := true
        encoderSize := (configurationValues (binSizeOf x f.payload) f.payload).encoderSize
        latest := configurationRead x double f.payload }
    else if f.type = .fftData then
      { h with last := sweepAzimuth f, falls := h.fallsWith f }
    else h

/-- Every fourth fall the configuration is published again. -/
def emits (h : History) : Event → List Seen
  | .connection _ => []
  | .received f =>
    if f.type = .configuration then
      (RadarClient.resumed h.started h.connected).map .request ++
        .configuration (configurationRead x double f.payload) ::
          (RadarClient.request h.connected .startFftData).map .request
    else if f.type = .fftData then
      (if sweepAzimuth f < h.last ∧ (h.falls + 1) % configPublishCount = 0 then
          [.configuration h.latest] else []) ++
        if 0 < h.fallsWith f then
          [.sweep (sweepRead (some (double (fftValues h.encoderSize f.payload).angle)) f.payload)
            (f.payload.drop 14)]
        else []
    else []

end History

/-! ## One event -/

/-- The node is as the history says. -/
structure Follows (st : ColossusNode) (h : History) : Prop where
  connected : st.client.connected = h.connected
  started : st.client.sendRadarData = h.started
  encoderSize : st.client.encoderSize = h.encoderSize
  fftSet : st.client.fftDataCallback = true
  configurationSet : st.client.configurationDataCallback = true
  noRaw : st.client.rawFftDataCallback = false
  noRawConfiguration : st.client.rawConfigurationDataCallback = false
  noHealth : st.client.healthDataCallback = false
  noNavigation : st.client.navigationDataCallback = false
  noNavigationConfig : st.client.navigationConfigCallback = false
  last : st.publisher.lastAzimuth = h.last.toNat
  rotatedOnce : st.publisher.rotatedOnce = decide (0 < h.falls)
  rotationCount : st.publisher.rotationCount = h.falls % configPublishCount
  latest : ColossusSubscriber.configurationDataCallback st.publisher.configMessage = h.latest

theorem follows_start : start.Follows .start :=
  ⟨rfl, rfl, rfl, rfl, rfl, rfl, rfl, rfl, rfl, rfl, rfl, rfl, rfl, rfl⟩

variable {st : ColossusNode} {h : History} {f : Frame} {r : ColossusNode × List Effect}

/-- What the client sends is a request for the radar. -/
theorem seen_send (frames : List Bytes) :
    (frames.map Effect.send).filterMap Effect.seen = frames.map .request := by
  rw [List.filterMap_map]
  exact congrFun List.filterMap_eq_map frames

/-- A configuration frame. -/
theorem follows_configuration (hc : st.Follows h) (htype : f.type = .configuration)
    (hstep : st.step x double (.received f) = .ok r) :
    r.1.Follows (h.after x double (.received f)) ∧
      r.2.filterMap Effect.seen = h.emits x double (.received f) := by
  obtain ⟨r₁, hdata, hr⟩ := bind_eq_ok.mp hstep
  obtain rfl := RadarClient.received_configuration hdata htype hc.configurationSet
    hc.noRawConfiguration
  have hafter : h.after x double (.received f) = _ := if_pos htype
  have hemits : h.emits x double (.received f) = _ := if_pos htype
  have hread := (ColossusSubscriber.readBack double
    (configurationValues (binSizeOf x f.payload) f.payload) lastSweep).1
  -- the client remembers a start and sends it again before the callback
  have hfirst (st' : ColossusNode) : Machine.run (handOut (x := x) double) st' _ =
      .ok (st', List.map Effect.send _) :=
    RadarClient.run_resumed (fun _ _ => rfl) st' st.client
  rw [run_append_of_ok (hfirst _), run_one] at hr
  obtain rfl := Except.ok.inj hr
  rw [hafter, hemits]
  refine ⟨⟨hc.connected, rfl, rfl, hc.fftSet, hc.configurationSet, hc.noRaw,
    hc.noRawConfiguration, hc.noHealth, hc.noNavigation, hc.noNavigationConfig, hc.last,
    hc.rotatedOnce, hc.rotationCount, hread⟩, ?_⟩
  have hresumed : RadarClient.resumed st.client.sendRadarData st.client.connected =
      RadarClient.resumed h.started h.connected := congrArg₂ _ hc.started hc.connected
  rw [List.filterMap_append, seen_send, hresumed]
  show _ ++ Seen.configuration (ColossusSubscriber.configurationDataCallback _) ::
    (RadarClient.sends Effect.send
      (st.client.sendSimpleNetworkMessage (x := x) .startFftData)).filterMap Effect.seen = _
  rw [hread, RadarClient.sends_request, seen_send, hc.connected]
  rfl

/-- The publisher, by the number of falls alone. -/
theorem fftDataHandler_eq (double : ExtRat → Binary64) {st : ColossusPublisher} {falls : Nat}
    (data : FftData) (honce : st.rotatedOnce = decide (0 < falls))
    (hcount : st.rotationCount = falls % configPublishCount) :
    st.fftDataHandler double data =
      if data.azimuth.toNat < st.lastAzimuth then
        ({ st with
            lastAzimuth := data.azimuth.toNat
            rotatedOnce := true
            rotationCount := (falls + 1) % configPublishCount },
          (if (falls + 1) % configPublishCount = 0 then
            [.configuration st.configMessage] else []) ++
            [.fftData (ColossusPublisher.fftDataMessage double data)])
      else
        ({ st with lastAzimuth := data.azimuth.toNat },
          if 0 < falls then [.fftData (ColossusPublisher.fftDataMessage double data)] else []) := by
  have h4 : configPublishCount = 4 := rfl
  unfold ColossusPublisher.fftDataHandler
  dsimp only
  by_cases hfall : data.azimuth.toNat < st.lastAzimuth
  · have hdue : falls % configPublishCount + 1 ≥ configPublishCount ↔
        (falls + 1) % configPublishCount = 0 := by
      rw [h4]
      omega
    rw [if_pos hfall, decide_eq_true hfall, if_pos rfl, hcount, decide_eq_decide.mpr hdue,
      Bool.or_true, if_pos rfl]
    by_cases hzero : (falls + 1) % configPublishCount = 0
    · rw [decide_eq_true hzero, if_pos rfl, if_pos rfl, if_pos hzero, hzero]
    · have hnext : falls % configPublishCount + 1 = (falls + 1) % configPublishCount := by
        rw [h4] at hzero ⊢
        omega
      rw [decide_eq_false hzero, if_neg Bool.false_ne_true, if_neg Bool.false_ne_true,
        if_neg hzero, hnext]
  · have hnotDue : ¬ falls % configPublishCount ≥ configPublishCount := by
      rw [h4]
      omega
    rw [if_neg hfall, decide_eq_false hfall, if_neg Bool.false_ne_true, hcount,
      decide_eq_false hnotDue, Bool.or_false, honce, if_neg Bool.false_ne_true,
      if_neg Bool.false_ne_true, List.nil_append, ← hcount, ← honce]
    simp only [honce, decide_eq_true_eq]

/-- A frame of FFT data. -/
theorem follows_fft (hc : st.Follows h) (htype : f.type = .fftData)
    (hstep : st.step x double (.received f) = .ok r) :
    r.1.Follows (h.after x double (.received f)) ∧
      r.2.filterMap Effect.seen = h.emits x double (.received f) := by
  obtain ⟨r₁, hdata, hr⟩ := bind_eq_ok.mp hstep
  obtain rfl := RadarClient.received_fft hdata htype hc.fftSet hc.noRaw
  rw [run_one] at hr
  obtain rfl := Except.ok.inj hr
  have hnot : ¬ f.type = .configuration := by
    rw [htype]
    decide
  have hafter : h.after x double (.received f) = _ := (if_neg hnot).trans (if_pos htype)
  have hemits : h.emits x double (.received f) = _ := (if_neg hnot).trans (if_pos htype)
  have hread := (ColossusSubscriber.readBack double fourByTwo
    (fftValues h.encoderSize f.payload)).2
  have hhandler := fftDataHandler_eq double
    (fftValues st.client.encoderSize f.payload) hc.rotatedOnce hc.rotationCount
  rw [hafter, hemits]
  show Follows ⟨st.client, (st.publisher.fftDataHandler double
      (fftValues st.client.encoderSize f.payload)).1⟩ _ ∧
    ((st.publisher.fftDataHandler double
      (fftValues st.client.encoderSize f.payload)).2.map Effect.publish).filterMap
        Effect.seen = _
  have hlt : (fftValues h.encoderSize f.payload).azimuth.toNat < st.publisher.lastAzimuth ↔
      sweepAzimuth f < h.last := by
    rw [hc.last]
    exact UInt16.lt_iff_toNat_lt.symm
  rw [hhandler, hc.encoderSize]
  unfold History.fallsWith
  by_cases hfall : sweepAzimuth f < h.last
  · rw [if_pos (hlt.mpr hfall), if_pos hfall]
    refine ⟨⟨hc.connected, hc.started, hc.encoderSize, hc.fftSet, hc.configurationSet, hc.noRaw,
      hc.noRawConfiguration, hc.noHealth, hc.noNavigation, hc.noNavigationConfig, rfl,
      (decide_eq_true (Nat.succ_pos _)).symm, rfl, hc.latest⟩, ?_⟩
    rw [List.map_append, List.filterMap_append, if_pos (Nat.succ_pos _)]
    refine congrArg₂ (· ++ ·) ?_ ?_
    · by_cases hdue : (h.falls + 1) % configPublishCount = 0
      · rw [if_pos hdue, if_pos ⟨hfall, hdue⟩, ← hc.latest]
        rfl
      · rw [if_neg hdue, if_neg fun hboth => hdue hboth.2]
        rfl
    · show [Seen.sweep (ColossusSubscriber.fftDataCallback _) _] = _
      rw [hread]
      rfl
  · have hnotDue : ¬ (sweepAzimuth f < h.last ∧ (h.falls + 1) % configPublishCount = 0) :=
      fun hboth => hfall hboth.1
    rw [if_neg fun hnat => hfall (hlt.mp hnat), if_neg hfall, if_neg hnotDue]
    refine ⟨⟨hc.connected, hc.started, hc.encoderSize, hc.fftSet, hc.configurationSet, hc.noRaw,
      hc.noRawConfiguration, hc.noHealth, hc.noNavigation, hc.noNavigationConfig, rfl,
      hc.rotatedOnce, hc.rotationCount, hc.latest⟩, ?_⟩
    by_cases hpos : 0 < h.falls
    · rw [if_pos hpos, if_pos hpos]
      show [Seen.sweep (ColossusSubscriber.fftDataCallback _) _] = _
      rw [hread]
      rfl
    · rw [if_neg hpos, if_neg hpos]
      rfl

theorem step_follows {e : Event} (hc : st.Follows h) (hstep : st.step x double e = .ok r) :
    r.1.Follows (h.after x double e) ∧ r.2.filterMap Effect.seen = h.emits x double e := by
  cases e with
  | connection connected =>
    obtain rfl := Except.ok.inj hstep
    exact ⟨{ hc with connected := rfl }, rfl⟩
  | received f =>
    by_cases hconfiguration : f.type = .configuration
    · exact follows_configuration hc hconfiguration hstep
    by_cases hfft : f.type = .fftData
    · exact follows_fft hc hfft hstep
    · have hother : st.client.handleData (x := x) f.bytes = .ok (st.client, []) :=
        RadarClient.received_other hconfiguration hfft (fun _ => hc.noNavigation) hc.noHealth
          hc.noNavigationConfig
      have hsame : st.step x double (.received f) = .ok (st, []) :=
        bind_eq_ok.mpr ⟨_, hother, rfl⟩
      have hafter : h.after x double (.received f) = h :=
        (if_neg hconfiguration).trans (if_neg hfft)
      have hemits : h.emits x double (.received f) = [] :=
        (if_neg hconfiguration).trans (if_neg hfft)
      rw [hsame] at hstep
      obtain rfl := Except.ok.inj hstep
      rw [hafter, hemits]
      exact ⟨hc, rfl⟩

/-! ## Runs -/

/-- The frames of FFT data. -/
def sweeps (events : List Event) : List Frame :=
  events.filterMap fun
    | .received f => if f.type = .fftData then some f else none
    | .connection _ => none

/-- The sweeps from the first one on whose azimuth lies before the one before it. -/
def fromFirstFall (last : UInt16) : List Frame → List Frame
  | [] => []
  | f :: frames =>
    if sweepAzimuth f < last then f :: frames else fromFirstFall (sweepAzimuth f) frames

/-- A sweep on the topic, without its angle. -/
def Seen.sweepOnly : Seen → Option (ReadFftData × Bytes)
  | .sweep values data => some ({ values with angle := none }, data)
  | _ => none

/-- What is seen of a sweep, without its angle. -/
def sweepSeen (f : Frame) : ReadFftData × Bytes := (sweepRead none f.payload, f.payload.drop 14)

/-- A frame of FFT data, and whether it is published. -/
theorem emits_sweep (h : History) (hfft : f.type = .fftData) :
    (h.emits x double (.received f)).filterMap Seen.sweepOnly =
      if 0 < h.fallsWith f then [sweepSeen f] else [] := by
  have hnot : ¬ f.type = .configuration := by
    rw [hfft]
    decide
  have hemits : h.emits x double (.received f) = _ := (if_neg hnot).trans (if_pos hfft)
  rw [hemits, List.filterMap_append]
  split
  · split
    · rfl
    · rfl
  · split
    · rfl
    · rfl

/-- Any other event. -/
theorem emits_other (x : Externals) (double : ExtRat → Binary64) (h : History) {e : Event}
    (hother : sweeps [e] = []) :
    (h.after x double e).last = h.last ∧ (h.after x double e).falls = h.falls ∧
      (h.emits x double e).filterMap Seen.sweepOnly = [] := by
  cases e with
  | connection connected => exact ⟨rfl, rfl, rfl⟩
  | received f =>
    have hfft : ¬ f.type = .fftData := by
      intro hfft
      unfold sweeps at hother
      simp [hfft] at hother
    have hrequest (frames : List Bytes) :
        (frames.map Seen.request).filterMap Seen.sweepOnly = [] := by
      rw [List.filterMap_map]
      exact List.filterMap_eq_nil_iff.mpr fun _ _ => rfl
    by_cases hconfiguration : f.type = .configuration
    · have hafter : h.after x double (.received f) = _ := if_pos hconfiguration
      have hemits : h.emits x double (.received f) = _ := if_pos hconfiguration
      rw [hafter, hemits, List.filterMap_append, hrequest, List.nil_append]
      exact ⟨rfl, rfl, hrequest _⟩
    · have hafter : h.after x double (.received f) = h :=
        (if_neg hconfiguration).trans (if_neg hfft)
      have hemits : h.emits x double (.received f) = [] :=
        (if_neg hconfiguration).trans (if_neg hfft)
      rw [hafter, hemits]
      exact ⟨rfl, rfl, rfl⟩

theorem sweepOnly_trace (events : List Event) (h : History) :
    (trace (History.after x double) (History.emits x double) h events).filterMap Seen.sweepOnly =
      (if 0 < h.falls then sweeps events else fromFirstFall h.last (sweeps events)).map
        sweepSeen := by
  induction events generalizing h with
  | nil =>
    split
    · rfl
    · rfl
  | cons e events ih =>
    have hsplit : sweeps (e :: events) = sweeps [e] ++ sweeps events :=
      List.filterMap_append (l := [e])
    rw [trace, List.filterMap_append, ih, hsplit]
    by_cases hfft : ∃ f, e = .received f ∧ f.type = .fftData
    · obtain ⟨f, rfl, hfft⟩ := hfft
      have hnot : ¬ f.type = .configuration := by
        rw [hfft]
        decide
      have hafter : h.after x double (.received f) =
          { h with last := sweepAzimuth f, falls := h.fallsWith f } :=
        (if_neg hnot).trans (if_pos hfft)
      have hone : sweeps [.received f] = [f] := by
        unfold sweeps
        simp [hfft]
      rw [emits_sweep h hfft, hafter, hone, List.singleton_append, fromFirstFall]
      unfold History.fallsWith
      by_cases hfall : sweepAzimuth f < h.last
      · rw [if_pos hfall, if_pos hfall, if_pos (Nat.succ_pos _), if_pos (Nat.succ_pos _), ite_self]
        rfl
      · rw [if_neg hfall, if_neg hfall]
        by_cases hpos : 0 < h.falls
        · rw [if_pos hpos, if_pos hpos, if_pos hpos]
          rfl
        · rw [if_neg hpos, if_neg hpos, if_neg hpos]
          rfl
    · have hnone : sweeps [e] = [] := by
        cases e with
        | connection connected => rfl
        | received f =>
          unfold sweeps
          simp only [List.filterMap_cons, List.filterMap_nil, if_neg fun h => hfft ⟨f, rfl, h⟩]
      obtain ⟨hlast, hfalls, hemits⟩ := emits_other x double h hnone
      rw [hemits, hlast, hfalls, hnone]
      rfl

/-- **The ROS node.** Over every run, what the radar and a subscriber see is what the frames
    say: a start for each configuration that arrives while connected, and from the second one
    on another; each configuration, and the latest again at every fourth fall of the azimuth;
    and the sweeps from the first fall on, each with the angle of the latest configuration. So
    no sweep behind the first fall is lost, doubled or out of order. -/
theorem node_follows {events : List Event} {r : ColossusNode × List Effect}
    (hrun : Machine.run (step x double) start events = .ok r) :
    r.2.filterMap Effect.seen =
        trace (History.after x double) (History.emits x double) .start events ∧
      (r.2.filterMap Effect.seen).filterMap Seen.sweepOnly =
        (fromFirstFall 0 (sweeps events)).map sweepSeen := by
  obtain ⟨-, hseen⟩ := run_trace hrun follows_start step_follows
  refine ⟨hseen, ?_⟩
  rw [hseen, sweepOnly_trace]
  rfl

/-- A sweep at azimuth 50. -/
def earlierFrame : Frame := ⟨30, [0, 0, 0, 0, 0, 50, 0, 0, 0, 0, 0, 0, 0, 0, 7], by decide⟩

/-- The azimuth falls with the second sweep, which is the first on the topic. -/
theorem node_follows_two :
    ∃ r, Machine.run (step .unparsed fun _ => ⟨0⟩) start [.connection true,
        .received RadarClient.configurationFrame, .received RadarClient.fftFrame,
        .received earlierFrame] = .ok r ∧
      (r.2.filterMap Effect.seen).filterMap Seen.sweepOnly = [sweepSeen earlierFrame] := by
  obtain ⟨r, hr⟩ : ∃ r, Machine.run (step .unparsed fun _ => ⟨0⟩) start [.connection true,
      .received RadarClient.configurationFrame, .received RadarClient.fftFrame,
      .received earlierFrame] = .ok r := ⟨_, rfl⟩
  exact ⟨r, hr, (node_follows hr).2⟩

end ColossusNode

end Ros

end Navtech
