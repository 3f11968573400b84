/-
  Both SDKs in one program: `RadarClient` of `cpp/radarclient.cpp` and `Radar_client` of
  `cpp_17/network/radar_client.cpp`, given the same calls and the same frames.

  The events are frames, changes of the connection, the three callbacks that both have, the
  streams and the threshold. The two commands whose numbers are computed in `float` and `double`
  are not among them: the SDKs scale a contour map by bin sizes of their own. `seen` is what is
  compared; of a configuration this is neither the bin size, which the first SDK takes from the
  header and the second from the protocol buffer, nor what only the second hands out. Ranges are
  compared as the `float` that both keep.

  The first SDK takes a configuration frame whether or not a callback is set, the second one
  only for a callback. Where one is set whenever such a frame comes, the two clients hand out
  the same, or both fail on the same frame (`same_values`).
-/
import Navtech.Legacy.Handlers
import Navtech.Lib.Machine
import Navtech.Network.Angles
import Navtech.Network.ParseSafety
import Navtech.Network.Requests

namespace Navtech.Legacy

open ByteOrder PackedRecord CheckedView Machine Navtech.Utility
open Navtech.Network (Bytes MessageType Message frameBytes)
open Navtech.RadarClient (fftData_frame navigationData_frame storedPeak takeConfiguration_frame)

variable {x : Externals}

/-! ## Events -/

/-- What happens to both clients. -/
inductive Shared where
  | received (f : Network.Frame)
  | connection (connected : Bool)
  | setFFTDataCallback (fn : Bool)
  | setNavigationDataCallback (fn : Bool)
  | setConfigurationDataCallback (fn : Bool)
  | startFFTData
  | stopFFTData
  | startNavigationData
  | stopNavigationData
  | setNavigationThreshold (threshold : UInt16)

/-- The event of the first client. -/
def Shared.event : Shared → Event
  | .received f => .received (.of f)
  | .connection connected => .connection connected
  | .setFFTDataCallback fn => .setFFTDataCallback fn
  | .setNavigationDataCallback fn => .setNavigationDataCallback fn
  | .setConfigurationDataCallback fn => .setConfigurationDataCallback fn
  | .startFFTData => .startFFTData
  | .stopFFTData => .stopFFTData
  | .startNavigationData => .startNavigationData
  | .stopNavigationData => .stopNavigationData
  | .setNavigationThreshold threshold => .setNavigationThreshold threshold

namespace Client

/-- The first client, at an event of both. -/
def first (c : Client) (e : Shared) : Except Fault (Client × List Output) := c.step e.event

/-- A configuration frame meets a callback. -/
def Listens (c : Client) : Shared → Prop
  | .received f => f.type = .configuration → c.configurationDataCallback = true
  | _ => True

end Client

/-- The second client. -/
def second (c : Navtech.RadarClient) :
    Shared → Except Fault (Navtech.RadarClient × List (Navtech.Output x))
  | .received f => c.step (.received f)
  | .connection connected => c.step (.connection connected)
  | .setFFTDataCallback fn => c.step (.setFftDataCallback fn)
  | .setNavigationDataCallback fn => c.step (.setNavigationDataCallback fn)
  | .setConfigurationDataCallback fn => c.step (.setConfigurationDataCallback fn)
  | .startFFTData => c.step .startFftData
  | .stopFFTData => c.step .stopFftData
  | .startNavigationData => c.step .startNavigationData
  | .stopNavigationData => c.step .stopNavigationData
  | .setNavigationThreshold threshold => .ok (c.setNavigationThreshold threshold)

/-! ## What is compared -/

/-- What both SDKs hand out. -/
inductive Value where
  | send (data : Bytes)
  | fftData (data : Navtech.FftData)
  | navigationData (data : Navtech.NavigationData)
  | configurationData (azimuthSamples encoderSize rangeInBins expectedRotationRate : UInt16)
deriving DecidableEq

/-- What of an output is compared. -/
def Output.seen : Output → Option Value
  | .send data => some (.send data)
  | .fftData data => some (.fftData data)
  | .navigationData data => some (.navigationData data)
  | .configurationData data => some (.configurationData data.azimuthSamples data.encoderSize
      data.rangeInBins data.expectedRotationRate)

/-- The same of the second client, a range as it is kept. -/
def seen : Navtech.Output x → Option Value
  | .send data => some (.send data)
  | .fftData data => some (.fftData data)
  | .navigationData data =>
    some (.navigationData { data with peaks := data.peaks.map storedPeak })
  | .configurationData data _ => some (.configurationData data.azimuthSamples data.encoderSize
      data.rangeInBins data.expectedRotationRate)
  | _ => none

/-- The clients agree on all that both have, and the second one's other callbacks are not set. -/
structure Alike (c : Client) (d : Navtech.RadarClient) : Prop where
  connected : c.connected = d.connected
  sendRadarData : c.sendRadarData = d.sendRadarData
  fftDataCallback : c.fftDataCallback = d.fftDataCallback
  navigationDataCallback : c.navigationDataCallback = d.navigationDataCallback
  configurationDataCallback : c.configurationDataCallback = d.configurationDataCallback
  encoderSize : c.encoderSize = d.encoderSize
  noRaw : d.rawFftDataCallback = false
  noRawConfiguration : d.rawConfigurationDataCallback = false
  noHealth : d.healthDataCallback = false
  noNavigationConfig : d.navigationConfigCallback = false

theorem alike_new : Alike .new .new := ⟨rfl, rfl, rfl, rfl, rfl, rfl, rfl, rfl, rfl, rfl⟩

/-- Both clients, after one event. -/
abbrev SameStep (a : Except Fault (Client × List Output))
    (b : Except Fault (Navtech.RadarClient × List (Navtech.Output x))) : Prop :=
  Matches Alike Output.seen seen a b

/-! ## One frame -/

section Received

variable {c : Client} {d : Navtech.RadarClient} {f : Network.Frame}

/-- A client that does nothing with a frame, twice. -/
theorem sameStep_nothing (h : Alike c d) :
    SameStep (.ok (c, [])) (.ok (d, ([] : List (Navtech.Output x)))) := matches_ok h rfl

theorem sameStep_configuration (h : Alike c d) (hset : c.configurationDataCallback = true) :
    SameStep (c.handleConfigurationMessage (messageOf (.of f)))
      (d.handleConfigurationMessage (x := x) (.ofBuffer f.bytes)) := by
  have hset' : d.configurationDataCallback = true := h.configurationDataCallback ▸ hset
  by_cases hlen : 20 ≤ f.payload.length
  · rw [c.received_configuration (f := .of f) hlen]
    unfold Navtech.RadarClient.handleConfigurationMessage
    rw [if_pos hset', Message.ofBuffer, takeConfiguration_frame d hlen]
    simp only [bind, Except.bind, h.noRawConfiguration, Bool.false_eq_true, if_false]
    refine matches_ok ⟨h.connected, h.sendRadarData, h.fftDataCallback, h.navigationDataCallback,
      h.configurationDataCallback, rfl, h.noRaw, rfl, h.noHealth, h.noNavigationConfig⟩ ?_
    unfold Client.answers
    rw [Navtech.RadarClient.sendSimpleNetworkMessage_eq, if_pos hset, ← h.sendRadarData,
      ← h.connected]
    cases c.sendRadarData with
    | false => rfl
    | true =>
      cases c.connected with
      | false => rfl
      | true => rfl
  · refine matches_of_not_succeeds (c.received_configuration_short (f := .of f) hlen) fun hs => hlen ?_
    exact (Navtech.RadarClient.succeeds_handleConfigurationMessage (payload_lt (.of f))).mp hs hset'

theorem sameStep_fft (h : Alike c d) :
    SameStep (c.handleFFTDataMessage (messageOf (.of f)))
      (d.handleFftDataMessage (x := x) (.ofBuffer f.bytes)) := by
  have hset' : d.fftDataCallback = c.fftDataCallback := h.fftDataCallback.symm
  by_cases hset : c.fftDataCallback = true
  · rw [hset] at hset'
    by_cases hlen : 14 ≤ f.payload.length
    · have hdata := fftData_frame (t := f.type) d.encoderSize hlen (payload_lt (.of f))
      rw [c.received_fft (f := .of f) hset hlen, h.encoderSize]
      unfold Navtech.RadarClient.handleFftDataMessage
      rw [if_pos hset', Message.ofBuffer, Network.Frame.bytes, hdata]
      simp only [bind, Except.bind, Except.map, h.noRaw, Bool.false_eq_true, if_false]
      exact matches_ok h rfl
    · refine matches_of_not_succeeds (c.received_fft_short (f := .of f) hset hlen) fun hs => hlen ?_
      exact (Navtech.RadarClient.succeeds_handleFftDataMessage (payload_lt (.of f))).mp hs hset'
  · unfold Client.handleFFTDataMessage Navtech.RadarClient.handleFftDataMessage
    rw [if_pos hset, if_neg (hset' ▸ hset)]
    simp only [bind, Except.bind, h.noRaw, Bool.false_eq_true, if_false]
    exact sameStep_nothing h

theorem sameStep_navigation (h : Alike c d) :
    SameStep (c.handleNavigationDataMessage (messageOf (.of f)))
      (d.handleNavigationDataMessage (x := x) (.ofBuffer f.bytes)) := by
  have hset' : d.navigationDataCallback = c.navigationDataCallback :=
    h.navigationDataCallback.symm
  unfold Navtech.RadarClient.handleNavigationDataMessage
  by_cases hset : c.navigationDataCallback = true
  · rw [if_pos (hset'.trans hset), Message.ofBuffer, Network.Frame.bytes]
    by_cases hlen : 10 ≤ f.payload.length
    · obtain ⟨records, extra, htargets, hextra⟩ :=
        Navtech.RadarClient.exists_records (f.payload.drop 10)
      have hdata := navigationData_frame (t := f.type) d.encoderSize hlen (payload_lt (.of f)) htargets
        hextra
      have hpeaks : Client.navigationValues d.encoderSize f.payload records =
          { Navtech.RadarClient.navigationValues d.encoderSize f.payload records with
            peaks := (records.map Navtech.RadarClient.peak).map storedPeak } := by
        rw [Navtech.RadarClient.map_storedPeak]
        rfl
      rw [c.received_navigation (f := .of f) hset hlen htargets hextra, h.encoderSize, hdata]
      exact matches_ok h (congrArg (fun data => [Value.navigationData data]) hpeaks)
    · refine matches_of_not_succeeds (c.received_navigation_short (f := .of f) hset hlen)
        fun hs => hlen ?_
      obtain ⟨r, hr⟩ := hs
      obtain ⟨data, hdata, -⟩ := bind_eq_ok.mp hr
      exact (Navtech.RadarClient.succeeds_navigationData _ (payload_lt (.of f))).mp ⟨data, hdata⟩
  · unfold Client.handleNavigationDataMessage
    rw [if_pos hset, if_neg (hset' ▸ hset)]
    exact sameStep_nothing h

/-- One frame, of any type. -/
theorem sameStep_received (h : Alike c d) (hlistens : c.Listens (.received f)) :
    SameStep (c.handleData (messageOf (.of f))) (d.handleData (x := x) f.bytes) := by
  by_cases hconfiguration : f.type = .configuration
  · have hfirst : c.handleData (messageOf (.of f)) = _ := if_pos hconfiguration
    have hsecond : d.handleData (x := x) f.bytes = _ := if_pos hconfiguration
    rw [hfirst, hsecond]
    exact sameStep_configuration h (hlistens hconfiguration)
  by_cases hfft : f.type = .fftData
  · have hfirst : c.handleData (messageOf (.of f)) = _ := (if_neg hconfiguration).trans (if_pos hfft)
    have hsecond : d.handleData (x := x) f.bytes = _ :=
      (if_neg hconfiguration).trans (if_pos hfft)
    rw [hfirst, hsecond]
    exact sameStep_fft h
  by_cases hnavigation : f.type = .navigationData
  · have hfirst : c.handleData (messageOf (.of f)) = _ :=
      (if_neg hconfiguration).trans ((if_neg hfft).trans (if_pos hnavigation))
    have hsecond : d.handleData (x := x) f.bytes = _ :=
      (if_neg hconfiguration).trans ((if_neg hfft).trans (if_pos hnavigation))
    rw [hfirst, hsecond]
    exact sameStep_navigation h
  · have hfirst : c.handleData (messageOf (.of f)) = .ok (c, []) :=
      (if_neg hconfiguration).trans ((if_neg hfft).trans (if_neg hnavigation))
    rw [hfirst, Navtech.RadarClient.received_other hconfiguration hfft
      (fun htype => absurd htype hnavigation) h.noHealth h.noNavigationConfig]
    exact sameStep_nothing h

end Received

/-! ## Runs -/

/-- A command that is a header alone. -/
theorem seen_simple {c : Client} {d : Navtech.RadarClient} (h : c.connected = d.connected)
    (type : UInt8) :
    ((c.sendSimpleNetworkMessage type).map Output.send).filterMap Output.seen =
      (d.sendSimpleNetworkMessage (x := x) type).filterMap seen := by
  rw [RadarClient.sendSimpleNetworkMessage_eq, Navtech.RadarClient.sendSimpleNetworkMessage_eq, ← h]
  cases c.connected with
  | false => rfl
  | true => rfl

theorem seen_threshold {c : Client} {d : Navtech.RadarClient} (h : c.connected = d.connected)
    (threshold : UInt16) :
    ((c.toRadarClient.setNavigationThreshold threshold).2.map Output.send).filterMap Output.seen =
      (d.setNavigationThreshold (x := x) threshold).2.filterMap seen := by
  rw [RadarClient.setNavigationThreshold_eq]
  cases hc : d.connected with
  | false =>
    rw [h, hc]
    unfold Navtech.RadarClient.setNavigationThreshold
    rw [hc]
    rfl
  | true =>
    rw [h, hc, Navtech.RadarClient.setNavigationThreshold_sent hc]
    rfl

theorem setNavigationThreshold_state (d : Navtech.RadarClient) (threshold : UInt16) :
    (d.setNavigationThreshold (x := x) threshold).1 = d := by
  unfold Navtech.RadarClient.setNavigationThreshold
  split
  · rfl
  · rfl

theorem sameStep {c : Client} {d : Navtech.RadarClient} {e : Shared} (h : Alike c d)
    (hlistens : c.Listens e) : SameStep (c.first e) (second (x := x) d e) := by
  cases e with
  | received f => exact sameStep_received h hlistens
  | connection connected => exact matches_ok { h with connected := rfl } rfl
  | setFFTDataCallback fn => exact matches_ok { h with fftDataCallback := rfl } rfl
  | setNavigationDataCallback fn => exact matches_ok { h with navigationDataCallback := rfl } rfl
  | setConfigurationDataCallback fn =>
    exact matches_ok { h with configurationDataCallback := rfl } rfl
  | startFFTData => exact matches_ok { h with sendRadarData := rfl } (seen_simple h.connected 21)
  | stopFFTData => exact matches_ok { h with sendRadarData := rfl } (seen_simple h.connected 22)
  | startNavigationData => exact matches_ok h (seen_simple h.connected 120)
  | stopNavigationData => exact matches_ok h (seen_simple h.connected 121)
  | setNavigationThreshold threshold =>
    refine ⟨?_, seen_threshold h.connected threshold⟩
    rw [setNavigationThreshold_state]
    exact h

/-- **Both SDKs hand out the same.** Over every run of frames and calls that both have, the two
    that compute in `float` and `double` apart, in which a configuration frame always meets a
    configuration callback, the clients send the same messages and call back with the same FFT
    data, navigation data and configurations, in the same order, or both read past the end of a
    frame. -/
theorem same_values {events : List Shared}
    (hlistens : Allowed Client.first Client.Listens .new events) :
    (Machine.run Client.first .new events).toOption.map (fun r => r.2.filterMap Output.seen) =
      (Machine.run (second (x := x)) .new events).toOption.map fun r => r.2.filterMap seen :=
  (run_matches sameStep alike_new hlistens).observed

/-- A configuration for a callback, and a sweep. -/
theorem same_values_sweep :
    (Machine.run Client.first .new [.setConfigurationDataCallback true, .setFFTDataCallback true,
        .connection true, .startFFTData, .received Navtech.RadarClient.configurationFrame,
        .received Navtech.RadarClient.fftFrame]).toOption.map
          (fun r => r.2.filterMap Output.seen) =
      (Machine.run (second (x := .unparsed)) .new [.setConfigurationDataCallback true,
        .setFFTDataCallback true, .connection true, .startFFTData,
        .received Navtech.RadarClient.configurationFrame,
        .received Navtech.RadarClient.fftFrame]).toOption.map fun r => r.2.filterMap seen :=
  same_values (allowed_cons trivial rfl (allowed_cons trivial rfl (allowed_cons trivial rfl
    (allowed_cons trivial rfl (allowed_cons (fun _ => rfl) rfl (allowed_cons (fun _ => rfl) rfl
      trivial))))))

end Navtech.Legacy
