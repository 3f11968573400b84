/-
  Configuration frames and the first SDK, `RadarClient` of `cpp/radarclient.cpp`.

  `HandleConfigurationMessage` keeps the values and starts the stream again before it looks for
  a callback. So what is sent over a run follows from the calls and the frames alone, whatever
  callbacks are set: every configuration frame that arrives while connected and after a start
  of the stream is answered with a start, and a contour map is scaled by the bin size of the
  latest configuration frame (`run_follows`). And the angles are always those for the latest
  configuration frame. The second SDK does this only for a callback.

  The numbers in a contour map and in gain and offset are those of the machine.
-/
import Navtech.Legacy.Handlers
import Navtech.Lib.Machine
import Navtech.Network.Angles

namespace Navtech.Legacy

open ByteOrder CheckedView Machine
open Navtech.Network (Bytes frameBytes)

/-- What the calls and the frames say of the client. -/
structure History where
  /-- The last call for FFT data was a start. -/
  wanted : Bool
  connected : Bool
  /-- The encoder size of the latest configuration frame, or the initial 0. -/
  encoderSize : UInt16
  /-- And its bin size. -/
  binSize : UInt16
deriving DecidableEq, Repr

namespace History

/-- Nothing has happened. -/
def start : History := ⟨false, false, 0, 0⟩

/-- The history with an event more. -/
def after (h : History) : Event → History
  | .startFFTData => { h with wanted := true }
  | .stopFFTData => { h with wanted := false }
  | .connection connected => { h with connected := connected }
  | .received f =>
    if f.type = .configuration then
      { h with encoderSize := wordAt f.payload 6, binSize := wordAt f.payload 2 }
    else h
  | _ => h

/-- The payload of a command, sent if there is a connection. -/
def commanded (h : History) (type : CNDPNetworkDataMessageType) (payload : Bytes) : List Bytes :=
  if h.connected then [frameBytes type payload] else []

/-- What is sent at an event. -/
def sends (h : History) : Event → List Bytes
  | .startFFTData => h.commanded 21 []
  | .stopFFTData => h.commanded 22 []
  | .startNavigationData => h.commanded 120 []
  | .stopNavigationData => h.commanded 121 []
  | .setNavigationThreshold threshold => h.commanded 122 (beBytes 2 threshold.toNat)
  | .setNavigationGainAndOffset gain offset =>
    h.commanded 124 (beBytes 4 (gain * 1000000).toUInt32.toNat ++
      beBytes 4 (offset * 1000000).toUInt32.toNat)
  | .updateContourMap contourData =>
    h.commanded 50 (RadarClient.contour h.binSize contourData)
  | .received f => if f.type = .configuration ∧ h.wanted then h.commanded 21 [] else []
  | _ => []

end History

/-- The bytes of an output that goes to `TcpRadarClient::Send`. -/
def Output.sent : Output → Option Bytes
  | .send data => some data
  | _ => none

/-- The azimuth and the angle of an output that has them. -/
def Output.swept : Output → Option (UInt16 × ExtRat)
  | .fftData data => some (data.azimuth, data.angle)
  | .navigationData data => some (data.azimuth, data.angle)
  | _ => none

/-- Every angle among the outputs is the one for this encoder size. -/
def AnglesBy (encoderSize : UInt16) (out : List Output) : Prop :=
  ∀ o ∈ out, ∀ azimuth θ, o.swept = some (azimuth, θ) →
    θ = Navtech.RadarClient.angle azimuth encoderSize

namespace Client

/-- The client is as the history says. -/
structure Follows (c : Client) (h : History) : Prop where
  wanted : c.sendRadarData = h.wanted
  connected : c.connected = h.connected
  encoderSize : c.encoderSize = h.encoderSize
  binSize : c.binSize = h.binSize

theorem follows_new : new.Follows .start := ⟨rfl, rfl, rfl, rfl⟩

variable {c : Client} {h : History} {f : Frame} {r : Client × List Output}

/-! ## One frame -/

/-- What a frame that is not a configuration makes of the client: nothing but outputs for a
    callback. -/
structure Quiet (c : Client) (r : Client × List Output) : Prop where
  state : r.1 = c
  silent : r.2.filterMap Output.sent = []
  angles : AnglesBy c.encoderSize r.2

theorem quiet_nothing (c : Client) : c.Quiet (c, []) :=
  ⟨rfl, rfl, fun _ ho => absurd ho List.not_mem_nil⟩

theorem quiet_fft (hfft : c.handleFFTDataMessage (messageOf f) = .ok r) : c.Quiet r := by
  by_cases hset : c.fftDataCallback = true
  · by_cases hlen : FftDataHeader.headerLength ≤ f.payload.length
    · rw [c.received_fft hset hlen] at hfft
      obtain rfl := Except.ok.inj hfft
      refine ⟨rfl, rfl, fun o ho azimuth θ hswept => ?_⟩
      obtain rfl := List.mem_singleton.mp ho
      obtain ⟨rfl, rfl⟩ := Prod.mk.inj (Option.some.inj hswept)
      rfl
    · exact absurd ⟨r, hfft⟩ (c.received_fft_short hset hlen)
  · have hnone : c.handleFFTDataMessage (messageOf f) = .ok (c, []) := if_pos hset
    rw [hnone] at hfft
    obtain rfl := Except.ok.inj hfft
    exact quiet_nothing c

theorem quiet_navigation (hnavigation : c.handleNavigationDataMessage (messageOf f) = .ok r) :
    c.Quiet r := by
  by_cases hset : c.navigationDataCallback = true
  · by_cases hlen : 10 ≤ f.payload.length
    · obtain ⟨records, extra, htargets, hextra⟩ :=
        Navtech.RadarClient.exists_records (f.payload.drop 10)
      rw [c.received_navigation hset hlen htargets hextra] at hnavigation
      obtain rfl := Except.ok.inj hnavigation
      refine ⟨rfl, rfl, fun o ho azimuth θ hswept => ?_⟩
      obtain rfl := List.mem_singleton.mp ho
      obtain ⟨rfl, rfl⟩ := Prod.mk.inj (Option.some.inj hswept)
      rfl
    · exact absurd ⟨r, hnavigation⟩ (c.received_navigation_short hset hlen)
  · have hnone : c.handleNavigationDataMessage (messageOf f) = .ok (c, []) := if_pos hset
    rw [hnone] at hnavigation
    obtain rfl := Except.ok.inj hnavigation
    exact quiet_nothing c

theorem quiet_other (hother : ¬ f.type = .configuration)
    (hdata : c.handleData (messageOf f) = .ok r) : c.Quiet r := by
  have hrest : c.handleData (messageOf f) = _ := if_neg hother
  rw [hrest] at hdata
  by_cases hfft : f.type = .fftData
  · exact quiet_fft ((if_pos hfft).symm.trans hdata)
  by_cases hnavigation : f.type = .navigationData
  · exact quiet_navigation ((if_pos hnavigation).symm.trans ((if_neg hfft).symm.trans hdata))
  · have hnone := (if_neg hnavigation).symm.trans ((if_neg hfft).symm.trans hdata)
    obtain rfl := Except.ok.inj hnone
    exact quiet_nothing c

/-- A configuration frame that the client has taken. -/
theorem configuration_ok (htype : f.type = .configuration)
    (hdata : c.handleData (messageOf f) = .ok r) :
    r = (c.keeping f.payload, c.answers f.payload) ∧
      ConfigurationHeader.headerLength ≤ f.payload.length := by
  have hfirst : c.handleData (messageOf f) = c.handleConfigurationMessage (messageOf f) :=
    if_pos htype
  rw [hfirst] at hdata
  by_cases hlen : ConfigurationHeader.headerLength ≤ f.payload.length
  · rw [c.received_configuration hlen] at hdata
    exact ⟨(Except.ok.inj hdata).symm, hlen⟩
  · exact absurd ⟨r, hdata⟩ (c.received_configuration_short hlen)

/-- The sizes that are kept are those of the frame. -/
theorem follows_keeping (hc : c.Follows h) (htype : f.type = .configuration)
    (hlen : ConfigurationHeader.headerLength ≤ f.payload.length) :
    (c.keeping f.payload).Follows (h.after (.received f)) := by
  have hlen' : 20 ≤ f.payload.length := hlen
  have hafter : h.after (.received f) =
      { h with encoderSize := wordAt f.payload 6, binSize := wordAt f.payload 2 } := if_pos htype
  rw [hafter]
  exact ⟨hc.wanted, hc.connected, ntohs_uint16Member (by omega), ntohs_uint16Member (by omega)⟩

theorem sent_answers (payload : Bytes) (hc : c.Follows h) :
    (c.answers payload).filterMap Output.sent = if h.wanted then h.commanded 21 [] else [] := by
  unfold answers History.commanded
  rw [← hc.wanted, ← hc.connected, List.filterMap_append]
  have hlast : (if c.configurationDataCallback then
      [Output.configurationData (c.keeping payload).configurationData] else []).filterMap
        Output.sent = [] := by
    split
    · rfl
    · rfl
  rw [hlast, List.append_nil]
  cases c.sendRadarData with
  | false => rfl
  | true =>
    cases c.connected with
    | false => rfl
    | true => rfl

theorem angles_answers (payload : Bytes) (encoderSize : UInt16) :
    AnglesBy encoderSize (c.answers payload) := by
  intro o ho azimuth θ hswept
  rcases List.mem_append.mp ho with ho | ho
  · split at ho
    · obtain rfl := List.mem_singleton.mp ho
      cases hswept
    · cases ho
  · split at ho
    · obtain rfl := List.mem_singleton.mp ho
      cases hswept
    · cases ho

/-! ## Runs -/

theorem received_follows (hc : c.Follows h) (hdata : c.handleData (messageOf f) = .ok r) :
    r.1.Follows (h.after (.received f)) ∧
      r.2.filterMap Output.sent = h.sends (.received f) ∧ AnglesBy h.encoderSize r.2 := by
  by_cases htype : f.type = .configuration
  · obtain ⟨rfl, hlen⟩ := configuration_ok htype hdata
    refine ⟨follows_keeping hc htype hlen, ?_, angles_answers _ _⟩
    show _ = if f.type = .configuration ∧ h.wanted then h.commanded 21 [] else []
    rw [sent_answers f.payload hc]
    simp only [htype, true_and]
  · have hquiet := quiet_other htype hdata
    have hafter : h.after (.received f) = h := if_neg htype
    refine ⟨?_, ?_, hc.encoderSize ▸ hquiet.angles⟩
    · rw [hquiet.state, hafter]
      exact hc
    · show _ = if f.type = .configuration ∧ h.wanted then h.commanded 21 [] else []
      rw [hquiet.silent, if_neg fun hboth => htype hboth.1]

/-- A command with a payload, from what it hands to `Send`. -/
theorem sent_commanded (hc : c.Follows h) {type : CNDPNetworkDataMessageType} {payload : Bytes}
    {sent : List Bytes} (hsent : sent = if c.connected then [frameBytes type payload] else []) :
    (sent.map Output.send).filterMap Output.sent = h.commanded type payload := by
  unfold History.commanded
  rw [hsent, ← hc.connected]
  split
  · rfl
  · rfl

/-- A command that is a header alone. -/
theorem sent_simple (hc : c.Follows h) (type : CNDPNetworkDataMessageType) :
    ((c.sendSimpleNetworkMessage type).map Output.send).filterMap Output.sent =
      h.commanded type [] :=
  sent_commanded hc (RadarClient.sendSimpleNetworkMessage_eq _ type)

theorem sent_contour (hc : c.Follows h) (contourData : Bytes) :
    ((c.toRadarClient.updateContourMap contourData).2.map Output.send).filterMap Output.sent =
      h.commanded 50 (RadarClient.contour h.binSize contourData) := by
  rw [← hc.binSize]
  exact sent_commanded hc (c.toRadarClient.updateContourMap_eq contourData)

theorem step_follows {e : Event} (hc : c.Follows h) (hstep : c.step e = .ok r) :
    r.1.Follows (h.after e) ∧ r.2.filterMap Output.sent = h.sends e := by
  cases e with
  | received f => exact (received_follows hc hstep).imp_right And.left
  | startFFTData =>
    obtain rfl := Except.ok.inj hstep
    exact ⟨⟨rfl, hc.connected, hc.encoderSize, hc.binSize⟩, sent_simple hc _⟩
  | stopFFTData =>
    obtain rfl := Except.ok.inj hstep
    exact ⟨⟨rfl, hc.connected, hc.encoderSize, hc.binSize⟩, sent_simple hc _⟩
  | startNavigationData | stopNavigationData =>
    obtain rfl := Except.ok.inj hstep
    exact ⟨hc, sent_simple hc _⟩
  | setNavigationThreshold threshold =>
    obtain rfl := Except.ok.inj hstep
    exact ⟨hc, sent_commanded hc (c.toRadarClient.setNavigationThreshold_eq threshold)⟩
  | setNavigationGainAndOffset gain offset =>
    obtain rfl := Except.ok.inj hstep
    exact ⟨hc, sent_commanded hc (c.toRadarClient.setNavigationGainAndOffset_eq gain offset)⟩
  | updateContourMap contourData =>
    obtain rfl := Except.ok.inj hstep
    exact ⟨hc, sent_contour hc contourData⟩
  | connection connected =>
    obtain rfl := Except.ok.inj hstep
    exact ⟨⟨hc.wanted, rfl, hc.encoderSize, hc.binSize⟩, rfl⟩
  | _ =>
    obtain rfl := Except.ok.inj hstep
    exact ⟨⟨hc.wanted, hc.connected, hc.encoderSize, hc.binSize⟩, rfl⟩

/-- **The first SDK follows every configuration frame.** Whatever callbacks are set, a run that
    reads past the end of no frame sends exactly the commands that were given while connected,
    each contour map scaled by the bin size of the latest configuration frame, with a start of
    the FFT stream for each configuration frame that came while connected and after a start; and
    the angles that the next frame brings are those for the encoder size of the latest
    configuration frame. -/
theorem run_follows {events : List Event} {r : Client × List Output}
    (hrun : Machine.run step new events = .ok r) :
    r.2.filterMap Output.sent = trace History.after History.sends .start events ∧
      ∀ f r', r.1.step (.received f) = .ok r' →
        AnglesBy (events.foldl History.after .start).encoderSize r'.2 := by
  obtain ⟨hlast, hsent⟩ := run_trace hrun follows_new step_follows
  exact ⟨hsent, fun f r' hstep => (received_follows hlast hstep).2.2⟩

/-- The stream is started again without a callback. -/
theorem run_follows_unregistered :
    ∃ out, Machine.run step new [.connection true, .startFFTData,
        .received (.of Navtech.RadarClient.configurationFrame)] = .ok out ∧
      out.2.filterMap Output.sent = trace History.after History.sends .start [.connection true,
        .startFFTData, .received (.of Navtech.RadarClient.configurationFrame)] :=
  ⟨_, rfl, (run_follows rfl).1⟩

end Client

end Navtech.Legacy
