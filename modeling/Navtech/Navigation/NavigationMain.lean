/-
  The program of `cpp_17/navigation_main.cpp`: `Radar_client` and `Peak_finder`, from the frames
  of the radar to the targets that are logged, and `main` until it stops the client.

  A step is a handler of the client with the callbacks it runs, or a statement of `main` behind
  its loop; that such a statement falls into the middle of a handler is left out. The ranges of
  the targets are computed by a function of the window and of the configuration's values, which
  may be infinite or not a number; what it computes does not matter here.

  `emits` is what the radar receives and what is logged, in terms of the frames: a sweep gives
  the targets of its own samples under the latest configuration (`navigation_follows`). After
  `stop_fft_data` the handler of a configuration still starts the stream again, until its
  callback is unset. No sweep is read outside its bounds; what can go wrong is a payload that is
  too short, and a sweep before the first configuration (`navigation_succeeds_iff`).
-/
import Navtech.Lib.Machine
import Navtech.Navigation.PeakTargets
import Navtech.Network.Angles
import Navtech.Network.FrameValues
import Navtech.Network.GainAndOffset
import Navtech.Network.Requests

namespace Navtech

open CheckedView (Succeeds bind_eq_ok map_eq_ok mapError_eq_ok succeeds_mapError)
open Machine
open Network (Bytes Frame frameBytes)
open Navtech.Utility (Binary32)
open RadarClient (configurationValues fftValues binSizeOf)
open PeakFinder (Ranging Decibels Resolve Parameters)

/-- What `Peak_finder` reads of the two objects of a configuration. -/
structure NavigationMain.Measures where
  rangeInBins : UInt16
  rangeGain : Binary32
  rangeOffset : Binary32
  rangeResolutionMetres : ExtRat
deriving DecidableEq

/-- The two global objects, and how far `main` is behind its loop. -/
structure NavigationMain where
  client : RadarClient
  peakFinder : PeakFinder NavigationMain.Measures
  /-- How many of the statements before `radar_client.stop()` are done. -/
  stage : Nat

namespace NavigationMain

/-- What ends the program: a message that is too short, or a search that fails. -/
inductive Fault where
  | message (fault : CheckedView.Fault)
  | search (fault : PeakFinder.Fault)
deriving DecidableEq, Repr

/-- What the program does. -/
inductive Effect where
  | send (data : Bytes)
  /-- `navigation_data_handler` logs the targets. -/
  | log (targetData : AzimuthTarget)
deriving DecidableEq

inductive Event where
  | received (f : Frame)
  | connection (connected : Bool)
  /-- `main` executes its next statement. -/
  | main

/-- The arguments of `peak_finder.configure`. -/
def parameters (m : Measures) : Parameters Measures where
  rangeInBins := m.rangeInBins
  ranging := m
  threshold := 80
  binsToOperateUpon := 4
  minBinToOperateUpon := 50
  mode := .off
  bufLength := 10
  maxPeaksPerAzi := 10

variable {x : Externals}

/-- What the ranges are computed from, of a configuration. -/
def measures (configuration : ConfigurationData) (rangeResolutionMetres : ExtRat) : Measures :=
  ⟨configuration.rangeInBins, configuration.rangeGain, configuration.rangeOffset,
    rangeResolutionMetres⟩

/-- After `main` has set the callbacks. -/
def start : NavigationMain where
  client := ((RadarClient.new.setFftDataCallback true).setConfigurationDataCallback
    true).setHealthDataCallback true
  peakFinder := PeakFinder.new.setTargetCallback true
  stage := 0

/-- An output of the client: sent, or handed to the callback that is set for it. -/
def handOut (d : Decibels) (resolve : Resolve Measures) (st : NavigationMain) :
    Output x → Except Fault (NavigationMain × List Effect)
  | .send data => .ok (st, [.send data])
  | .fftData data => do
    let r ← (st.peakFinder.fftDataHandler d resolve data).mapError .search
    return ({ st with peakFinder := r.1 }, r.2.toList.map .log)
  | .configurationData data protobuf =>
    let peakFinder := st.peakFinder.configure
      (parameters (measures data (x.rangeResolutionMetres protobuf)))
    let started := st.client.startFftData (x := x)
    .ok ({ st with client := started.1, peakFinder := peakFinder },
      RadarClient.sends .send started.2)
  -- `health_data_handler` only logs
  | _ => .ok (st, [])

/-- The next statement of `main` behind its loop. -/
def main (x : Externals) (st : NavigationMain) : NavigationMain × List Effect :=
  match st.stage with
  | 0 =>
    let stopped := st.client.stopFftData (x := x)
    ({ st with client := stopped.1, stage := 1 }, RadarClient.sends .send stopped.2)
  | 1 => ({ st with peakFinder := st.peakFinder.setTargetCallback false, stage := 2 }, [])
  | 2 => ({ st with client := st.client.setFftDataCallback false, stage := 3 }, [])
  | 3 => ({ st with client := st.client.setConfigurationDataCallback false, stage := 4 }, [])
  | _ => (st, [])

/-- A frame is handled with all that the callbacks do. -/
def step (x : Externals) (d : Decibels) (resolve : Resolve Measures) (st : NavigationMain) :
    Event → Except Fault (NavigationMain × List Effect)
  | .received f => do
    let r ← (st.client.handleData (x := x) f.bytes).mapError .message
    Machine.run (handOut d resolve) { st with client := r.1 } r.2
  | .connection connected =>
    .ok ({ st with client := { st.client with connected := connected } }, [])
  | .main => .ok (st.main x)

/-! ## What the frames say -/

/-- The same by the payload of its frame. -/
def measuresOf (x : Externals) (payload : Bytes) : Measures :=
  measures (configurationValues (binSizeOf x payload) payload) (binSizeOf x payload)

/-- What the frames and `main` have done so far. -/
structure History where
  connected : Bool
  /-- A start is remembered. -/
  started : Bool
  encoderSize : UInt16
  /-- The latest configuration. -/
  latest : Option Measures
  stage : Nat

namespace History

/-- Before the first event. -/
def start : History := ⟨false, false, 0, none, 0⟩

variable (x : Externals) (resolve : Resolve Measures) (h : History)

/-- What there is to remember of an event. -/
def after : Event → History
  | .connection connected => { h with connected := connected }
  | .main =>
    { h with started := h.started && h.stage != 0, stage := min (h.stage + 1) 4 }
  | .received f =>
    if f.type = .configuration ∧ h.stage < 4 then
      { h with
        started := true
        encoderSize := (configurationValues (binSizeOf x f.payload) f.payload).encoderSize
        latest := some (measuresOf x f.payload) }
    else h

/-- What is logged of a sweep. -/
noncomputable def logged (f : Frame) : List Effect :=
  (h.latest.bind fun m =>
    (parameters m).settings.report resolve (fftValues h.encoderSize f.payload)).toList.map .log

/-- What the radar is sent, and what is logged. -/
noncomputable def emits : Event → List Effect
  | .connection _ => []
  | .main =>
    if h.stage = 0 then (RadarClient.request h.connected .stopFftData).map .send else []
  | .received f =>
    if f.type = .configuration ∧ h.stage < 4 then
      (RadarClient.resumed h.started h.connected ++
        RadarClient.request h.connected .startFftData).map .send
    else if f.type = .fftData ∧ h.stage < 2 then h.logged resolve f
    else []

/-- Where a callback is set, the payload is long enough for it, and there is a configuration
    for the sweep. -/
def Fits : Event → Prop
  | .connection _ => True
  | .main => True
  | .received f =>
    (f.type = .configuration → h.stage < 4 → 20 ≤ f.payload.length) ∧
      (f.type = .fftData → h.stage < 3 → 14 ≤ f.payload.length ∧ ∃ m, h.latest = some m)

end History

/-- The program is as the history says. -/
structure Follows (st : NavigationMain) (h : History) : Prop where
  connected : st.client.connected = h.connected
  started : st.client.sendRadarData = h.started
  encoderSize : st.client.encoderSize = h.encoderSize
  fftSet : st.client.fftDataCallback = decide (h.stage < 3)
  configurationSet : st.client.configurationDataCallback = decide (h.stage < 4)
  noRaw : st.client.rawFftDataCallback = false
  noRawConfiguration : st.client.rawConfigurationDataCallback = false
  noNavigation : st.client.navigationDataCallback = false
  noNavigationConfig : st.client.navigationConfigCallback = false
  settings : st.peakFinder.settings = h.latest.map fun m => (parameters m).settings
  targetSet : st.peakFinder.targetCallback = decide (h.stage < 2)
  stage : st.stage = h.stage
  stage_le : h.stage ≤ 4

theorem follows_start : start.Follows .start :=
  ⟨rfl, rfl, rfl, rfl, rfl, rfl, rfl, rfl, rfl, rfl, rfl, rfl, Nat.zero_le 4⟩

variable {d : Decibels} {resolve : Resolve Measures} {st : NavigationMain} {h : History} {f : Frame}
  {r : NavigationMain × List Effect}

/-! ## One event -/

/-- A statement of `main`. -/
theorem follows_main (resolve : Resolve Measures) (hc : st.Follows h) :
    (st.main x).1.Follows (h.after x .main) ∧ (st.main x).2 = h.emits resolve .main := by
  have hrequest := RadarClient.sends_request (x := x) Effect.send st.client .stopFftData
  rw [hc.connected] at hrequest
  obtain ⟨connected, started, encoderSize, latest, stage⟩ := h
  have hstage : st.stage = stage := hc.stage
  have hle : stage ≤ 4 := hc.stage_le
  have hstarted : st.client.sendRadarData = (started && true) :=
    hc.started.trans (Bool.and_true _).symm
  unfold main
  rw [hstage]
  have hcases : stage = 0 ∨ stage = 1 ∨ stage = 2 ∨ stage = 3 ∨ stage = 4 := by omega
  obtain rfl | rfl | rfl | rfl | rfl := hcases
  · exact ⟨{ hc with
      started := (Bool.and_false _).symm, stage := rfl,
      stage_le := Nat.min_le_right _ _ }, hrequest⟩
  · exact ⟨{ hc with
      started := hstarted, targetSet := rfl, stage := rfl, stage_le := Nat.min_le_right _ _ }, rfl⟩
  · exact ⟨{ hc with
      started := hstarted, fftSet := rfl, stage := rfl, stage_le := Nat.min_le_right _ _ }, rfl⟩
  · exact ⟨{ hc with
      started := hstarted, configurationSet := rfl, stage := rfl,
      stage_le := Nat.min_le_right _ _ }, rfl⟩
  · exact ⟨{ hc with
      started := hstarted, stage := hstage, stage_le := Nat.min_le_right _ _ }, rfl⟩

/-- The program after a configuration. -/
def configured (x : Externals) (st : NavigationMain) (payload : Bytes) : NavigationMain :=
  { st with
    client := { st.client with
      sendRadarData := true
      encoderSize := (configurationValues (binSizeOf x payload) payload).encoderSize
      binSize := binSizeOf x payload }
    peakFinder := st.peakFinder.configure (parameters (measuresOf x payload)) }

/-- A configuration that the client can read. -/
theorem step_configuration (d : Decibels) (resolve : Resolve Measures) (hc : st.Follows h)
    (htype : f.type = .configuration) (hstage : h.stage < 4) (hlen : 20 ≤ f.payload.length) :
    st.step x d resolve (.received f) =
      .ok (st.configured x f.payload, h.emits resolve (.received f)) := by
  have hset : st.client.configurationDataCallback = true :=
    hc.configurationSet.trans (decide_eq_true hstage)
  have hsucceeds : Succeeds (st.client.handleData (x := x) f.bytes) := by
    refine (RadarClient.handleData_succeeds_iff st.client f).mpr ?_
    unfold RadarClient.viewedSize
    rw [if_pos htype, if_pos hset]
    exact hlen
  obtain ⟨q, hdata⟩ := hsucceeds
  obtain rfl := RadarClient.received_configuration hdata htype hset hc.noRawConfiguration
  have hemits : h.emits resolve (.received f) = _ := if_pos ⟨htype, hstage⟩
  have hrequest := RadarClient.sends_request (x := x) Effect.send st.client .startFftData
  -- the client remembers a start and sends it again before the callback
  have hfirst (st' : NavigationMain) : Machine.run (handOut (x := x) d resolve) st' _ =
      .ok (st', List.map Effect.send _) :=
    RadarClient.run_resumed (fun _ _ => rfl) st' st.client
  rw [hemits, List.map_append, ← hc.connected, ← hrequest, ← hc.started]
  show (st.client.handleData (x := x) f.bytes).mapError Fault.message >>= _ = _
  rw [hdata]
  show Machine.run (handOut d resolve) _ (_ ++ _) = _
  rw [run_append_of_ok (hfirst _), run_one]
  rfl

theorem follows_configured (hc : st.Follows h) (htype : f.type = .configuration)
    (hstage : h.stage < 4) : (st.configured x f.payload).Follows (h.after x (.received f)) := by
  have hafter : h.after x (.received f) = _ := if_pos ⟨htype, hstage⟩
  rw [hafter]
  exact { hc with started := rfl, encoderSize := rfl, settings := rfl }

/-- A sweep that the client can read goes to the handler of `Peak_finder`. -/
theorem step_fft (d : Decibels) (resolve : Resolve Measures) (hc : st.Follows h)
    (htype : f.type = .fftData) (hstage : h.stage < 3) (hlen : 14 ≤ f.payload.length) :
    st.step x d resolve (.received f) = ((st.peakFinder.fftDataHandler d resolve
      (fftValues h.encoderSize f.payload)).mapError .search).map fun r =>
        ({ st with peakFinder := r.1 }, r.2.toList.map .log) := by
  have hnot : ¬ f.type = .configuration := by
    rw [htype]
    decide
  have hset : st.client.fftDataCallback = true := hc.fftSet.trans (decide_eq_true hstage)
  have hsucceeds : Succeeds (st.client.handleData (x := x) f.bytes) := by
    refine (RadarClient.handleData_succeeds_iff st.client f).mpr ?_
    unfold RadarClient.viewedSize
    rw [if_neg hnot, if_pos htype, if_pos hset]
    exact hlen
  obtain ⟨q, hdata⟩ := hsucceeds
  obtain rfl := RadarClient.received_fft hdata htype hset hc.noRaw
  show (st.client.handleData (x := x) f.bytes).mapError Fault.message >>= _ = _
  rw [hdata]
  show Machine.run (handOut d resolve) _ [_] = _
  rw [run_one, hc.encoderSize]
  show (_ >>= fun _ => Except.ok _) = _
  cases (st.peakFinder.fftDataHandler d resolve (fftValues h.encoderSize f.payload)).mapError
    Fault.search with
  | error e => rfl
  | ok r => rfl

/-- Behind the start bin, no window begins before the sweep. -/
theorem windowsInside (m : Measures) (samples : Nat → ℚ) :
    PeakFinder.WindowsInside (parameters m).settings.scan samples := by
  intro q hmin _ _
  have hstart : (parameters m).settings.scan.minBinToOperateOn = 50 := rfl
  have hbins : (parameters m).settings.scan.binsToOperateOn =
    max (min (4 : UInt8).toNat 15) 5 := rfl
  have hoffset : PeakFinder.binsToOffset (max (min (4 : UInt8).toNat 15) 5) = 2 := by decide
  rw [hbins, hoffset]
  omega

/-- The handler of a sweep, in terms of the history. -/
theorem fftDataHandler_eq (d : Decibels) (resolve : Resolve Measures) (hc : st.Follows h)
    (data : FftData) :
    (∀ m, h.latest = some m → ∃ pf, st.peakFinder.fftDataHandler d resolve data =
        .ok (pf, if h.stage < 2 then (parameters m).settings.report resolve data else none) ∧
      pf.settings = st.peakFinder.settings ∧ pf.targetCallback = st.peakFinder.targetCallback) ∧
    (h.latest = none → ¬ Succeeds (st.peakFinder.fftDataHandler d resolve data)) := by
  constructor
  · intro m hm
    have hsettings : st.peakFinder.settings = some (parameters m).settings := by
      rw [hc.settings, hm]
      rfl
    obtain ⟨hsucceeds, hresult⟩ := PeakFinder.fftDataHandler_off d resolve data hsettings rfl
    obtain ⟨q, hq⟩ := hsucceeds.mpr fun _ => windowsInside m _
    obtain ⟨hfinder, htargets⟩ := hresult q hq
    refine ⟨q.1, ?_, ?_, ?_⟩
    · rw [hq]
      refine congrArg (fun target => Except.ok (q.1, target)) (htargets.trans ?_)
      rw [hc.targetSet]
      exact if_congr decide_eq_true_iff rfl rfl
    · rw [hfinder]
    · rw [hfinder]
  · intro hnone
    have hsettings : st.peakFinder.settings = none := by
      rw [hc.settings, hnone]
      rfl
    have hcollect : st.peakFinder.collect d data = .error .nullPointer := by
      unfold PeakFinder.collect
      rw [hsettings]
    have hhandler : st.peakFinder.fftDataHandler d resolve data = .error .nullPointer := by
      unfold PeakFinder.fftDataHandler
      rw [hcollect]
      rfl
    rw [hhandler]
    exact CheckedView.not_succeeds_error _

/-- A frame for which no callback is set is dropped. -/
theorem handleData_quiet (hc : st.Follows h)
    (hconfiguration : f.type = .configuration → ¬ h.stage < 4)
    (hfft : f.type = .fftData → ¬ h.stage < 3) (hhealth : ¬ f.type = .health) :
    st.client.handleData (x := x) f.bytes = .ok (st.client, []) := by
  have htype : (Network.Message.ofBuffer f.bytes).type = f.type := rfl
  unfold RadarClient.handleData
  simp only [htype, if_neg hhealth]
  split
  · have hunset : st.client.configurationDataCallback = false :=
      hc.configurationSet.trans (decide_eq_false (hconfiguration ‹_›))
    unfold RadarClient.handleConfigurationMessage
    simp only [hunset, hc.noRawConfiguration, Bool.false_eq_true, if_false]
    rfl
  split
  · have hunset : st.client.fftDataCallback = false :=
      hc.fftSet.trans (decide_eq_false (hfft ‹_›))
    unfold RadarClient.handleFftDataMessage
    simp only [hunset, hc.noRaw, Bool.false_eq_true, if_false]
    rfl
  split
  · unfold RadarClient.handleNavigationDataMessage
    rw [hc.noNavigation]
    rfl
  split
  · rfl
  split
  · unfold RadarClient.handleNavigationConfigMessage
    rw [hc.noNavigationConfig]
    rfl
  · rfl

/-- A health message is handed out, or dropped. -/
theorem handleData_health (c : RadarClient) (htype : f.type = .health) :
    c.handleData (x := x) f.bytes = .ok (c, if c.healthDataCallback then
      [.healthData (x.parseHealth f.payload)] else []) := by
  have hsmall : f.payload.length < 2 ^ 32 := Nat.lt_trans f.small (by decide)
  have hconfiguration : ¬ f.type = .configuration := by
    rw [htype]
    decide
  have hfft : ¬ f.type = .fftData := by
    rw [htype]
    decide
  have hnavigation : ¬ f.type = .navigationData := by
    rw [htype]
    decide
  have halarm : ¬ f.type = .navigationAlarmData := by
    rw [htype]
    decide
  have hfirst : c.handleData (x := x) f.bytes = c.handleHealthMessage (.ofBuffer f.bytes) :=
    (if_neg hconfiguration).trans ((if_neg hfft).trans ((if_neg hnavigation).trans
      ((if_neg halarm).trans (if_pos htype))))
  have hvector : Network.MessageBase.toString Network.Health.size f.bytes = _ :=
    IASDK.toVector_drop (n := Network.Health.size) f.type (Nat.zero_le _) hsmall
  rw [hfirst]
  unfold RadarClient.handleHealthMessage
  rw [Network.Message.ofBuffer, hvector]
  split
  · rfl
  · rfl

/-- A frame for which no callback is set, or one that only logs. -/
theorem step_quiet (hc : st.Follows h) (hconfiguration : f.type = .configuration → ¬ h.stage < 4)
    (hfft : f.type = .fftData → ¬ h.stage < 3) :
    st.step x d resolve (.received f) = .ok (st, []) := by
  show (st.client.handleData (x := x) f.bytes).mapError Fault.message >>= _ = _
  by_cases hhealth : f.type = .health
  · rw [handleData_health st.client hhealth]
    cases st.client.healthDataCallback with
    | false => rfl
    | true => rfl
  · rw [handleData_quiet hc hconfiguration hfft hhealth]
    rfl

/-- A payload that is too short for the callback that is set. -/
theorem step_short (hc : st.Follows h)
    (hshort : f.type = .configuration ∧ h.stage < 4 ∧ ¬ 20 ≤ f.payload.length ∨
      f.type = .fftData ∧ h.stage < 3 ∧ ¬ 14 ≤ f.payload.length) :
    ¬ Succeeds (st.step x d resolve (.received f)) := by
  intro hsucceeds
  obtain ⟨r, hr⟩ := hsucceeds
  obtain ⟨q, hq, -⟩ := bind_eq_ok.mp hr
  have hlen := (RadarClient.handleData_succeeds_iff st.client f).mp ⟨q, mapError_eq_ok.mp hq⟩
  unfold RadarClient.viewedSize at hlen
  rcases hshort with ⟨htype, hstage, hshort⟩ | ⟨htype, hstage, hshort⟩
  · rw [if_pos htype, hc.configurationSet, decide_eq_true hstage, if_pos rfl] at hlen
    exact hshort hlen
  · have hnot : ¬ f.type = .configuration := by
      rw [htype]
      decide
    rw [if_neg hnot, if_pos htype, hc.fftSet, decide_eq_true hstage, if_pos rfl] at hlen
    exact hshort hlen

/-- An event fails exactly if it does not fit, and otherwise does what the history says. -/
def Meets (x : Externals) (d : Decibels) (resolve : Resolve Measures) (st : NavigationMain)
    (h : History) (e : Event) : Prop :=
  (Succeeds (st.step x d resolve e) ↔ h.Fits e) ∧
    ∀ r, st.step x d resolve e = .ok r → r.1.Follows (h.after x e) ∧ r.2 = h.emits resolve e

/-- An event that neither succeeds nor fits. -/
theorem meets_of_fails {e : Event} (hfails : ¬ Succeeds (st.step x d resolve e))
    (hnot : ¬ h.Fits e) : st.Meets x d resolve h e :=
  ⟨iff_of_false hfails hnot, fun r hr => absurd ⟨r, hr⟩ hfails⟩

theorem meets_configuration (d : Decibels) (resolve : Resolve Measures) (hc : st.Follows h)
    (htype : f.type = .configuration) (hstage : h.stage < 4) :
    st.Meets x d resolve h (.received f) := by
  have hnot : ¬ f.type = .fftData := by
    rw [htype]
    decide
  by_cases hlen : 20 ≤ f.payload.length
  · have hstep := step_configuration (x := x) d resolve hc htype hstage hlen
    refine ⟨iff_of_true ⟨_, hstep⟩ ⟨fun _ _ => hlen, fun h => absurd h hnot⟩, fun r hr => ?_⟩
    obtain rfl := Except.ok.inj (hstep.symm.trans hr)
    exact ⟨follows_configured hc htype hstage, rfl⟩
  · exact meets_of_fails (step_short hc (.inl ⟨htype, hstage, hlen⟩))
      fun hf => hlen (hf.1 htype hstage)

theorem meets_fft (d : Decibels) (resolve : Resolve Measures) (hc : st.Follows h)
    (htype : f.type = .fftData) (hstage : h.stage < 3) :
    st.Meets x d resolve h (.received f) := by
  have hnot : ¬ f.type = .configuration := by
    rw [htype]
    decide
  by_cases hlen : 14 ≤ f.payload.length
  · have hstep := step_fft (x := x) d resolve hc htype hstage hlen
    have hafter : h.after x (.received f) = h := if_neg fun h => hnot h.1
    have hemits : h.emits resolve (.received f) =
        if f.type = .fftData ∧ h.stage < 2 then h.logged resolve f else [] :=
      if_neg fun h => hnot h.1
    obtain ⟨hsome, hnone⟩ := fftDataHandler_eq d resolve hc (fftValues h.encoderSize f.payload)
    cases hlatest : h.latest with
    | none =>
      refine meets_of_fails ?_ fun hf => ?_
      · rw [hstep, CheckedView.succeeds_map, succeeds_mapError]
        exact hnone hlatest
      · obtain ⟨-, m, hm⟩ := hf.2 htype hstage
        exact Option.some_ne_none m (hm.symm.trans hlatest)
    | some m =>
      obtain ⟨pf, hhandler, hsettings, hcallback⟩ := hsome m hlatest
      rw [hhandler] at hstep
      refine ⟨iff_of_true ⟨_, hstep⟩ ⟨fun h => absurd h hnot, fun _ _ => ⟨hlen, m, hlatest⟩⟩,
        fun r hr => ?_⟩
      obtain rfl := Except.ok.inj (hstep.symm.trans hr)
      rw [hafter, hemits]
      refine ⟨{ hc with
        settings := hsettings.trans hc.settings, targetSet := hcallback.trans hc.targetSet }, ?_⟩
      unfold History.logged
      rw [hlatest]
      by_cases hlogs : h.stage < 2
      · rw [if_pos hlogs, if_pos ⟨htype, hlogs⟩]
        rfl
      · rw [if_neg hlogs, if_neg fun h => hlogs h.2]
        rfl
  · exact meets_of_fails (step_short hc (.inr ⟨htype, hstage, hlen⟩))
      fun hf => hlen (hf.2 htype hstage).1

theorem meets_quiet (d : Decibels) (resolve : Resolve Measures) (hc : st.Follows h)
    (hconfiguration : ¬ (f.type = .configuration ∧ h.stage < 4))
    (hfft : ¬ (f.type = .fftData ∧ h.stage < 3)) : st.Meets x d resolve h (.received f) := by
  have hquiet : st.step x d resolve (.received f) = .ok (st, []) :=
    step_quiet hc (not_and.mp hconfiguration) (not_and.mp hfft)
  have hafter : h.after x (.received f) = h := if_neg hconfiguration
  have hemits : h.emits resolve (.received f) = [] :=
    (if_neg hconfiguration).trans (if_neg fun h => hfft ⟨h.1, Nat.lt_succ_of_lt h.2⟩)
  refine ⟨iff_of_true ⟨_, hquiet⟩ ⟨fun htype hstage => absurd ⟨htype, hstage⟩ hconfiguration,
    fun htype hstage => absurd ⟨htype, hstage⟩ hfft⟩, fun r hr => ?_⟩
  obtain rfl := Except.ok.inj (hquiet.symm.trans hr)
  rw [hafter, hemits]
  exact ⟨hc, rfl⟩

theorem meets (x : Externals) (d : Decibels) (resolve : Resolve Measures) (hc : st.Follows h)
    (e : Event) : st.Meets x d resolve h e := by
  cases e with
  | connection connected =>
    refine ⟨iff_of_true ⟨_, rfl⟩ trivial, fun r hr => ?_⟩
    obtain rfl := Except.ok.inj hr
    exact ⟨{ hc with connected := rfl }, rfl⟩
  | main =>
    refine ⟨iff_of_true ⟨_, rfl⟩ trivial, fun r hr => ?_⟩
    obtain rfl := Except.ok.inj hr
    exact follows_main resolve hc
  | received f =>
    by_cases hconfiguration : f.type = .configuration ∧ h.stage < 4
    · exact meets_configuration d resolve hc hconfiguration.1 hconfiguration.2
    by_cases hfft : f.type = .fftData ∧ h.stage < 3
    · exact meets_fft d resolve hc hfft.1 hfft.2
    · exact meets_quiet d resolve hc hconfiguration hfft

/-! ## Runs -/

theorem follows_step {e : Event} (hc : st.Follows h) (hstep : st.step x d resolve e = .ok r) :
    r.1.Follows (h.after x e) ∧ r.2.filterMap some = h.emits resolve e := by
  rw [List.filterMap_some]
  exact (meets x d resolve hc e).2 r hstep

/-- **The program.** Over every run, what the radar receives and what is logged is what the frames
    and the statements of `main` say. -/
theorem navigation_follows {events : List Event} {r : NavigationMain × List Effect}
    (hrun : Machine.run (step x d resolve) start events = .ok r) :
    r.2 = trace (History.after x) (History.emits resolve) .start events := by
  have hseen : r.2.filterMap some = _ := (run_trace hrun follows_start follows_step).2
  rwa [List.filterMap_some] at hseen

/-- Bins of one metre. -/
def oneMetre : Externals := { Externals.unparsed with rangeResolutionMetres := fun _ => .finite 1 }

/-- The ranges in exact numbers, of a configuration that has them. -/
def exactly : Resolve Measures := fun m binsToOperateOn rangeInBins peakBin y =>
  match m.rangeGain.number, m.rangeOffset.number, m.rangeResolutionMetres with
  | .finite gain, .finite offset, .finite metres =>
    Ranging.resolve ⟨gain, offset, metres⟩ binsToOperateOn rangeInBins peakBin y
  | _, _, _ => none

/-- A configuration of 60 bins with the gain 1 and the offset 0. -/
def sixtyBins : Frame :=
  ⟨10, [0, 0, 0, 0, 0, 60, 1, 144, 0, 0, 0, 0, 0x3F, 0x80, 0, 0, 0, 0, 0, 0], by decide⟩

/-- A sweep with one echo, at bin 54. -/
def echoAt54 : Frame :=
  ⟨30, List.replicate 14 0 ++ List.replicate 53 0 ++ [60, 100, 60, 0, 0, 0, 0], by decide⟩

/-- A configuration, an echo, and a configuration behind `stop_fft_data`. -/
def echoEvents : List Event :=
  [.connection true, .received sixtyBins, .received echoAt54, .main, .received sixtyBins]

/-- The echo is logged, and after `stop_fft_data` a configuration starts the stream again. -/
theorem navigation_follows_echo :
    ∃ r, Machine.run (step oneMetre PeakFinder.notAveraging exactly) start echoEvents = .ok r ∧
      r.2 = [.send (frameBytes 21 []), .log ⟨0, .finite 0, 0, 0, [⟨.finite 54, 100⟩]⟩,
        .send (frameBytes 22 []), .send (frameBytes 21 [])] ∧
      r.2 = trace (History.after oneMetre) (History.emits exactly) .start echoEvents := by
  have hseen : (Machine.run (step oneMetre PeakFinder.notAveraging exactly) start echoEvents).map
      Prod.snd = .ok [.send (frameBytes 21 []), .log ⟨0, .finite 0, 0, 0, [⟨.finite 54, 100⟩]⟩,
          .send (frameBytes 22 []), .send (frameBytes 21 [])] := by
    decide +kernel
  obtain ⟨r, hr, heffects⟩ := map_eq_ok.mp hseen
  exact ⟨r, hr, heffects, navigation_follows hr⟩

/-- **When the program fails**: only at a configuration or a sweep that is too short for its
    class, and at a sweep before the first configuration. In particular no sweep is read outside
    its bounds. -/
theorem navigation_succeeds_iff (x : Externals) (d : Decibels) (resolve : Resolve Measures)
    (events : List Event) :
    Succeeds (Machine.run (step x d resolve) start events) ↔
      Throughout (History.after x) History.Fits .start events :=
  succeeds_run follows_start (fun hc hstep => ((meets x d resolve hc _).2 _ hstep).1)
    fun hc => (meets x d resolve hc _).1

end NavigationMain

end Navtech
