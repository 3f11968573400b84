/-
  The command that `Radar_client` sends when a configuration frame arrives.

  The radar sends a configuration on every connection, and the client answers it with a start
  command if a stream of FFT data was asked for. What was asked for is kept in one flag
  (`send_radar_data`): that it was a start, not which. The command is sent from the part of the
  handler that runs only where a configuration callback is set, and only while connected. So the
  client repeats the last start request exactly if that was `start_fft_data` and callback and
  connection are there, and keeps silent exactly if the last request was a stop or there was
  none, whatever else happened (`resume_iff`).
-/
import Navtech.Network.Angles

namespace Navtech

open CheckedView
open Navtech.Network (Bytes Frame Message MessageType frameBytes)

variable {x : Externals}

namespace RadarClient

/-! ## The requests of a run -/

/-- What the events say about the stream, the connection and the callback. -/
structure History where
  /-- The start command of the last request for FFT data; nothing after a stop. -/
  requested : Option MessageType
  connected : Bool
  /-- A configuration callback is set. -/
  registered : Bool
deriving DecidableEq, Repr

/-- A request counts whether or not it could be sent. -/
def History.after (h : History) : Event → History
  | .startFftData => { h with requested := some .startFftData }
  | .startNonContourFftData => { h with requested := some .startNonContourFftData }
  | .stopFftData => { h with requested := none }
  | .connection connected => { h with connected := connected }
  | .setConfigurationDataCallback fn => { h with registered := fn }
  | _ => h

/-- What they say together. -/
def history (events : List Event) : History := events.foldl History.after ⟨none, false, false⟩

/-- The message that repeats a request. -/
def command (requested : Option MessageType) : List Bytes :=
  requested.toList.map fun t => (Message.default.setType t).relinquish

/-- After `events`, the client sends these messages when it handles the frame. -/
def Reacts (x : Externals) (events : List Event) (f : Frame) (sent : List Bytes) : Prop :=
  ∃ r r' : RadarClient × List (Output x), new.run events = .ok r ∧
    r.1.step (.received f) = .ok r' ∧ sent = r'.2.filterMap Output.sent

/-! ## What the client remembers -/

/-- The client knows whether a stream is wanted, but not which. -/
structure Remembers (c : RadarClient) (h : History) : Prop where
  wanted : c.sendRadarData = h.requested.isSome
  connected : c.connected = h.connected
  registered : c.configurationDataCallback = h.registered

variable {c : RadarClient} {h : History} {r : RadarClient × List (Output x)}

theorem remembers_new : new.Remembers ⟨none, false, false⟩ := ⟨rfl, rfl, rfl⟩

/-- A frame changes nothing of this. -/
theorem Remembers.received (hc : c.Remembers h) {f : Frame}
    (hstep : c.handleData f.bytes = .ok r) : r.1.Remembers h := by
  obtain ⟨-, hother, hconf⟩ := handleData_angles hstep
  by_cases htype : f.type = .configuration
  · obtain ⟨r₁, htake, hraw⟩ := bind_eq_ok.mp (hconf htype)
    obtain ⟨hstate, -⟩ := raw_ok r₁ hraw
    rw [hstate]
    split at htake
    · obtain ⟨data, protobuf, -, rfl⟩ := takeConfiguration_ok htake
      exact ⟨hc.wanted, hc.connected, hc.registered⟩
    · obtain rfl := Except.ok.inj htake
      exact hc
  · rw [hother htype]
    exact hc

theorem step_remembers (hc : c.Remembers h) {e : Event} (hstep : c.step e = .ok r) :
    r.1.Remembers (h.after e) := by
  cases e with
  | received f => exact hc.received hstep
  | startFftData | startNonContourFftData | stopFftData =>
    obtain rfl := Except.ok.inj hstep
    exact ⟨rfl, hc.connected, hc.registered⟩
  | connection connected =>
    obtain rfl := Except.ok.inj hstep
    exact ⟨hc.wanted, rfl, hc.registered⟩
  | setConfigurationDataCallback fn =>
    obtain rfl := Except.ok.inj hstep
    exact ⟨hc.wanted, hc.connected, rfl⟩
  | _ =>
    obtain rfl := Except.ok.inj hstep
    exact ⟨hc.wanted, hc.connected, hc.registered⟩

theorem run_remembers (hc : c.Remembers h) {events : List Event} (hrun : c.run events = .ok r) :
    r.1.Remembers (events.foldl History.after h) := by
  induction events generalizing c h r with
  | nil =>
    obtain rfl := Except.ok.inj hrun
    exact hc
  | cons e es ih =>
    obtain ⟨r₁, r₂, hstep, hrest, rfl⟩ := run_cons hrun
    show r₂.1.Remembers _
    exact ih (step_remembers hc hstep) hrest

/-! ## What a configuration frame makes the client send -/

/-- The start command goes out where a callback is set, a stream is wanted and the client is
    connected. -/
def resumes (h : History) : Bool := h.registered && h.requested.isSome && h.connected

theorem sent_simple (t : MessageType) :
    (c.sendSimpleNetworkMessage t : List (Output x)).filterMap Output.sent =
      if c.connected then command (some t) else [] := by
  unfold sendSimpleNetworkMessage
  split
  · rfl
  · rfl

theorem configuration_sent (hc : c.Remembers h) {msg : Message}
    (hstep : c.handleConfigurationMessage msg = .ok r) :
    r.2.filterMap Output.sent = if resumes h then command (some .startFftData) else [] := by
  obtain ⟨r₁, htake, hraw⟩ := bind_eq_ok.mp hstep
  obtain ⟨-, hout⟩ := raw_ok r₁ hraw
  have hsame : r.2.filterMap Output.sent = r₁.2.filterMap Output.sent := by
    rcases hout with hout | hout
    · rw [hout]
    · rw [hout, List.filterMap_append]
      exact List.append_nil _
  rw [hsame]
  unfold resumes
  rw [← hc.registered, ← hc.wanted, ← hc.connected]
  split at htake
  · rename_i hset
    obtain ⟨data, protobuf, -, rfl⟩ := takeConfiguration_ok htake
    rw [hset, Bool.true_and, List.filterMap_append]
    cases hw : c.sendRadarData with
    | false => rfl
    | true =>
      rw [if_pos rfl, sent_simple, Bool.true_and]
      exact List.append_nil _
  · rename_i hset
    obtain rfl := Except.ok.inj htake
    rw [Bool.eq_false_iff.mpr hset]
    rfl

/-- Two requests have the same message only if they are the same. -/
theorem command_inj {requested requested' : Option MessageType}
    (h : command requested = command requested') : requested = requested' := by
  have htypes {o : Option MessageType} :
      (command o).map (fun d => Message.type ⟨false, d⟩) = o.toList := by
    cases o with
    | none => rfl
    | some t =>
      show [Message.type ⟨false, (Message.default.setType t).relinquish⟩] = [t]
      rw [Message.default_eq, Message.setType_frameBytes, Message.relinquish_frameBytes]
      rfl
  have hlist := congrArg (List.map fun d => Message.type ⟨false, d⟩) h
  rw [htypes, htypes] at hlist
  cases requested with
  | none =>
    cases requested' with
    | none => rfl
    | some t' => exact absurd hlist (List.cons_ne_nil _ _).symm
  | some t =>
    cases requested' with
    | none => exact absurd hlist (List.cons_ne_nil _ _)
    | some t' => exact congrArg some (List.cons.inj hlist).1

/-- **Resuming the stream.** The client answers a configuration frame with the last start
    request exactly if there is nothing to resume, or the request was for contoured data and
    both the callback and the connection are there. -/
theorem resume_iff {events : List Event} {f : Frame} {sent : List Bytes}
    (htype : f.type = .configuration) (h : Reacts x events f sent) :
    sent = command (history events).requested ↔
      (history events).requested = none ∨
        (history events).requested = some .startFftData ∧
          (history events).registered = true ∧ (history events).connected = true := by
  obtain ⟨r, r', hrun, hstep, rfl⟩ := h
  have hc : r.1.Remembers (history events) := run_remembers remembers_new hrun
  obtain ⟨-, -, hconf⟩ := handleData_angles hstep
  rw [configuration_sent hc (hconf htype)]
  unfold resumes
  cases hreq : (history events).requested with
  | none =>
    rw [Option.isSome_none, Bool.and_false, Bool.false_and]
    exact iff_of_true rfl (Or.inl rfl)
  | some t =>
    rw [Option.isSome_some, Bool.and_true]
    split
    · rename_i hboth
      rw [Bool.and_eq_true] at hboth
      constructor
      · intro hsame
        exact Or.inr ⟨(command_inj hsame).symm, hboth⟩
      · intro hcase
        rcases hcase with hnone | ⟨ht, -⟩
        · exact absurd hnone (Option.some_ne_none t)
        · rw [ht]
    · rename_i hnot
      rw [Bool.and_eq_true] at hnot
      refine iff_of_false (List.cons_ne_nil _ _).symm ?_
      intro hcase
      rcases hcase with hnone | ⟨-, hboth⟩
      · exact Option.some_ne_none t hnone
      · exact hnot hboth

theorem resume_contoured :
    [frameBytes 21 []] = command (history [.setConfigurationDataCallback true, .connection true,
      .startFftData, .connection false, .connection true]).requested := by
  have h : Reacts .unparsed [.setConfigurationDataCallback true, .connection true,
      .startFftData, .connection false, .connection true] configurationFrame
      [frameBytes 21 []] := ⟨_, _, rfl, rfl, rfl⟩
  exact (resume_iff rfl h).mpr (Or.inr ⟨rfl, rfl, rfl⟩)

/-- A request for non-contoured data is resumed as one for contoured data. -/
theorem resume_not_contoured :
    Reacts .unparsed [.setConfigurationDataCallback true, .connection true,
        .startNonContourFftData, .connection false, .connection true] configurationFrame
        [frameBytes 21 []] ∧
      [frameBytes 21 []] ≠ command (history [.setConfigurationDataCallback true,
        .connection true, .startNonContourFftData, .connection false,
        .connection true]).requested := by
  constructor
  · exact ⟨_, _, rfl, rfl, rfl⟩
  · decide

end RadarClient

end Navtech
