/-
  What happens to a `Radar_client`: an event is a call by the user, a frame from the receive
  queue, or a change of the connection state. Each runs one member function, so a run goes
  through any sequence of them, until a handler is at fault.

  Frames are handed over one at a time on the thread of the queue, and every call and every
  handler is one step: runs in which a call falls into a handler, or into another call, are not
  among these. For most callbacks it would make no difference, as a handler takes a copy under
  the lock of the setters; but the two raw callbacks are read without it, and a request for FFT
  data is sent before its flag is set.
-/
import Navtech.Network.Frame
import Navtech.Network.RadarClient

namespace Navtech

open CheckedView
open Navtech.Network (Bytes Frame)

namespace RadarClient

/-- A call of the user, a frame, or a change of the connection. -/
inductive Event where
  | received (f : Frame)
  | connection (connected : Bool)
  | setFftDataCallback (fn : Bool)
  | setRawFftDataCallback (fn : Bool)
  | setNavigationDataCallback (fn : Bool)
  | setConfigurationDataCallback (fn : Bool)
  | setRawConfigurationDataCallback (fn : Bool)
  | setHealthDataCallback (fn : Bool)
  | setNavigationConfigCallback (fn : Bool)
  | startFftData
  | startNonContourFftData
  | stopFftData
  | startHealthData
  | stopHealthData
  | startNavigationData
  | stopNavigationData
  | requestNavigationConfiguration

variable {x : Externals}

def step (c : RadarClient) : Event → Except Fault (RadarClient × List (Output x))
  | .received f => c.handleData f.bytes
  | .connection connected => .ok ({ c with connected := connected }, [])
  | .setFftDataCallback fn => .ok (c.setFftDataCallback fn, [])
  | .setRawFftDataCallback fn => .ok (c.setRawFftDataCallback fn, [])
  | .setNavigationDataCallback fn => .ok (c.setNavigationDataCallback fn, [])
  | .setConfigurationDataCallback fn => .ok (c.setConfigurationDataCallback fn, [])
  | .setRawConfigurationDataCallback fn => .ok (c.setRawConfigurationDataCallback fn, [])
  | .setHealthDataCallback fn => .ok (c.setHealthDataCallback fn, [])
  | .setNavigationConfigCallback fn => .ok (c.setNavigationConfigCallback fn, [])
  | .startFftData => .ok c.startFftData
  | .startNonContourFftData => .ok c.startNonContourFftData
  | .stopFftData => .ok c.stopFftData
  | .startHealthData => .ok c.startHealthData
  | .stopHealthData => .ok c.stopHealthData
  | .startNavigationData => .ok c.startNavigationData
  | .stopNavigationData => .ok c.stopNavigationData
  | .requestNavigationConfiguration => .ok c.requestNavigationConfiguration

/-- The state after the events, with everything handed out on the way. -/
def run (c : RadarClient) : List Event → Except Fault (RadarClient × List (Output x))
  | [] => .ok (c, [])
  | e :: es => do
    let r ← c.step e
    let others ← r.1.run es
    return (others.1, r.2 ++ others.2)

theorem run_cons {c : RadarClient} {e : Event} {es : List Event}
    {r : RadarClient × List (Output x)} (h : c.run (e :: es) = .ok r) :
    ∃ r₁ r₂, c.step e = .ok r₁ ∧ r₁.1.run es = .ok r₂ ∧ r = (r₂.1, r₁.2 ++ r₂.2) := by
  obtain ⟨r₁, hstep, h⟩ := bind_eq_ok.mp h
  obtain ⟨r₂, hrun, h⟩ := bind_eq_ok.mp h
  exact ⟨r₁, r₂, hstep, hrun, (Except.ok.inj h).symm⟩

/-! ## What a handler does -/

section Handlers

variable {c : RadarClient} {msg : Network.Message} {r : RadarClient × List (Output x)}

/-- What the part of `handle_configuration_message` for a callback keeps and hands out. -/
theorem takeConfiguration_ok {config : Bytes} (h : c.takeConfiguration config = .ok r) :
    ∃ data protobuf, Network.Configuration.encoderSize config = .ok data.encoderSize ∧
      r = ({ c with encoderSize := data.encoderSize, binSize := data.binSize },
        (if c.sendRadarData then c.sendSimpleNetworkMessage .startFftData else []) ++
          [.configurationData data protobuf]) := by
  obtain ⟨payload, -, h⟩ := bind_eq_ok.mp h
  obtain ⟨data, hdata, h⟩ := bind_eq_ok.mp h
  refine ⟨data, x.parseConfiguration payload, ?_, (Except.ok.inj h).symm⟩
  obtain ⟨encoderSize, hsize, hdata⟩ := bind_eq_ok.mp hdata
  obtain ⟨_, -, hdata⟩ := bind_eq_ok.mp hdata
  obtain ⟨_, -, hdata⟩ := bind_eq_ok.mp hdata
  obtain ⟨_, -, hdata⟩ := bind_eq_ok.mp hdata
  obtain ⟨_, -, hdata⟩ := bind_eq_ok.mp hdata
  obtain ⟨_, -, hdata⟩ := bind_eq_ok.mp hdata
  rw [hsize, ← Except.ok.inj hdata]

/-- A handler's last part hands the raw message on where a callback for it is set. -/
theorem raw_ok {raw : Bool} {o : Output x} (r₁ : RadarClient × List (Output x))
    (h : (if raw = true then pure (r₁.1, r₁.2 ++ [o]) else pure r₁ : Except Fault _) = .ok r) :
    r.1 = r₁.1 ∧ (r.2 = r₁.2 ∨ r.2 = r₁.2 ++ [o]) := by
  split at h
  · rw [← Except.ok.inj h]
    exact ⟨rfl, .inr rfl⟩
  · rw [← Except.ok.inj h]
    exact ⟨rfl, .inl rfl⟩

/-- A handler that calls back with a value it has read leaves the client as it is. -/
theorem guarded_ok {α : Type} {callback : Bool} {value : Except Fault α}
    {f : α → List (Output x)}
    (h : (if callback = true then value >>= fun v => pure (c, f v) else pure (c, [])) = .ok r) :
    r.1 = c ∧ (r.2 = [] ∨ ∃ v, value = .ok v ∧ r.2 = f v) := by
  split at h
  · obtain ⟨v, hv, h⟩ := bind_eq_ok.mp h
    rw [← Except.ok.inj h]
    exact ⟨rfl, .inr ⟨v, hv, rfl⟩⟩
  · rw [← Except.ok.inj h]
    exact ⟨rfl, .inl rfl⟩

end Handlers

end RadarClient

end Navtech
