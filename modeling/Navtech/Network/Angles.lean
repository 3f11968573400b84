/-
  The angle of a delivered `Fft_data` or `Navigation_data`, and the configuration it follows.

  A handler divides by the encoder size that the client holds (`handleData_angles`), and the
  client holds the one of the latest configuration frame that arrived while a configuration
  callback was set, or the initial 0 (`run_encoderSize`). A configuration frame that arrives
  without the callback is looked at by nobody. So the angle is the one of the latest
  configuration frame exactly when that frame and the latest one looked at agree on the encoder
  size, or when zero is divided by two sizes that are not zero (`angle_follows_iff`).
-/
import Mathlib.Tactic.NormNum
import Navtech.Network.RadarClientRun

namespace Navtech

open CheckedView
open Navtech.Network (Bytes Frame MessageType)

variable {x : Externals}

/-- The azimuth and the angle of an output that has them. -/
def Output.swept : Output x → Option (UInt16 × ExtRat)
  | .fftData data => some (data.azimuth, data.angle)
  | .navigationData data => some (data.azimuth, data.angle)
  | _ => none

namespace RadarClient

/-! ## The configuration frames of a run -/

/-- The encoder size of a configuration frame that is long enough to hold one. -/
def Event.encoderSize : Event → Option UInt16
  | .received f =>
    if f.type = .configuration then (Network.Configuration.encoderSize f.bytes).toOption else none
  | _ => none

/-- The encoder sizes that configuration frames brought. -/
def suppliedSizes (events : List Event) : List UInt16 := events.filterMap Event.encoderSize

/-- Whether a configuration callback is set after the event. -/
def Event.registers (registered : Bool) : Event → Bool
  | .setConfigurationDataCallback fn => fn
  | _ => registered

/-- The encoder sizes that configuration frames brought while a configuration callback was
    set. -/
def recordedSizes (registered : Bool) : List Event → List UInt16
  | [] => []
  | e :: es =>
    (if registered then e.encoderSize.toList else []) ++ recordedSizes (e.registers registered) es

/-- The last of them; before the first, the initial 0. -/
def recordedSize (events : List Event) : UInt16 := (recordedSizes false events).getLastD 0

/-- After `events`, the frame makes the client deliver an object with this azimuth and angle. -/
def Delivers (x : Externals) (events : List Event) (f : Frame) (azimuth : UInt16)
    (θ : ExtRat) : Prop :=
  ∃ r r' : RadarClient × List (Output x), new.run events = .ok r ∧
    r.1.step (.received f) = .ok r' ∧ ∃ o ∈ r'.2, o.swept = some (azimuth, θ)

/-- The angle is the one for the latest configuration frame, and if it is the result of a
    division by zero, then some configuration frame brought a zero. -/
def FollowsConfiguration (events : List Event) (azimuth : UInt16) (θ : ExtRat) : Prop :=
  (∃ encoderSize, (suppliedSizes events).getLast? = some encoderSize ∧
      θ = angle azimuth encoderSize) ∧
    (¬ θ.IsFinite → 0 ∈ suppliedSizes events)

/-! ## What one frame does -/

/-- Every angle among the outputs is the one for this encoder size. -/
def AnglesBy (encoderSize : UInt16) (out : List (Output x)) : Prop :=
  ∀ o ∈ out, ∀ azimuth θ, o.swept = some (azimuth, θ) → θ = angle azimuth encoderSize

theorem anglesBy_nil (encoderSize : UInt16) : AnglesBy encoderSize ([] : List (Output x)) :=
  fun _ ho => absurd ho List.not_mem_nil

theorem anglesBy_append {encoderSize : UInt16} {out out' : List (Output x)}
    (h : AnglesBy encoderSize out) (h' : AnglesBy encoderSize out') :
    AnglesBy encoderSize (out ++ out') := fun o ho =>
  (List.mem_append.mp ho).elim (h o) (h' o)

theorem anglesBy_singleton {encoderSize : UInt16} {o : Output x}
    (h : ∀ azimuth θ, o.swept = some (azimuth, θ) → θ = angle azimuth encoderSize) :
    AnglesBy encoderSize [o] := fun o' ho' => by
  rw [List.mem_singleton.mp ho']
  exact h

theorem anglesBy_send (encoderSize : UInt16) (c : RadarClient) (t : MessageType) :
    AnglesBy encoderSize (c.sendSimpleNetworkMessage t : List (Output x)) := by
  unfold sendSimpleNetworkMessage
  split
  · exact anglesBy_singleton fun _ _ h => nomatch h
  · exact anglesBy_nil _

theorem fftData_angle {encoderSize : UInt16} {view : Bytes} {d : FftData}
    (h : fftData encoderSize view = .ok d) : d.angle = angle d.azimuth encoderSize := by
  obtain ⟨_, -, h⟩ := bind_eq_ok.mp h
  obtain ⟨_, -, h⟩ := bind_eq_ok.mp h
  obtain ⟨_, -, h⟩ := bind_eq_ok.mp h
  obtain ⟨_, -, h⟩ := bind_eq_ok.mp h
  obtain ⟨_, -, h⟩ := bind_eq_ok.mp h
  rw [← Except.ok.inj h]

theorem navigationData_angle {encoderSize : UInt16} {view : Bytes} {d : NavigationData}
    (h : navigationData encoderSize view = .ok d) : d.angle = angle d.azimuth encoderSize := by
  obtain ⟨_, -, h⟩ := bind_eq_ok.mp h
  obtain ⟨_, -, h⟩ := bind_eq_ok.mp h
  obtain ⟨_, -, h⟩ := bind_eq_ok.mp h
  obtain ⟨_, -, h⟩ := bind_eq_ok.mp h
  obtain ⟨_, -, h⟩ := bind_eq_ok.mp h
  rw [← Except.ok.inj h]

section Step

variable {c : RadarClient} {msg : Network.Message} {r : RadarClient × List (Output x)}

/-- `handle_configuration_message` keeps the encoder size where a callback is set. -/
theorem handleConfigurationMessage_ok (h : c.handleConfigurationMessage msg = .ok r) :
    AnglesBy c.encoderSize r.2 ∧
      r.1.configurationDataCallback = c.configurationDataCallback ∧
      (c.configurationDataCallback = false → r.1.encoderSize = c.encoderSize) ∧
      (c.configurationDataCallback = true →
        Network.Configuration.encoderSize msg.data = .ok r.1.encoderSize) := by
  obtain ⟨r₁, htake, h⟩ := bind_eq_ok.mp h
  obtain ⟨hstate, hout⟩ := raw_ok r₁ h
  have hraw : AnglesBy c.encoderSize ([.rawConfigurationData msg.relinquish] : List (Output x)) :=
    anglesBy_singleton fun _ _ h => nomatch h
  have hangles (h₁ : AnglesBy c.encoderSize r₁.2) : AnglesBy c.encoderSize r.2 := by
    rcases hout with hout | hout
    · rwa [hout]
    · rw [hout]
      exact anglesBy_append h₁ hraw
  rw [hstate]
  split at htake
  · rename_i hcallback
    obtain ⟨data, protobuf, hsize, rfl⟩ := takeConfiguration_ok htake
    refine ⟨hangles (anglesBy_append ?_ (anglesBy_singleton fun _ _ h => nomatch h)), rfl,
      fun hnot => ?_, fun _ => hsize⟩
    · split
      · exact anglesBy_send _ _ _
      · exact anglesBy_nil _
    · rw [hcallback] at hnot
      cases hnot
  · rename_i hcallback
    obtain rfl := Except.ok.inj htake
    exact ⟨hangles (anglesBy_nil _), rfl, fun _ => rfl, fun hset => absurd hset hcallback⟩

theorem handleFftDataMessage_ok (h : c.handleFftDataMessage msg = .ok r) :
    r.1 = c ∧ AnglesBy c.encoderSize r.2 := by
  obtain ⟨out, hfft, h⟩ := bind_eq_ok.mp h
  obtain ⟨hstate, hout⟩ := raw_ok (c, out) h
  have hangles : AnglesBy c.encoderSize out := by
    split at hfft
    · cases hdata : fftData c.encoderSize msg.data with
      | error e =>
        rw [hdata] at hfft
        cases hfft
      | ok d =>
        rw [hdata] at hfft
        obtain rfl := Except.ok.inj hfft
        refine anglesBy_singleton fun azimuth θ h => ?_
        obtain ⟨rfl, rfl⟩ := Prod.mk.inj (Option.some.inj h)
        exact fftData_angle hdata
    · obtain rfl := Except.ok.inj hfft
      exact anglesBy_nil _
  refine ⟨hstate, ?_⟩
  rcases hout with hout | hout
  · rwa [hout]
  · rw [hout]
    exact anglesBy_append hangles (anglesBy_singleton fun _ _ h => nomatch h)

/-- Any frame: the angles, and that only a configuration frame changes the client. -/
theorem handleData_angles {f : Frame} (h : c.handleData f.bytes = .ok r) :
    AnglesBy c.encoderSize r.2 ∧
      (f.type ≠ .configuration → r.1 = c) ∧
      (f.type = .configuration →
        c.handleConfigurationMessage (.ofBuffer f.bytes) = .ok r) := by
  have htype : (Network.Message.ofBuffer f.bytes).type = f.type := rfl
  unfold handleData at h
  simp only [htype] at h
  by_cases hconf : f.type = .configuration
  · rw [if_pos hconf] at h
    exact ⟨(handleConfigurationMessage_ok h).1, fun hne => absurd hconf hne, fun _ => h⟩
  · rw [if_neg hconf] at h
    have hquiet {o : List (Output x)} (ho : r.2 = o) (hs : r.1 = c)
        (ha : AnglesBy c.encoderSize o) : AnglesBy c.encoderSize r.2 ∧
          (f.type ≠ .configuration → r.1 = c) ∧ (f.type = .configuration →
            c.handleConfigurationMessage (.ofBuffer f.bytes) = .ok r) :=
      ⟨ho ▸ ha, fun _ => hs, fun hc => absurd hc hconf⟩
    split at h
    · obtain ⟨hs, ha⟩ := handleFftDataMessage_ok h
      exact hquiet rfl hs ha
    split at h
    · obtain ⟨hs, ho | ⟨d, hd, ho⟩⟩ := guarded_ok h
      · exact hquiet ho hs (anglesBy_nil _)
      · refine hquiet ho hs (anglesBy_singleton fun azimuth θ h => ?_)
        obtain ⟨rfl, rfl⟩ := Prod.mk.inj (Option.some.inj h)
        exact navigationData_angle hd
    split at h
    · obtain rfl := Except.ok.inj h
      exact hquiet rfl rfl (anglesBy_nil _)
    split at h
    · obtain ⟨hs, ho | ⟨d, hd, ho⟩⟩ := guarded_ok h
      · exact hquiet ho hs (anglesBy_nil _)
      · exact hquiet ho hs (anglesBy_singleton fun _ _ h => nomatch h)
    split at h
    · obtain ⟨hs, ho | ⟨d, hd, ho⟩⟩ := guarded_ok h
      · exact hquiet ho hs (anglesBy_nil _)
      · exact hquiet ho hs (anglesBy_singleton fun _ _ h => nomatch h)
    · obtain rfl := Except.ok.inj h
      exact hquiet rfl rfl (anglesBy_nil _)

/-- One event: the encoder size is replaced by a configuration frame that meets a callback. -/
theorem step_encoderSize {e : Event} (h : c.step e = .ok r) :
    r.1.configurationDataCallback = e.registers c.configurationDataCallback ∧
      r.1.encoderSize =
        if c.configurationDataCallback then e.encoderSize.getD c.encoderSize else c.encoderSize := by
  cases e with
  | received f =>
    obtain ⟨-, hother, hconf⟩ := handleData_angles h
    by_cases htype : f.type = .configuration
    · obtain ⟨-, hcallback, hoff, hon⟩ := handleConfigurationMessage_ok (hconf htype)
      refine ⟨hcallback, ?_⟩
      have hsupplied : (Event.received f).encoderSize =
          (Network.Configuration.encoderSize f.bytes).toOption := if_pos htype
      rw [hsupplied]
      split
      · have hsize : Network.Configuration.encoderSize f.bytes = .ok r.1.encoderSize := hon ‹_›
        rw [hsize]
        rfl
      · exact hoff (Bool.not_eq_true _ ▸ ‹¬ _›)
    · have hsupplied : (Event.received f).encoderSize = none := if_neg htype
      rw [hother htype, hsupplied]
      exact ⟨rfl, (ite_self _).symm⟩
  | _ =>
    obtain rfl := Except.ok.inj h
    exact ⟨rfl, (ite_self _).symm⟩

/-- After a run the client holds the encoder size recorded last. -/
theorem run_encoderSize {events : List Event} (h : c.run events = .ok r) :
    r.1.encoderSize =
      (recordedSizes c.configurationDataCallback events).getLastD c.encoderSize := by
  induction events generalizing c r with
  | nil =>
    obtain rfl := Except.ok.inj h
    rfl
  | cons e es ih =>
    obtain ⟨r₁, r₂, hstep, hrun, rfl⟩ := run_cons h
    obtain ⟨hcallback, hsize⟩ := step_encoderSize hstep
    show r₂.1.encoderSize = _
    rw [ih hrun, hcallback, hsize, recordedSizes]
    cases c.configurationDataCallback with
    | false => rfl
    | true =>
      cases e.encoderSize with
      | none => rfl
      | some E => exact List.getLastD_cons.symm

end Step

/-! ## Angles -/

/-- A delivered object carries the angle for the size recorded last. -/
theorem delivers_angle {events : List Event} {f : Frame} {azimuth : UInt16} {θ : ExtRat}
    (h : Delivers x events f azimuth θ) : θ = angle azimuth (recordedSize events) := by
  obtain ⟨r, r', hrun, hstep, o, ho, hswept⟩ := h
  have hsize : r.1.encoderSize = recordedSize events := run_encoderSize hrun
  rw [← hsize]
  exact (handleData_angles hstep).1 o ho azimuth θ hswept

theorem toNat_cast_eq_zero {v : UInt16} : (v.toNat : ℚ) = 0 ↔ v = 0 := by
  rw [Nat.cast_eq_zero, ← UInt16.toNat_zero, UInt16.toNat_inj]

theorem isFinite_angle {azimuth encoderSize : UInt16} :
    (angle azimuth encoderSize).IsFinite ↔ encoderSize ≠ 0 := by
  unfold angle
  rw [ExtRat.isFinite_div, Ne, toNat_cast_eq_zero]

/-- Two encoder sizes give an azimuth the same angle. -/
theorem angle_inj {azimuth E E' : UInt16} :
    angle azimuth E = angle azimuth E' ↔ E = E' ∨ azimuth = 0 ∧ E ≠ 0 ∧ E' ≠ 0 := by
  have hcast {v w : UInt16} : (v.toNat : ℚ) = w.toNat ↔ v = w := by
    rw [Nat.cast_inj, UInt16.toNat_inj]
  have hproduct : (azimuth.toNat * 360 : ℚ) = 0 ↔ azimuth = 0 := by
    rw [mul_eq_zero_iff_right (by norm_num), toNat_cast_eq_zero]
  unfold angle
  rw [ExtRat.div_inj, hcast, hproduct, Ne, Ne, toNat_cast_eq_zero, toNat_cast_eq_zero]

/-- **Angles and configurations.** An object carries the angle for the latest configuration
    frame exactly if there is one and its encoder size is the one recorded last, or the azimuth
    is zero and neither size is. -/
theorem angle_follows_iff {events : List Event} {f : Frame} {azimuth : UInt16} {θ : ExtRat}
    (h : Delivers x events f azimuth θ) :
    FollowsConfiguration events azimuth θ ↔
      ∃ encoderSize, (suppliedSizes events).getLast? = some encoderSize ∧
        (recordedSize events = encoderSize ∨
          azimuth = 0 ∧ recordedSize events ≠ 0 ∧ encoderSize ≠ 0) := by
  have hθ := delivers_angle h
  constructor
  · intro hfollows
    obtain ⟨⟨E, hlatest, hangle⟩, -⟩ := hfollows
    exact ⟨E, hlatest, angle_inj.mp (hθ.symm.trans hangle)⟩
  · intro hsizes
    obtain ⟨E, hlatest, hsame⟩ := hsizes
    have hangle : θ = angle azimuth E := hθ.trans (angle_inj.mpr hsame)
    refine ⟨⟨E, hlatest, hangle⟩, fun hinf => ?_⟩
    have hzero : E = 0 := by
      rw [hangle, isFinite_angle, not_not] at hinf
      exact hinf
    rw [← hzero]
    exact List.mem_of_getLast? hlatest

/-- A configuration frame with the encoder size 400. -/
def configurationFrame : Frame :=
  ⟨10, [0, 0, 0, 0, 0, 0, 1, 144, 0, 0, 0, 0, 0, 0, 0, 0, 0, 0, 0, 0], by decide⟩

/-- A frame of FFT data with the azimuth 100. -/
def fftFrame : Frame := ⟨30, [0, 0, 0, 0, 0, 100, 0, 0, 0, 0, 0, 0, 0, 0], by decide⟩

theorem angle_follows_with_callback :
    FollowsConfiguration [.setFftDataCallback true, .setConfigurationDataCallback true,
      .received configurationFrame] 100 (angle 100 400) :=
  (angle_follows_iff (x := .unparsed) (f := fftFrame)
    ⟨_, _, rfl, rfl, .fftData ⟨angle 100 400, 100, 0, 0, 0, []⟩, List.mem_singleton.mpr rfl,
      rfl⟩).mpr ⟨400, rfl, .inl rfl⟩

/-- Without a configuration callback the same frames make the client divide by the initial 0. -/
theorem angle_without_callback :
    Delivers .unparsed [.setFftDataCallback true, .received configurationFrame] fftFrame 100
        .posInf ∧
      ¬ FollowsConfiguration [.setFftDataCallback true, .received configurationFrame] 100
        .posInf := by
  constructor
  · refine ⟨_, _, rfl, rfl, .fftData ⟨.posInf, 100, 0, 0, 0, []⟩, ?_, rfl⟩
    have hazimuth : (100 : UInt16).toNat = 100 := rfl
    have hangle : angle 100 0 = .posInf := by
      unfold angle ExtRat.div
      norm_num [hazimuth]
    rw [← hangle]
    exact List.mem_singleton.mpr rfl
  · intro hfollows
    obtain ⟨⟨E, hlatest, hangle⟩, -⟩ := hfollows
    have hsize : some 400 = some E := hlatest
    rw [← Option.some.inj hsize] at hangle
    have hfinite : (angle 100 400).IsFinite := isFinite_angle.mpr (by decide)
    rw [← hangle] at hfinite
    exact hfinite

end RadarClient

end Navtech
