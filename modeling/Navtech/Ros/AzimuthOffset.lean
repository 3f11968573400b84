/-
  Does the azimuth that a publisher writes to lie inside its image?

  `Laser_scan_publisher` and `B_scan_colossus_publisher` turn the azimuth of a sweep by
  `azimuth_offset` and take the number of azimuths off once if the sum has passed it. So the
  index is right for all sweeps exactly if the offset is not greater than that number, or below
  it where the greatest angle is rounded up to it (`inBounds_iff`). The offset has 16 bits without
  a sign; the parameter behind it is signed. Three steps may leave it too great: the constructor,
  which stores the parameter as it is, a configuration with fewer azimuths than the offset, and a
  refresh, which looks whether the parameter is too great but not whether it is negative.

  What the index depends on, and what changes it, is the same for both classes (`Rotation`).
  Along any run, the index and the writes stay in bounds exactly if each step keeps them there
  (`adjusted_inBounds_iff`).
-/
import Navtech.Lib.Transition
import Navtech.Ros.BScan
import Navtech.Ros.LaserScan

namespace Navtech

namespace Ros

open Buffer (resize)
open CheckedView (Succeeds bind_eq_ok toOption_eq_some)
open LaserScan (Scan)
open Network (Bytes)
open Transition (EveryState EveryStep everyState_iff)

/-! ## The rotation of the index -/

/-- What the index depends on, and the parameter `azimuth_offset`. -/
structure Rotation where
  azimuthSamples : UInt16
  azimuthOffset : UInt16
  parameter : Int64

namespace Rotation

/-- What an event does to these three numbers. -/
inductive Change where
  | configuration (azimuthSamples : UInt16)
  | set (parameter : Int64)
  | refresh
  | none

/-- A configuration and the user set what is theirs; a refresh takes the parameter over if it is
    not above the number of azimuths, and else sets it to that. -/
def after (r : Rotation) : Change → Rotation
  | .configuration azimuthSamples => { r with azimuthSamples := azimuthSamples }
  | .set parameter => { r with parameter := parameter }
  | .refresh =>
    let azimuthOffset := refreshed (notAbove r.azimuthSamples) (ofMember r.azimuthSamples)
      r.parameter (temp r.parameter) r.azimuthOffset
    { r with azimuthOffset := azimuthOffset.1, parameter := azimuthOffset.2 }
  | .none => r

/-- The parameters are read after a sweep, if enough rotations have been counted by then. -/
def ofSweep (rotationCount lastAzimuth : Nat) (data : FftData) : Change :=
  if rotationCount + (if data.azimuth.toNat < lastAzimuth then 1 else 0) ≥ configPublishCount then
    .refresh
  else .none

/-- `adjusted_azimuth_index`, for a sweep at this angle. -/
def adjusted (undefined : ExtRat → Int) (r : Rotation) (angle : ℚ) : Int :=
  adjustedAzimuthIndex (azimuthIndex undefined (.finite angle) r.azimuthSamples) r.azimuthOffset
    r.azimuthSamples

/-- For every angle of the circle the index is one of the azimuths. -/
def InBounds (undefined : ExtRat → Int) (r : Rotation) : Prop :=
  r.azimuthSamples ≠ 0 → ∀ angle, InCircle angle →
    0 ≤ r.adjusted undefined angle ∧ r.adjusted undefined angle < r.azimuthSamples.toNat

/-- A configuration has a number of azimuths that the offset fits, and so does a parameter that a
    refresh takes over though it is negative, or the number of azimuths itself. -/
def Keeps (r : Rotation) : Change → Prop
  | .configuration azimuthSamples => azimuthSamples = 0 ∨ OffsetFits r.azimuthOffset azimuthSamples
  | .refresh => temp r.parameter < 0 ∨ temp r.parameter = r.azimuthSamples.toNat →
      r.azimuthSamples = 0 ∨ OffsetFits (UInt16.ofInt (temp r.parameter)) r.azimuthSamples
  | _ => True

variable {undefined : ExtRat → Int} {r : Rotation}

theorem inBounds_iff : r.InBounds undefined ↔
    (r.azimuthSamples ≠ 0 → OffsetFits r.azimuthOffset r.azimuthSamples) := by
  refine forall_congr' fun hsamples => ?_
  constructor
  · intro h
    have hlast := azimuthIndex_lastAngle undefined hsamples
    have hturned := (adjustedAzimuthIndex_bounds (azimuthIndex_bounds undefined hsamples
      inCircle_lastAngle).1).mp (h lastAngle inCircle_lastAngle)
    refine ⟨by omega, fun hreaches => ?_⟩
    rw [(azimuthIndex_eq_size_iff undefined hsamples inCircle_lastAngle).mpr ⟨rfl, hreaches⟩]
      at hturned
    omega
  · intro h angle hcircle
    obtain ⟨hindex0, hindexle⟩ := azimuthIndex_bounds undefined hsamples hcircle
    refine (adjustedAzimuthIndex_bounds hindex0).mpr ?_
    rcases lt_or_eq_of_le hindexle with hlt | heq
    · have hle := h.1
      omega
    · have hlt := h.2 ((azimuthIndex_eq_size_iff undefined hsamples hcircle).mp heq).2
      omega

/-- **One change** keeps the index in bounds exactly under its condition. -/
theorem after_inBounds_iff (c : Change) (h : r.InBounds undefined) :
    (r.after c).InBounds undefined ↔ r.Keeps c := by
  rw [inBounds_iff] at h ⊢
  cases c with
  | configuration azimuthSamples => exact or_iff_not_imp_left.symm
  | set parameter => exact iff_of_true h trivial
  | none => exact iff_of_true h trivial
  | refresh =>
    by_cases hvalid : notAbove r.azimuthSamples (temp r.parameter) = true
    · have hafter : r.after .refresh =
          { r with azimuthOffset := UInt16.ofInt (temp r.parameter) } := by
        simp only [after, refreshed_of_valid hvalid]
      rw [hafter]
      change (r.azimuthSamples ≠ 0 →
        OffsetFits (UInt16.ofInt (temp r.parameter)) r.azimuthSamples) ↔ (_ → _)
      by_cases hedge : temp r.parameter < 0 ∨ temp r.parameter = r.azimuthSamples.toNat
      · rw [forall_prop_of_true hedge, or_iff_not_imp_left]
      · -- between zero and the number of azimuths an offset always fits
        refine iff_of_true (fun _ => ?_) fun h => absurd h hedge
        have hle := notAbove_iff.mp hvalid
        have hstored := toNat_ofInt_of_within (within_iff.mpr ⟨by omega, hle⟩)
        exact ⟨by omega, fun _ => by omega⟩
    · have hafter : r.after .refresh = { r with parameter := ofMember r.azimuthSamples } := by
        simp only [after, refreshed_of_not_valid hvalid]
      rw [hafter]
      refine iff_of_true h fun hedge => absurd (notAbove_iff.mpr ?_) hvalid
      omega

/-- The refresh that the publishers share. -/
theorem refresh_eq (azimuthSamples rangeInBins : UInt16) (p : WindowParameters) (w : Window) :
    Rotation.mk azimuthSamples (Ros.refresh azimuthSamples rangeInBins p w).2.azimuthOffset
        (Ros.refresh azimuthSamples rangeInBins p w).1.azimuthOffset =
      after ⟨azimuthSamples, w.azimuthOffset, p.azimuthOffset⟩ .refresh := rfl

/-- The same, where a publisher refreshes only if that is due. -/
theorem ite_refresh {σ : Type} {rotation : σ → Rotation} {st refreshed : σ} (due : Prop)
    [Decidable due] (h : rotation refreshed = (rotation st).after .refresh) :
    rotation (if due then refreshed else st) =
      (rotation st).after (if due then .refresh else .none) := by
  split
  · exact h
  · rfl

end Rotation

/-! ## `Laser_scan_publisher` -/

namespace LaserScanPublisher

inductive Event where
  | configuration (data : ConfigurationData)
  | sweep (data : FftData)
  /-- The user sets parameters. -/
  | set (p : WindowParameters) (powerThreshold : Int64)

/-- A handler that writes out of bounds makes no step. -/
def step (undefined : ExtRat → Int) (st : LaserScanPublisher) : Event → Option LaserScanPublisher
  | .configuration data => some (st.configurationDataHandler data)
  | .sweep data => (st.fftDataHandler undefined data).toOption.map Prod.fst
  | .set p powerThreshold =>
    some { st with parameters := p, powerThresholdParameter := powerThreshold }

/-- The three numbers of the publisher. -/
def rotation (st : LaserScanPublisher) : Rotation :=
  ⟨st.azimuthSamples, st.window.azimuthOffset, st.parameters.azimuthOffset⟩

/-- A sweep refreshes when enough rotations have gone by. -/
def change (st : LaserScanPublisher) : Event → Rotation.Change
  | .configuration data => .configuration data.azimuthSamples
  | .sweep data => Rotation.ofSweep st.rotationCount st.lastAzimuth data
  | .set p _ => .set p.azimuthOffset

/-- For every sweep of the circle, the index is one of the azimuths, and the values can be
    stored there. -/
def WritesInBounds (undefined : ExtRat → Int) (st : LaserScanPublisher) : Prop :=
  st.rotation.InBounds undefined ∧
    (st.azimuthSamples ≠ 0 → ∀ angle, InCircle angle → ∀ values,
      Succeeds (st.store (st.rotation.adjusted undefined angle) values))

/-- The vectors have a place for each azimuth. -/
structure Sized (st : LaserScanPublisher) : Prop where
  ranges : st.rangeValues.length = st.azimuthSamples.toNat
  intensities : st.intensityValues.length = st.azimuthSamples.toNat

variable {undefined : ExtRat → Int} {st st' : LaserScanPublisher} {e : Event}

theorem length_resize {α : Type} (values : List α) (size : Nat) (zero : α) :
    (resize values size zero).length = size := by
  rw [resize, List.length_append, List.length_take, List.length_replicate]
  omega

theorem writesInBounds_iff (h : st.Sized) :
    st.WritesInBounds undefined ↔ st.rotation.InBounds undefined := by
  refine and_iff_left_of_imp fun hin hsamples angle hcircle values => ?_
  obtain ⟨hpos, hlt⟩ := hin hsamples angle hcircle
  have hlt' : st.rotation.adjusted undefined angle < (st.azimuthSamples.toNat : Int) := hlt
  refine ⟨_, bind_eq_ok.mpr ⟨_, if_pos ⟨hpos, ?_⟩, bind_eq_ok.mpr ⟨_, if_pos ⟨hpos, ?_⟩, rfl⟩⟩⟩
  · rwa [h.ranges]
  · rwa [h.intensities]

theorem endRotation_fst (st : LaserScanPublisher) (data : FftData) :
    (st.endRotation data).1 = { st with
      rotationCount := st.rotationCount + if data.azimuth.toNat < st.lastAzimuth then 1 else 0 } := by
  unfold endRotation
  split <;> rfl

/-- What the handler of a sweep does, up to the refresh. -/
theorem fftDataHandler_fst {data : FftData} {handled : LaserScanPublisher × Option Scan}
    (h : st.fftDataHandler undefined data = .ok handled) :
    ∃ (values : ExtRat × ℚ) (adjusted : Nat), handled.1 = refreshIfDue { st with
      rangeValues := st.rangeValues.set adjusted values.1
      intensityValues := st.intensityValues.set adjusted values.2
      rotationCount := st.rotationCount + if data.azimuth.toNat < st.lastAzimuth then 1 else 0
      lastAzimuth := data.azimuth.toNat } := by
  obtain ⟨values, -, hrest⟩ := bind_eq_ok.mp h
  obtain ⟨st', hst', hhandled⟩ := bind_eq_ok.mp hrest
  obtain rfl := store_eq_ok hst'
  rw [← Except.ok.inj hhandled]
  dsimp only
  rw [endRotation_fst]
  exact ⟨values, _, rfl⟩

theorem sized_refreshIfDue (h : st.Sized) : st.refreshIfDue.Sized := by
  rw [refreshIfDue]
  split <;> exact ⟨h.ranges, h.intensities⟩

theorem sized_step (h : st.Sized) (hstep : st.step undefined e = some st') : st'.Sized := by
  cases e with
  | configuration data =>
    obtain rfl := Option.some.inj hstep
    exact ⟨length_resize _ _ _, length_resize _ _ _⟩
  | set p powerThreshold =>
    obtain rfl := Option.some.inj hstep
    exact ⟨h.ranges, h.intensities⟩
  | sweep data =>
    obtain ⟨handled, hhandled, rfl⟩ := Option.map_eq_some_iff.mp hstep
    obtain ⟨values, adjusted, hst'⟩ := fftDataHandler_fst (toOption_eq_some.mp hhandled)
    rw [hst']
    exact sized_refreshIfDue
      ⟨List.length_set.trans h.ranges, List.length_set.trans h.intensities⟩

/-- A step changes what the index depends on as `change` says. -/
theorem rotation_step (hstep : st.step undefined e = some st') :
    st'.rotation = st.rotation.after (st.change e) := by
  cases e with
  | configuration data =>
    obtain rfl := Option.some.inj hstep
    rfl
  | set p powerThreshold =>
    obtain rfl := Option.some.inj hstep
    rfl
  | sweep data =>
    obtain ⟨handled, hhandled, rfl⟩ := Option.map_eq_some_iff.mp hstep
    obtain ⟨values, adjusted, hst'⟩ := fftDataHandler_fst (toOption_eq_some.mp hhandled)
    rw [hst']
    exact Rotation.ite_refresh _ (Rotation.refresh_eq _ _ _ _)

theorem sized_initial (p : WindowParameters) (powerThreshold : Int64) :
    (initial p powerThreshold).Sized := ⟨rfl, rfl⟩

theorem everyState_writesInBounds_iff (undefined : ExtRat → Int) (p : WindowParameters)
    (powerThreshold : Int64) (events : List Event) :
    EveryState (step undefined) (WritesInBounds undefined) (initial p powerThreshold) events ↔
      EveryStep (step undefined) (fun st e => st.rotation.Keeps (st.change e))
        (initial p powerThreshold) events := by
  refine everyState_iff (J := Sized) (fun h hstep => sized_step h hstep) ?_ events
    (sized_initial p powerThreshold) ((writesInBounds_iff (sized_initial p powerThreshold)).mpr
      fun hsamples => absurd rfl hsamples)
  intro st e st' h hin hstep
  rw [writesInBounds_iff (sized_step h hstep), rotation_step hstep]
  exact Rotation.after_inBounds_iff _ hin.1

end LaserScanPublisher

/-! ## `B_scan_colossus_publisher` -/

namespace BScanColossusPublisher

open BScan

/-- What happens to the publisher: a message, or a change of the parameters. -/
inductive Event where
  | message (m : Message)
  /-- The user sets parameters. -/
  | set (p : WindowParameters)

def step (undefined : ExtRat → Int) (st : BScanColossusPublisher) :
    Event → Option BScanColossusPublisher
  | .message m => (handle undefined st m).toOption.map Prod.fst
  | .set p => some { st with parameters := p }

def rotation (st : BScanColossusPublisher) : Rotation :=
  ⟨st.azimuthSamples, st.window.azimuthOffset, st.parameters.azimuthOffset⟩

/-- The refresh comes at the same sweeps. -/
def change (st : BScanColossusPublisher) : Event → Rotation.Change
  | .message (.configuration data) => .configuration data.azimuthSamples
  | .message (.sweep data) => Rotation.ofSweep st.rotationCount st.lastAzimuth data
  | .set p => .set p.azimuthOffset

/-- For every sweep of the circle, the index is one of the azimuths, and as many samples as
    there are bins can be written to the row, in the window or outside. -/
def WritesInBounds (undefined : ExtRat → Int) (st : BScanColossusPublisher) : Prop :=
  st.rotation.InBounds undefined ∧
    (st.azimuthSamples ≠ 0 → ∀ angle, InCircle angle → ∀ index samples,
      samples.length ≤ st.rangeInBins.toNat →
      Succeeds (st.writeSweep index (st.rotation.adjusted undefined angle) samples))

variable {undefined : ExtRat → Int} {st st' : BScanColossusPublisher} {e : Event}

theorem writesInBounds_iff (h : st.Roomy) :
    st.WritesInBounds undefined ↔ st.rotation.InBounds undefined := by
  refine and_iff_left_of_imp fun hin hsamples angle hcircle index samples hlength => ?_
  obtain ⟨hpos, hlt⟩ := hin hsamples angle hcircle
  exact succeeds_writeSweep h index hpos hlt hlength

/-- The end of a rotation pushes an image to the vector, or to what is left of it. -/
theorem endRotation_fst {data : FftData} {published : BScanColossusPublisher × Option Image}
    (h : st.endRotation data = .ok published) :
    ∃ values, published.1 = pushImage { st with
      intensityValues := values
      rotationCount := st.rotationCount + 1 } := by
  obtain ⟨handled, hhandled, hpublished⟩ := bind_eq_ok.mp h
  obtain ⟨size, -, himage⟩ := bind_eq_ok.mp hhandled
  rw [← Except.ok.inj hpublished]
  split at himage
  · rw [← Except.ok.inj himage]
    exact ⟨st.intensityValues, rfl⟩
  · rw [← Except.ok.inj himage]
    exact ⟨[], rfl⟩

/-- What the handler of a sweep does, up to the refresh. -/
theorem fftDataHandler_fst {data : FftData} {handled : BScanColossusPublisher × Option Image}
    (hroomy : st.Roomy) (h : st.fftDataHandler undefined data = .ok handled) :
    ∃ values : Bytes, st.imageSize ≤ values.length ∧ handled.1 = refreshIfDue { st with
      intensityValues := values
      rotationCount := st.rotationCount + if data.azimuth.toNat < st.lastAzimuth then 1 else 0
      lastAzimuth := data.azimuth.toNat } := by
  obtain ⟨buffer, hbuffer, hrest⟩ := bind_eq_ok.mp h
  obtain ⟨rotated, hrotated, hlast⟩ := bind_eq_ok.mp hrest
  rw [← Except.ok.inj hlast]
  split at hrotated
  · rename_i hfall
    have hends : data.azimuth.toNat < st.lastAzimuth := hfall
    obtain ⟨values, hvalues⟩ := endRotation_fst hrotated
    refine ⟨values ++ List.replicate st.imageSize 0, ?_, ?_⟩
    · rw [List.length_append, List.length_replicate]
      exact Nat.le_add_left _ _
    · rw [hvalues, if_pos hends]
      rfl
  · rename_i hfall
    have hends : ¬ data.azimuth.toNat < st.lastAzimuth := hfall
    refine ⟨buffer, ?_, ?_⟩
    · rw [length_of_writeSweep hbuffer]
      exact hroomy.le
    · rw [← Except.ok.inj hrotated, if_neg hends]
      rfl

theorem roomy_refreshIfDue (h : st.Roomy) : st.refreshIfDue.Roomy := by
  rw [refreshIfDue]
  split <;> exact ⟨h.le, h.lt⟩

/-- After a configuration that is handled. -/
theorem configurationDataHandler_eq_ok {data : ConfigurationData}
    (h : st.configurationDataHandler data = .ok st') :
    sizeOf data < 2 ^ 31 ∧ st' = pushImage { st with
      azimuthSamples := data.azimuthSamples
      rangeInBins := data.rangeInBins
      bufferLength := data.azimuthSamples.toNat * data.rangeInBins.toNat } := by
  have hlt := sizeOf_lt_of_ok h
  exact ⟨hlt, (Except.ok.inj ((configurationDataHandler_eq hlt).symm.trans h)).symm⟩

/-- A step leaves room for an image, and changes what the index depends on as `change` says. -/
theorem step_spec (h : st.Roomy) (hstep : st.step undefined e = some st') :
    st'.Roomy ∧ st'.rotation = st.rotation.after (st.change e) := by
  cases e with
  | set p =>
    obtain rfl := Option.some.inj hstep
    exact ⟨⟨h.le, h.lt⟩, rfl⟩
  | message m =>
    obtain ⟨handled, hhandled, rfl⟩ := Option.map_eq_some_iff.mp hstep
    cases m with
    | configuration data =>
      obtain ⟨st', hst', hpair⟩ := bind_eq_ok.mp (toOption_eq_some.mp hhandled)
      obtain ⟨hlt, rfl⟩ := configurationDataHandler_eq_ok hst'
      rw [← Except.ok.inj hpair]
      refine ⟨⟨?_, hlt⟩, rfl⟩
      rw [length_pushImage]
      exact Nat.le_add_left _ _
    | sweep data =>
      obtain ⟨values, hvalues, hst'⟩ := fftDataHandler_fst h (toOption_eq_some.mp hhandled)
      rw [hst']
      exact ⟨roomy_refreshIfDue ⟨hvalues, h.lt⟩,
        Rotation.ite_refresh _ (Rotation.refresh_eq _ _ _ _)⟩

theorem everyState_writesInBounds_iff (undefined : ExtRat → Int) (p : WindowParameters)
    (events : List Event) :
    EveryState (step undefined) (WritesInBounds undefined) (initial p) events ↔
      EveryStep (step undefined) (fun st e => st.rotation.Keeps (st.change e)) (initial p)
        events := by
  have hinitial := (sized_initial p).roomy
  refine everyState_iff (J := Roomy) (fun h hstep => (step_spec h hstep).1) ?_ events
    hinitial ((writesInBounds_iff hinitial).mpr fun hsamples => absurd rfl hsamples)
  intro st e st' h hin hstep
  obtain ⟨hroomy, hrotation⟩ := step_spec h hstep
  rw [writesInBounds_iff hroomy, hrotation]
  exact Rotation.after_inBounds_iff _ hin.1

end BScanColossusPublisher

end Ros

end Navtech
