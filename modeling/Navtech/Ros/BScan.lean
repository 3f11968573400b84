/-
  `B_scan_colossus_publisher`: the image of a rotation, one row of bins for each azimuth, kept
  in one vector.

  A configuration message appends an image of zeros to the vector. So does the end of a
  rotation, after the image has been published and moved out of the vector; it is published only
  if the vector has the size of an image. A second configuration message therefore leaves two
  images in the vector, from when on nothing is published and every rotation appends one more.

  Each message keeps the size right that meets `Fits`: a configuration message has to find an
  image size of zero, as the first one does, and a sweep must not be written to an image
  without rows, or to the row behind the last one. The last happens to the greatest angle below
  360, where its quotient is rounded up. No other run keeps it (`sizeKept_iff`).

  A write outside the vector is a `Fault` here, and so is an `int` that overflows. Logging and
  the request that a configuration message is answered with are left out.
-/
import Navtech.Lib.CheckedView
import Navtech.Ros.Parameters

namespace Navtech

namespace Ros

open CheckedView (Succeeds bind_eq_ok)
open Network (Bytes)

namespace BScan

/-- A write out of bounds, or a product that no `int` holds. -/
inductive Fault where
  /-- The element `index` of a vector of `size` elements is written. -/
  | outOfBounds (index : Int) (size : Nat)
  | overflow (value : Int)
deriving DecidableEq, Repr

/-- The result of an operation on two `int`s. -/
def toInt (n : Int) : Except Fault Int :=
  if -2 ^ 31 ≤ n ∧ n < 2 ^ 31 then .ok n else .error (.overflow n)

/-- `buffer[index] = v`. -/
def writeAt (buffer : Bytes) (index : Int) (v : UInt8) : Except Fault Bytes :=
  if 0 ≤ index ∧ index < buffer.length then .ok (buffer.set index.toNat v)
  else .error (.outOfBounds index buffer.length)

/-- A loop that writes one value after the other, from the bin `y` on, each at the place of its
    bin. -/
def writeRow (place : Nat → Except Fault Int) : Nat → Bytes → Bytes → Except Fault Bytes
  | _, [], buffer => .ok buffer
  | y, v :: values, buffer => do
    let index ← place y
    let buffer ← writeAt buffer index v
    writeRow place (y + 1) values buffer

/-- The image that is published. -/
structure Image where
  ntpSeconds : UInt32
  ntpSplitSeconds : UInt32
  height : UInt16
  width : UInt16
  step : UInt16
  data : Bytes
deriving DecidableEq, Repr

end BScan

open BScan

/-- The members that the handlers read. -/
structure BScanColossusPublisher where
  parameters : WindowParameters
  window : Window
  intensityValues : Bytes
  azimuthSamples : UInt16
  rangeInBins : UInt16
  bufferLength : Int
  lastAzimuth : Nat
  rotationCount : Nat
deriving DecidableEq, Repr

namespace BScanColossusPublisher

/-- After the constructor. -/
def initial (p : WindowParameters) : BScanColossusPublisher where
  parameters := p
  window := p.window
  intensityValues := []
  azimuthSamples := 0
  rangeInBins := 0
  bufferLength := 0
  lastAzimuth := 0
  rotationCount := 0

/-- The size of an image. -/
def imageSize (st : BScanColossusPublisher) : Nat :=
  st.azimuthSamples.toNat * st.rangeInBins.toNat

/-- The two loops that push a zero for each bin of each azimuth. -/
def pushImage (st : BScanColossusPublisher) : BScanColossusPublisher :=
  { st with intensityValues := st.intensityValues ++ List.replicate st.imageSize 0 }

/-- The message, with what is in the vector. -/
def image (st : BScanColossusPublisher) (data : FftData) : Image where
  ntpSeconds := data.ntpSeconds
  ntpSplitSeconds := data.ntpSplitSeconds
  height := st.azimuthSamples
  width := st.rangeInBins
  step := st.rangeInBins
  data := st.intensityValues

/-- The size of the vector is compared with the image's. The vector is moved into the message
    and is empty then. -/
def imageDataHandler (st : BScanColossusPublisher) (data : FftData) :
    Except Fault (BScanColossusPublisher × Option Image) := do
  let size ← toInt (st.azimuthSamples.toNat * st.rangeInBins.toNat)
  if (st.intensityValues.length : Int) ≠ size then .ok (st, none)
  else .ok ({ st with intensityValues := [] }, some (st.image data))

/-- `(adjusted_azimuth_index * range_in_bins) + y`, where `y` is unsigned. -/
def unsignedPlace (st : BScanColossusPublisher) (adjusted : Int) (y : Nat) :
    Except Fault Int := do
  let row ← toInt (adjusted * st.rangeInBins.toNat)
  return (row + y).bmod (2 ^ 32)

/-- The same, where `y` is an `int`. -/
def signedPlace (st : BScanColossusPublisher) (adjusted : Int) (y : Nat) :
    Except Fault Int := do
  let row ← toInt (adjusted * st.rangeInBins.toNat)
  toInt (row + y)

/-- What the samples of a sweep in the window are written as. -/
def rowOf (st : BScanColossusPublisher) (samples : Bytes) : Bytes :=
  samples.mapIdx fun y v => if st.window.holdsBin y then v else 0

/-- The sweep is written to its row of the image, or the row is cleared if the sweep is not in
    the window. -/
def writeSweep (st : BScanColossusPublisher) (index adjusted : Int) (samples : Bytes) :
    Except Fault Bytes :=
  if st.window.holdsAzimuth index then
    writeRow (st.unsignedPlace adjusted) 0 (st.rowOf samples) st.intensityValues
  else
    writeRow (st.signedPlace adjusted) 0 (List.replicate st.rangeInBins.toNat 0)
      st.intensityValues

/-- The parameters are read. -/
def refresh (st : BScanColossusPublisher) : BScanColossusPublisher :=
  let window := Ros.refresh st.azimuthSamples st.rangeInBins st.parameters st.window
  { st with
    parameters := window.1
    window := window.2
    rotationCount := 0 }

/-- `rotation_count >= config_publish_count`. -/
def refreshIfDue (st : BScanColossusPublisher) : BScanColossusPublisher :=
  if st.rotationCount ≥ configPublishCount then st.refresh else st

/-- At the end of a rotation. -/
def endRotation (st : BScanColossusPublisher) (data : FftData) :
    Except Fault (BScanColossusPublisher × Option Image) := do
  let published ← imageDataHandler { st with rotationCount := st.rotationCount + 1 } data
  return (published.1.pushImage, published.2)

/-- `fft_data_handler` writes the sweep into the buffer before it looks for the end of the
    rotation. -/
def fftDataHandler (undefined : ExtRat → Int) (st : BScanColossusPublisher) (data : FftData) :
    Except Fault (BScanColossusPublisher × Option Image) := do
  let index := azimuthIndex undefined data.angle st.azimuthSamples
  let adjusted := adjustedAzimuthIndex index st.window.azimuthOffset st.azimuthSamples
  let buffer ← st.writeSweep index adjusted data.data
  let st := { st with intensityValues := buffer }
  let rotated ← (if data.azimuth.toNat < st.lastAzimuth then st.endRotation data
    else .ok (st, none))
  return (refreshIfDue { rotated.1 with lastAzimuth := data.azimuth.toNat }, rotated.2)

/-- `configuration_data_handler` puts a black image behind what is in the buffer. -/
def configurationDataHandler (st : BScanColossusPublisher) (data : ConfigurationData) :
    Except Fault BScanColossusPublisher := do
  let bufferLength ← toInt (data.azimuthSamples.toNat * data.rangeInBins.toNat)
  return pushImage { st with
    azimuthSamples := data.azimuthSamples
    rangeInBins := data.rangeInBins
    bufferLength := bufferLength }

/-! ## Runs -/

/-- What the client hands over. -/
inductive Message where
  | configuration (data : ConfigurationData)
  | sweep (data : FftData)

/-- It is no sweep. -/
def Message.isConfiguration : Message → Bool
  | .configuration _ => true
  | .sweep _ => false

/-- The message is a sweep that starts a rotation. -/
def Message.endsRotation (st : BScanColossusPublisher) : Message → Prop
  | .configuration _ => False
  | .sweep data => data.azimuth.toNat < st.lastAzimuth

/-- The handler that is set for it. -/
def handle (undefined : ExtRat → Int) (st : BScanColossusPublisher) :
    Message → Except Fault (BScanColossusPublisher × Option Image)
  | .configuration data => do
    let st ← st.configurationDataHandler data
    return (st, none)
  | .sweep data => st.fftDataHandler undefined data

/-- Every message of a run meets `P` in the state in which it is handled. -/
def Along (undefined : ExtRat → Int) (P : BScanColossusPublisher → Message → Prop) :
    BScanColossusPublisher → List Message → Prop
  | _, [] => True
  | st, m :: messages => P st m ∧
      ∀ handled, handle undefined st m = .ok handled → Along undefined P handled.1 messages

/-- After each message, no fault has occurred, and the vector has the size of an image, once
    there has been a configuration message; and from then on every rotation that ends is
    published. -/
def SizeKept (undefined : ExtRat → Int) : Bool → BScanColossusPublisher → List Message → Prop
  | _, _, [] => True
  | configured, st, m :: messages =>
      ∃ handled, handle undefined st m = .ok handled ∧
        ((configured || m.isConfiguration) = true →
          handled.1.intensityValues.length = handled.1.imageSize) ∧
        (configured = true → m.endsRotation st → handled.2.isSome = true) ∧
        SizeKept undefined (configured || m.isConfiguration) handled.1 messages

/-- A sweep of the radar that has been configured. -/
inductive Admissible (st : BScanColossusPublisher) : Message → Prop where
  | configuration (data : ConfigurationData) : Admissible st (.configuration data)
  | sweep (data : FftData) (q : ℚ) : data.angle = .finite q → InCircle q →
      data.data.length ≤ st.rangeInBins.toNat →
      st.window.azimuthOffset.toNat ≤ st.azimuthSamples.toNat → Admissible st (.sweep data)

/-- The image size a configuration message asks for. -/
def sizeOf (data : ConfigurationData) : Nat :=
  data.azimuthSamples.toNat * data.rangeInBins.toNat

/-- A sweep with this azimuth has nothing to be written: no samples in the window, or no bins to
    be cleared outside. -/
def NothingToWrite (st : BScanColossusPublisher) (index : Int) (samples : Bytes) : Prop :=
  if st.window.holdsAzimuth index = true then samples = [] else st.rangeInBins = 0

/-- The sweep is turned to the row behind the last one. -/
def PassesEnd (st : BScanColossusPublisher) (data : FftData) : Prop :=
  data.angle = .finite lastAngle ∧ ReachesEnd st.azimuthSamples ∧
    st.window.azimuthOffset = st.azimuthSamples

/-- A configuration message finds an image size of zero and has one that is an `int`. A sweep is
    not written if there are no rows, or to the row behind the last one. -/
def Fits (st : BScanColossusPublisher) : Message → Prop
  | .configuration data =>
      st.imageSize = 0 ∧ sizeOf data < 2 ^ 31
  | .sweep data =>
      (st.azimuthSamples = 0 → st.NothingToWrite 0 data.data) ∧
        (st.PassesEnd data → st.NothingToWrite st.azimuthSamples.toNat data.data)

/-! ## One row -/

theorem toInt_of_lt {n : Int} (h0 : 0 ≤ n) (h : n < 2 ^ 31) : toInt n = .ok n :=
  if_pos ⟨by omega, h⟩

theorem writeAt_of_lt {buffer : Bytes} {index : Int} (v : UInt8) (h0 : 0 ≤ index)
    (h : index < buffer.length) : writeAt buffer index v = .ok (buffer.set index.toNat v) :=
  if_pos ⟨h0, h⟩

theorem length_of_writeAt {buffer buffer' : Bytes} {index : Int} {v : UInt8}
    (h : writeAt buffer index v = .ok buffer') : buffer'.length = buffer.length := by
  unfold writeAt at h
  split at h
  · obtain rfl := Except.ok.inj h
    exact List.length_set
  · exact nomatch h

theorem length_of_writeRow {place : Nat → Except Fault Int} (values : Bytes) :
    ∀ {y : Nat} {buffer buffer' : Bytes}, writeRow place y values buffer = .ok buffer' →
      buffer'.length = buffer.length := by
  induction values with
  | nil =>
    intro y buffer buffer' h
    obtain rfl := Except.ok.inj h
    rfl
  | cons v values ih =>
    intro y buffer buffer' h
    obtain ⟨index, _, hrest⟩ := bind_eq_ok.mp h
    obtain ⟨next, hwrite, hrow⟩ := bind_eq_ok.mp hrest
    rw [ih hrow, length_of_writeAt hwrite]

/-- A row can be written if each of its places is in the vector. -/
theorem succeeds_writeRow {place : Nat → Except Fault Int} (values : Bytes) :
    ∀ {y : Nat} {buffer : Bytes},
      (∀ k < values.length, ∃ index, place (y + k) = .ok index ∧ 0 ≤ index ∧
        index < buffer.length) →
      Succeeds (writeRow place y values buffer) := by
  induction values with
  | nil => exact fun {_ buffer} _ => ⟨buffer, rfl⟩
  | cons v values ih =>
    intro y buffer hplace
    obtain ⟨index, hindex, h0, hlt⟩ := hplace 0 (by simp)
    obtain ⟨buffer', hrow⟩ := @ih (y + 1) (buffer.set index.toNat v) fun k hk => by
      have h := hplace (k + 1) (by simpa using hk)
      rw [List.length_set]
      rwa [show y + (k + 1) = y + 1 + k by omega] at h
    refine ⟨buffer', bind_eq_ok.mpr ⟨index, hindex, ?_⟩⟩
    exact bind_eq_ok.mpr ⟨_, writeAt_of_lt v h0 hlt, hrow⟩

/-- Nothing can be written if the first place is outside the vector. -/
theorem succeeds_writeRow_outside {place : Nat → Except Fault Int} {values buffer : Bytes}
    {y : Nat} (houtside : ∀ index, place y = .ok index → ¬ (0 ≤ index ∧ index < buffer.length)) :
    Succeeds (writeRow place y values buffer) ↔ values = [] := by
  cases values with
  | nil => exact iff_of_true ⟨buffer, rfl⟩ rfl
  | cons v values =>
    refine iff_of_false ?_ (List.cons_ne_nil v values)
    rintro ⟨written, hrow⟩
    obtain ⟨index, hindex, hrest⟩ := bind_eq_ok.mp hrow
    obtain ⟨buffer', hwrite, _⟩ := bind_eq_ok.mp hrest
    rw [writeAt, if_neg (houtside index hindex)] at hwrite
    exact nomatch hwrite

variable {st : BScanColossusPublisher} {undefined : ExtRat → Int} {data : FftData}

/-- The vector has the size of an image, and that is an `int`. -/
structure Sized (st : BScanColossusPublisher) : Prop where
  length : st.intensityValues.length = st.imageSize
  lt : st.imageSize < 2 ^ 31

/-- The vector has room for an image, and its size is an `int`. -/
structure Roomy (st : BScanColossusPublisher) : Prop where
  le : st.imageSize ≤ st.intensityValues.length
  lt : st.imageSize < 2 ^ 31

theorem Sized.roomy (h : st.Sized) : st.Roomy := ⟨h.length.ge, h.lt⟩

/-- The places of a row that the image has. -/
theorem place_bounds (hroomy : st.Roomy) {adjusted : Int} (h0 : 0 ≤ adjusted)
    (hrow : adjusted < st.azimuthSamples.toNat) {y : Nat} (hy : y < st.rangeInBins.toNat) :
    0 ≤ adjusted * st.rangeInBins.toNat ∧
      adjusted * st.rangeInBins.toNat + y < st.imageSize ∧
      adjusted * st.rangeInBins.toNat + y < st.intensityValues.length := by
  have hnext : (adjusted + 1) * (st.rangeInBins.toNat : Int) ≤
      st.azimuthSamples.toNat * st.rangeInBins.toNat :=
    mul_le_mul_of_nonneg_right (by omega) (Int.natCast_nonneg _)
  have hsize : (st.imageSize : Int) = st.azimuthSamples.toNat * st.rangeInBins.toNat := by
    rw [imageSize]
    push_cast
    rfl
  have hroom := hroomy.le
  rw [add_mul, one_mul] at hnext
  exact ⟨mul_nonneg h0 (Int.natCast_nonneg _), by omega, by omega⟩

theorem place_eq (hroomy : st.Roomy) {adjusted : Int} (h0 : 0 ≤ adjusted)
    (hrow : adjusted < st.azimuthSamples.toNat) {y : Nat} (hy : y < st.rangeInBins.toNat) :
    st.unsignedPlace adjusted y = .ok (adjusted * st.rangeInBins.toNat + y) ∧
      st.signedPlace adjusted y = .ok (adjusted * st.rangeInBins.toNat + y) := by
  obtain ⟨hnonneg, hlt, -⟩ := place_bounds hroomy h0 hrow hy
  have hint : (st.imageSize : Int) < 2 ^ 31 := by exact_mod_cast hroomy.lt
  have hrowint : toInt (adjusted * st.rangeInBins.toNat) =
      .ok (adjusted * st.rangeInBins.toNat) := toInt_of_lt hnonneg (by omega)
  have hsum : toInt (adjusted * st.rangeInBins.toNat + y) =
      .ok (adjusted * st.rangeInBins.toNat + y) := toInt_of_lt (by omega) (by omega)
  have hwrap : (adjusted * st.rangeInBins.toNat + y).bmod (2 ^ 32) =
      adjusted * st.rangeInBins.toNat + y := Int.bmod_eq_of_le (by omega) (by omega)
  simp only [unsignedPlace, signedPlace, hrowint, bind, Except.bind]
  rw [hwrap]
  exact ⟨rfl, hsum⟩

theorem length_of_writeSweep {index adjusted : Int} {samples buffer : Bytes}
    (h : st.writeSweep index adjusted samples = .ok buffer) :
    buffer.length = st.intensityValues.length := by
  unfold writeSweep at h
  split at h <;> exact length_of_writeRow _ h

/-- A sweep can be written to its row of an image that has it. -/
theorem succeeds_writeSweep (hroomy : st.Roomy) (index : Int) {adjusted : Int}
    (h0 : 0 ≤ adjusted) (hrow : adjusted < st.azimuthSamples.toNat) {samples : Bytes}
    (hsamples : samples.length ≤ st.rangeInBins.toNat) :
    Succeeds (st.writeSweep index adjusted samples) := by
  unfold writeSweep
  split
  · refine succeeds_writeRow _ fun k hk => ?_
    rw [rowOf, List.length_mapIdx] at hk
    have hy : 0 + k < st.rangeInBins.toNat := by omega
    obtain ⟨hnonneg, -, hlt⟩ := place_bounds hroomy h0 hrow hy
    exact ⟨_, (place_eq hroomy h0 hrow hy).1, by omega, hlt⟩
  · refine succeeds_writeRow _ fun k hk => ?_
    rw [List.length_replicate] at hk
    have hy : 0 + k < st.rangeInBins.toNat := by omega
    obtain ⟨hnonneg, -, hlt⟩ := place_bounds hroomy h0 hrow hy
    exact ⟨_, (place_eq hroomy h0 hrow hy).2, by omega, hlt⟩

/-- A sweep whose row begins outside the vector can only be written if there is nothing to
    write. -/
theorem succeeds_writeSweep_outside {index adjusted : Int} {samples : Bytes}
    (hunsigned : ∀ place, st.unsignedPlace adjusted 0 = .ok place →
      ¬ (0 ≤ place ∧ place < st.intensityValues.length))
    (hsigned : ∀ place, st.signedPlace adjusted 0 = .ok place →
      ¬ (0 ≤ place ∧ place < st.intensityValues.length)) :
    Succeeds (st.writeSweep index adjusted samples) ↔ st.NothingToWrite index samples := by
  unfold writeSweep NothingToWrite
  split
  · rw [succeeds_writeRow_outside hunsigned, rowOf, List.mapIdx_eq_nil_iff]
  · rw [succeeds_writeRow_outside hsigned, List.replicate_eq_nil_iff]
    exact ⟨fun h => UInt16.toNat.inj h, fun h => by rw [h]; rfl⟩

/-- To an image without rows, no row can be written. -/
theorem succeeds_writeSweep_nil (hempty : st.intensityValues = []) {index adjusted : Int}
    {samples : Bytes} :
    Succeeds (st.writeSweep index adjusted samples) ↔ st.NothingToWrite index samples := by
  refine succeeds_writeSweep_outside (fun place _ => ?_) fun place _ => ?_ <;>
    · rw [hempty, List.length_nil]
      omega

/-- The row behind the last one begins at the end of the vector. -/
theorem succeeds_writeSweep_behind (h : st.Sized) {index : Int} {samples : Bytes} :
    Succeeds (st.writeSweep index st.azimuthSamples.toNat samples) ↔
      st.NothingToWrite index samples := by
  have hlt := h.lt
  have hrow : (st.azimuthSamples.toNat : Int) * st.rangeInBins.toNat = st.imageSize := by
    rw [imageSize]
    push_cast
    rfl
  have hint : toInt (st.azimuthSamples.toNat * st.rangeInBins.toNat) = .ok st.imageSize := by
    rw [hrow]
    exact toInt_of_lt (Int.natCast_nonneg _) (by omega)
  have hwrap : (st.imageSize : Int).bmod (2 ^ 32) = st.imageSize :=
    Int.bmod_eq_of_le (by omega) (by omega)
  have hbegin : toInt (st.imageSize : Int) = .ok (st.imageSize : Int) :=
    toInt_of_lt (Int.natCast_nonneg _) (by omega)
  have houtside : ¬ (0 ≤ (st.imageSize : Int) ∧
      (st.imageSize : Int) < st.intensityValues.length) := by
    rw [h.length]
    omega
  refine succeeds_writeSweep_outside (fun place hplace => ?_) fun place hplace => ?_
  · obtain ⟨row, hrow, hwrapped⟩ := bind_eq_ok.mp hplace
    obtain rfl := Except.ok.inj (hint.symm.trans hrow)
    rw [← Except.ok.inj hwrapped, Nat.cast_zero, add_zero, hwrap]
    exact houtside
  · obtain ⟨row, hrow, hsum⟩ := bind_eq_ok.mp hplace
    obtain rfl := Except.ok.inj (hint.symm.trans hrow)
    rw [Nat.cast_zero, add_zero, hbegin] at hsum
    rw [← Except.ok.inj hsum]
    exact houtside

/-! ## One message -/

theorem imageSize_pushImage : st.pushImage.imageSize = st.imageSize := rfl

theorem length_pushImage :
    st.pushImage.intensityValues.length = st.intensityValues.length + st.imageSize := by
  simp [pushImage]

theorem sized_refreshIfDue (h : st.Sized) : st.refreshIfDue.Sized := by
  unfold refreshIfDue
  split
  · exact ⟨h.length, h.lt⟩
  · exact h

theorem Sized.toInt_imageSize (h : st.Sized) :
    toInt (st.azimuthSamples.toNat * st.rangeInBins.toNat) = .ok st.intensityValues.length := by
  rw [h.length, imageSize, Nat.cast_mul]
  refine toInt_of_lt (Int.mul_nonneg (Int.natCast_nonneg _) (Int.natCast_nonneg _)) ?_
  rw [← Nat.cast_mul]
  exact Int.ofNat_lt.mpr h.lt

/-- A vector of the right size is published and left empty. -/
theorem imageDataHandler_ok (h : st.Sized) (data : FftData) :
    st.imageDataHandler data =
      .ok ({ st with intensityValues := [] }, some (st.image data)) := by
  refine bind_eq_ok.mpr ⟨_, h.toInt_imageSize, ?_⟩
  exact if_neg (not_not.mpr rfl)

/-- At the end of a rotation the vector is published, and an image of zeros is next. -/
theorem endRotation_ok (h : st.Sized) (data : FftData) :
    ∃ st', st.endRotation data = .ok (st', some (st.image data)) ∧ st'.Sized := by
  have hnext : Sized { st with rotationCount := st.rotationCount + 1 } := ⟨h.length, h.lt⟩
  have himage := imageDataHandler_ok hnext data
  refine ⟨_, bind_eq_ok.mpr ⟨_, himage, rfl⟩, ?_, h.lt⟩
  rw [length_pushImage, List.length_nil, Nat.zero_add]
  rfl

/-- A sweep that is written keeps the size, and publishes if it ends a rotation. -/
theorem fftDataHandler_ok {buffer : Bytes} (h : st.Sized)
    (hwrite : st.writeSweep (azimuthIndex undefined data.angle st.azimuthSamples)
      (adjustedAzimuthIndex (azimuthIndex undefined data.angle st.azimuthSamples)
        st.window.azimuthOffset st.azimuthSamples) data.data = .ok buffer) :
    ∃ handled, st.fftDataHandler undefined data = .ok handled ∧ handled.1.Sized ∧
      (data.azimuth.toNat < st.lastAzimuth → handled.2.isSome = true) := by
  have hsized : Sized { st with intensityValues := buffer } :=
    ⟨(length_of_writeSweep hwrite).trans h.length, h.lt⟩
  by_cases hfall : data.azimuth.toNat < st.lastAzimuth
  · obtain ⟨st', hend, hst'⟩ := endRotation_ok hsized data
    refine ⟨_, bind_eq_ok.mpr ⟨buffer, hwrite, bind_eq_ok.mpr ⟨_, (if_pos hfall).trans hend,
      rfl⟩⟩, ?_, fun _ => rfl⟩
    exact sized_refreshIfDue ⟨hst'.length, hst'.lt⟩
  · refine ⟨_, bind_eq_ok.mpr ⟨buffer, hwrite, bind_eq_ok.mpr ⟨_, if_neg hfall, rfl⟩⟩, ?_,
      fun hf => absurd hf hfall⟩
    exact sized_refreshIfDue ⟨hsized.length, hsized.lt⟩

theorem imageSize_eq_zero (h : st.azimuthSamples = 0) : st.imageSize = 0 := by
  rw [imageSize, h]
  exact Nat.zero_mul _

/-- The row of a sweep is the one behind the last exactly if the sweep passes the end. -/
theorem adjusted_eq_size_iff (undefined : ExtRat → Int) {q : ℚ}
    (hrows : st.azimuthSamples ≠ 0) (hangle : data.angle = .finite q) (hcircle : InCircle q) :
    st.PassesEnd data ↔ azimuthIndex undefined data.angle st.azimuthSamples =
      st.azimuthSamples.toNat ∧ st.window.azimuthOffset.toNat = st.azimuthSamples.toNat := by
  rw [PassesEnd, hangle, ExtRat.finite.injEq, azimuthIndex_eq_size_iff undefined hrows hcircle,
    and_assoc]
  exact and_congr_right fun _ => and_congr_right fun _ =>
    ⟨fun h => by rw [h], fun h => UInt16.toNat.inj h⟩

/-- A sweep of the radar can be written exactly if it fits. -/
theorem succeeds_writeSweep_iff (undefined : ExtRat → Int) {q : ℚ} (h : st.Sized)
    (hangle : data.angle = .finite q) (hcircle : InCircle q)
    (hsamples : data.data.length ≤ st.rangeInBins.toNat)
    (hoffset : st.window.azimuthOffset.toNat ≤ st.azimuthSamples.toNat) :
    Succeeds (st.writeSweep (azimuthIndex undefined data.angle st.azimuthSamples)
      (adjustedAzimuthIndex (azimuthIndex undefined data.angle st.azimuthSamples)
        st.window.azimuthOffset st.azimuthSamples) data.data) ↔ Fits st (.sweep data) := by
  by_cases hrows : st.azimuthSamples = 0
  · have hempty : st.intensityValues = [] :=
      List.eq_nil_of_length_eq_zero (h.length.trans (imageSize_eq_zero hrows))
    have hindex : azimuthIndex undefined data.angle st.azimuthSamples = 0 := by
      rw [hrows, hangle]
      exact azimuthIndex_zero undefined q
    rw [succeeds_writeSweep_nil hempty, hindex]
    exact ⟨fun hfits => ⟨fun _ => hfits, fun hpasses => absurd hrows hpasses.2.1.1⟩,
      fun hfits => hfits.1 hrows⟩
  · have hindex := azimuthIndex_bounds undefined hrows hcircle
    rw [← hangle] at hindex
    have hpasses := adjusted_eq_size_iff undefined hrows hangle hcircle
    by_cases hend : st.PassesEnd data
    · obtain ⟨hlast, hwhole⟩ := hpasses.mp hend
      have hadjusted : adjustedAzimuthIndex st.azimuthSamples.toNat st.window.azimuthOffset
          st.azimuthSamples = st.azimuthSamples.toNat := by
        simp only [adjustedAzimuthIndex, hwhole]
        split <;> omega
      rw [hlast, hadjusted, succeeds_writeSweep_behind h]
      exact ⟨fun hfits => ⟨fun hzero => absurd hzero hrows, fun _ => hfits⟩,
        fun hfits => hfits.2 hend⟩
    · refine iff_of_true ?_ ⟨fun hzero => absurd hzero hrows, fun hpass => absurd hpass hend⟩
      have hturned : azimuthIndex undefined data.angle st.azimuthSamples +
          st.window.azimuthOffset.toNat < 2 * st.azimuthSamples.toNat := by
        by_contra hge
        exact hend (hpasses.mpr ⟨by omega, by omega⟩)
      obtain ⟨hadjusted0, hadjustedlt⟩ := (adjustedAzimuthIndex_bounds hindex.1).mpr hturned
      exact succeeds_writeSweep h.roomy _ hadjusted0 hadjustedlt hsamples

/-- A configuration message appends an image of its own size. -/
theorem configurationDataHandler_eq {data : ConfigurationData} (h : sizeOf data < 2 ^ 31) :
    st.configurationDataHandler data = .ok (pushImage { st with
      azimuthSamples := data.azimuthSamples
      rangeInBins := data.rangeInBins
      bufferLength := data.azimuthSamples.toNat * data.rangeInBins.toNat }) := by
  refine bind_eq_ok.mpr ⟨_, toInt_of_lt ?_ ?_, rfl⟩
  · exact Int.mul_nonneg (Int.natCast_nonneg _) (Int.natCast_nonneg _)
  · rw [← Nat.cast_mul]
    exact Int.ofNat_lt.mpr h

theorem sizeOf_lt_of_ok {data : ConfigurationData} {st' : BScanColossusPublisher}
    (h : st.configurationDataHandler data = .ok st') : sizeOf data < 2 ^ 31 := by
  obtain ⟨n, hn, _⟩ := bind_eq_ok.mp h
  unfold toInt at hn
  split at hn
  · rename_i hint
    exact_mod_cast hint.2
  · exact nomatch hn

/-- What the handling of a configuration message that has an image size comes to. -/
theorem handle_configuration {data : ConfigurationData} (h : sizeOf data < 2 ^ 31) :
    handle undefined st (.configuration data) = .ok (pushImage { st with
      azimuthSamples := data.azimuthSamples
      rangeInBins := data.rangeInBins
      bufferLength := data.azimuthSamples.toNat * data.rangeInBins.toNat }, none) :=
  bind_eq_ok.mpr ⟨_, configurationDataHandler_eq h, rfl⟩

/-- A message that fits keeps the size, and what ends a rotation is published. -/
theorem handle_of_fits (undefined : ExtRat → Int) {m : Message} (h : st.Sized)
    (hadmissible : Admissible st m) (hfits : Fits st m) :
    ∃ handled, handle undefined st m = .ok handled ∧ handled.1.Sized ∧
      (m.endsRotation st → handled.2.isSome = true) := by
  cases hadmissible with
  | configuration data =>
    obtain ⟨hzero, hlt⟩ := hfits
    refine ⟨_, handle_configuration hlt, ⟨?_, hlt⟩, False.elim⟩
    rw [length_pushImage, imageSize_pushImage, h.length, hzero, Nat.zero_add]
  | sweep data q hangle hcircle hsamples hoffset =>
    obtain ⟨buffer, hwrite⟩ :=
      (succeeds_writeSweep_iff undefined h hangle hcircle hsamples hoffset).mpr hfits
    exact fftDataHandler_ok h hwrite

/-- A message that does not fit leads to a fault, or is a configuration message that leaves the
    wrong size. -/
theorem handle_of_not_fits {m : Message} (h : st.Sized) (hadmissible : Admissible st m)
    (hfits : ¬ Fits st m) {handled : BScanColossusPublisher × Option Image}
    (hhandled : handle undefined st m = .ok handled) :
    m.isConfiguration = true ∧ handled.1.intensityValues.length ≠ handled.1.imageSize := by
  cases hadmissible with
  | configuration data =>
    obtain ⟨st', hst', _⟩ := bind_eq_ok.mp hhandled
    have hlt : sizeOf data < 2 ^ 31 := sizeOf_lt_of_ok hst'
    have hne : st.imageSize ≠ 0 := fun hzero => hfits ⟨hzero, hlt⟩
    obtain rfl := Except.ok.inj ((handle_configuration hlt).symm.trans hhandled)
    refine ⟨rfl, ?_⟩
    rw [length_pushImage, imageSize_pushImage, h.length]
    omega
  | sweep data q hangle hcircle hsamples hoffset =>
    obtain ⟨buffer, hwrite, _⟩ := bind_eq_ok.mp hhandled
    exact absurd ((succeeds_writeSweep_iff undefined h hangle hcircle hsamples hoffset).mp
      ⟨buffer, hwrite⟩) hfits

/-! ## After the size is wrong -/

/-- There is more in the vector than an image. -/
def Oversized (st : BScanColossusPublisher) : Prop := st.imageSize < st.intensityValues.length

theorem imageDataHandler_oversized {published : BScanColossusPublisher × Option Image}
    (h : st.Oversized) (hok : st.imageDataHandler data = .ok published) :
    published = (st, none) := by
  obtain ⟨n, hn, hrest⟩ := bind_eq_ok.mp hok
  have hsize : n = st.imageSize := by
    unfold toInt at hn
    split at hn
    · rw [← Except.ok.inj hn, imageSize, Nat.cast_mul]
    · exact nomatch hn
  have hne : (st.intensityValues.length : Int) ≠ n := by
    rw [hsize]
    exact fun heq => absurd (Int.ofNat.inj heq) h.ne'
  rw [if_pos hne] at hrest
  exact (Except.ok.inj hrest).symm

theorem oversized_refreshIfDue (h : st.Oversized) : st.refreshIfDue.Oversized := by
  unfold refreshIfDue
  split <;> exact h

/-- A sweep publishes nothing, and what is in the vector does not get less. -/
theorem fftDataHandler_oversized {handled : BScanColossusPublisher × Option Image}
    (h : st.Oversized) (hok : st.fftDataHandler undefined data = .ok handled) :
    handled.1.Oversized ∧ handled.2 = none := by
  obtain ⟨buffer, hwrite, hrest⟩ := bind_eq_ok.mp hok
  obtain ⟨rotated, hrotated, hlast⟩ := bind_eq_ok.mp hrest
  obtain rfl := Except.ok.inj hlast
  have hwritten : Oversized { st with intensityValues := buffer } := by
    rw [Oversized, length_of_writeSweep hwrite]
    exact h
  split at hrotated
  · obtain ⟨published, hpublished, hpushed⟩ := bind_eq_ok.mp hrotated
    have hnext : Oversized { st with
        intensityValues := buffer
        rotationCount := st.rotationCount + 1 } := hwritten
    have hsame := imageDataHandler_oversized hnext hpublished
    obtain rfl := Except.ok.inj hpushed
    rw [hsame]
    refine ⟨oversized_refreshIfDue ?_, rfl⟩
    exact hwritten.trans_le (by rw [length_pushImage]; exact Nat.le_add_right _ _)
  · obtain rfl := Except.ok.inj hrotated
    exact ⟨oversized_refreshIfDue hwritten, rfl⟩

/-- Once the vector holds more than an image, no sweep publishes anything, until there is
    another configuration message. -/
theorem nothing_published (sweeps : List FftData) : ∀ {st : BScanColossusPublisher},
    st.Oversized →
      Along undefined (fun st m => ∀ handled, handle undefined st m = .ok handled →
        handled.2 = none) st (sweeps.map Message.sweep) := by
  induction sweeps with
  | nil => exact fun _ => trivial
  | cons data sweeps ih =>
    intro st h
    exact ⟨fun handled hok => (fftDataHandler_oversized h hok).2,
      fun handled hok => ih (fftDataHandler_oversized h hok).1⟩

/-! ## All runs -/

theorem sizeKept_iff_along (messages : List Message) :
    ∀ (configured : Bool) (st : BScanColossusPublisher), st.Sized →
      Along undefined Admissible st messages →
      (SizeKept undefined configured st messages ↔ Along undefined Fits st messages) := by
  induction messages with
  | nil => exact fun _ _ _ _ => Iff.rfl
  | cons m messages ih =>
    intro configured st hsized hadmissible
    by_cases hfits : Fits st m
    · obtain ⟨handled, hhandled, hnext, hpublished⟩ :=
        handle_of_fits undefined hsized hadmissible.1 hfits
      have hrest := ih (configured || m.isConfiguration) handled.1 hnext
        (hadmissible.2 handled hhandled)
      constructor
      · rintro ⟨handled', hhandled', _, _, hkept⟩
        obtain rfl := Except.ok.inj (hhandled.symm.trans hhandled')
        refine ⟨hfits, fun handled'' hhandled'' => ?_⟩
        obtain rfl := Except.ok.inj (hhandled.symm.trans hhandled'')
        exact hrest.mp hkept
      · intro hall
        exact ⟨handled, hhandled, fun _ => hnext.length, fun _ => hpublished,
          hrest.mpr (hall.2 handled hhandled)⟩
    · refine iff_of_false ?_ fun hall => hfits hall.1
      rintro ⟨handled, hhandled, hsize, _, _⟩
      obtain ⟨hconfiguration, hne⟩ := handle_of_not_fits hsized hadmissible.1 hfits hhandled
      exact hne (hsize (by rw [hconfiguration, Bool.or_true]))

theorem sized_initial (p : WindowParameters) : (initial p).Sized where
  length := rfl
  lt := show 0 * 0 < 2 ^ 31 by decide

/-- **The size of the vector.** It is kept exactly if every message fits. -/
theorem sizeKept_iff (undefined : ExtRat → Int) (p : WindowParameters) (messages : List Message)
    (hadmissible : Along undefined Admissible (initial p) messages) :
    SizeKept undefined false (initial p) messages ↔ Along undefined Fits (initial p) messages :=
  sizeKept_iff_along messages false (initial p) (sized_initial p) hadmissible

/-- A run, message after message. -/
theorem along_cons {P : BScanColossusPublisher → Message → Prop} {m : Message}
    {messages : List Message} {handled : BScanColossusPublisher × Option Image} (hm : P st m)
    (hhandled : handle undefined st m = .ok handled)
    (hrest : Along undefined P handled.1 messages) : Along undefined P st (m :: messages) := by
  refine ⟨hm, fun handled' hhandled' => ?_⟩
  obtain rfl := Except.ok.inj (hhandled.symm.trans hhandled')
  exact hrest

theorem sizeKept_iff_oneSweep :
    SizeKept (fun _ => 0) false (initial wideOpen)
      [.configuration fourByTwo, .sweep lastSweep] := by
  have hsize : sizeOf fourByTwo < 2 ^ 31 := by decide
  have hadmissible : Along (fun _ => 0) Admissible (initial wideOpen)
      [.configuration fourByTwo, .sweep lastSweep] := by
    refine along_cons (.configuration _) (handle_configuration hsize) ⟨?_, fun _ _ => trivial⟩
    exact .sweep _ 270 rfl (by decide +kernel) (by decide) (by decide)
  refine (sizeKept_iff _ _ _ hadmissible).mpr ?_
  refine along_cons ⟨rfl, hsize⟩ (handle_configuration hsize) ⟨?_, fun _ _ => trivial⟩
  exact ⟨fun hzero => absurd hzero (by decide), fun hpasses => absurd hpasses.1 (by decide +kernel)⟩

/-- The radar connects a second time and sends the same configuration. -/
theorem reconnection_breaks_size :
    Along (fun _ => 0) Admissible (initial wideOpen)
        [.configuration fourByTwo, .configuration fourByTwo] ∧
      ¬ SizeKept (fun _ => 0) false (initial wideOpen)
        [.configuration fourByTwo, .configuration fourByTwo] := by
  have hsize : sizeOf fourByTwo < 2 ^ 31 := by decide
  have hadmissible : Along (fun _ => 0) Admissible (initial wideOpen)
      [.configuration fourByTwo, .configuration fourByTwo] :=
    along_cons (.configuration _) (handle_configuration hsize)
      ⟨.configuration _, fun _ _ => trivial⟩
  refine ⟨hadmissible, fun hkept => ?_⟩
  have hall := (sizeKept_iff_along _ _ _ (sized_initial wideOpen) hadmissible).mp hkept
  have hsecond := (hall.2 _ (handle_configuration hsize)).1.1
  exact absurd hsecond (by decide)

end BScanColossusPublisher

end Ros

end Navtech
