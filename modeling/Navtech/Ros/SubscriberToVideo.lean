/-
  `Colossus_subscriber_to_video`: the polar image, one row of 400 pixels for each bearing, into
  which the samples of a sweep are written.

  The place of a sample is the number of its row times the step of a row, plus its own number,
  plus one. So each sample is one pixel too far to the right, the first pixel of a row is never
  written, and the sample behind the last pixel of a row is the first of the next. The only test
  is whether the place lies before the end of the image. A sweep paints its own row and no other
  just if none of this can be seen (`Harmless`, `paintsOwnRow_iff`).

  `bearing` stands for `current_bearing` as the machine makes it of the azimuth, the encoder size
  and the number of azimuths; how it divides and rounds does not matter here. The sum of a place
  has 64 bits, of which an `int` keeps the lower half. The image is given by its bytes, row after
  row. A sample that is read or a pixel that is written out of bounds is a fault. What OpenCV
  makes of the image at the end of a rotation, the video, is left out.
-/
import Navtech.Lib.Transition
import Navtech.Ros.ColossusPublisher
import Navtech.Ros.LaserScan

namespace Navtech

namespace Ros

open CheckedView (bind_eq_ok toOption_eq_some)
open ColossusSubscriber (readUint16)
open LaserScan (Fault readAt)
open Network (Bytes)
open Transition (Reach)

/-- The bytes at `image_ptr`. -/
abbrev RadarImage := Nat → UInt8

/-- `radar_image.step`, and the number of rows. -/
def imageStep : Nat := 400

/-- `radar_image.rows * radar_image.cols * radar_image.channels()`. -/
def matrixMaxIndex : Nat := 400 * 400 * 1

/-- The members of the node. -/
structure ColossusSubscriberToVideo where
  configDataReceived : Bool
  encoderSize : UInt16
  azimuthSamples : UInt16
  videoWidth : UInt16
  videoHeight : UInt16
  currentBearing : Int32
  azimuth : UInt16
  dataLength : UInt16
  expectedRotationRate : UInt16
  radarImage : RadarImage
  lastAzimuth : UInt16

namespace ColossusSubscriberToVideo

/-- As constructed, with a black image. -/
def initial : ColossusSubscriberToVideo where
  configDataReceived := false
  encoderSize := 0
  azimuthSamples := 0
  videoWidth := 0
  videoHeight := 0
  currentBearing := 0
  azimuth := 0
  dataLength := 0
  expectedRotationRate := 0
  radarImage := fun _ => 0
  lastAzimuth := 0

/-- Only the first configuration is taken over. A field that cannot be read keeps its value. -/
def configurationDataCallback (st : ColossusSubscriberToVideo)
    (message : RadarConfigurationMessage) : ColossusSubscriberToVideo :=
  if st.configDataReceived then st
  else { st with
    azimuthSamples := (readUint16 message.azimuthSamples).getD st.azimuthSamples
    videoHeight := (readUint16 message.azimuthSamples).getD st.videoHeight
    encoderSize := (readUint16 message.encoderSize).getD st.encoderSize
    videoWidth := (readUint16 message.rangeInBins).getD st.videoWidth
    expectedRotationRate :=
      (readUint16 message.expectedRotationRate).getD st.expectedRotationRate
    configDataReceived := true }

/-- `i * 1 + node->current_bearing * radar_image.step + 1`, as an `int`. -/
def flatIndex (currentBearing : Int32) (i : Nat) : Int :=
  (i + currentBearing.toInt * imageStep + 1).bmod (2 ^ 32)

/-- `image_ptr[index] = v`. -/
def writePixel (image : RadarImage) (index : Int) (v : UInt8) : Except Fault RadarImage :=
  if 0 ≤ index then .ok (Function.update image index.toNat v)
  else .error (.writeOutOfBounds index matrixMaxIndex)

/-- A turn of the loop. -/
def paintSample (currentBearing : Int32) (data : Bytes) (i : Nat) (image : RadarImage) :
    Except Fault RadarImage :=
  if flatIndex currentBearing i < matrixMaxIndex then do
    let v ← readAt data i
    writePixel image (flatIndex currentBearing i) v
  else .ok image

/-- The loop, at `i`, with `n` turns to go. -/
def paint (currentBearing : Int32) (data : Bytes) :
    Nat → Nat → RadarImage → Except Fault RadarImage
  | 0, _, image => .ok image
  | n + 1, i, image => do
    let image ← paintSample currentBearing data i image
    paint currentBearing data n (i + 1) image

section Callback

variable (bearing : UInt16 → UInt16 → UInt16 → Int32)

/-- The azimuth in the message, or the one before. -/
def nextAzimuth (st : ColossusSubscriberToVideo) (message : RadarFftDataMessage) : UInt16 :=
  (readUint16 message.azimuth).getD st.azimuth

/-- The length in the message, or the one before. -/
def nextDataLength (st : ColossusSubscriberToVideo) (message : RadarFftDataMessage) : UInt16 :=
  (readUint16 message.dataLength).getD st.dataLength

/-- The row of the sweep. -/
def nextBearing (st : ColossusSubscriberToVideo) (message : RadarFftDataMessage) : Int32 :=
  bearing (st.nextAzimuth message) st.encoderSize st.azimuthSamples

/-- How many samples are painted. -/
def maxIndex (st : ColossusSubscriberToVideo) (message : RadarFftDataMessage) : Nat :=
  min (st.nextDataLength message).toNat st.azimuthSamples.toNat

/-- At the end of a rotation the image is also handed on, to be written to the video. -/
def fftDataCallback (st : ColossusSubscriberToVideo) (message : RadarFftDataMessage) :
    Except Fault (ColossusSubscriberToVideo × Option RadarImage) :=
  if st.configDataReceived then do
    let image ← paint (st.nextBearing bearing message) message.data (st.maxIndex message) 0
      st.radarImage
    return ({ st with
        azimuth := st.nextAzimuth message
        dataLength := st.nextDataLength message
        currentBearing := st.nextBearing bearing message
        radarImage := image
        lastAzimuth := st.nextAzimuth message },
      if (st.nextAzimuth message).toNat < st.lastAzimuth.toNat then some image else none)
  else .ok (st, none)

/-- The pixel in a row and a column. -/
def pixel (st : ColossusSubscriberToVideo) (row column : Nat) : UInt8 :=
  st.radarImage (row * imageStep + column)

/-- The data field has as many samples as its length says. -/
def WellFormed (message : RadarFftDataMessage) : Prop :=
  (readUint16 message.dataLength).map UInt16.toNat = some message.data.length

/-- The sweep changes no pixel outside its row, and its samples are in the row. -/
def PaintsOwnRow (st : ColossusSubscriberToVideo) (message : RadarFftDataMessage) : Prop :=
  ∃ handled, st.fftDataCallback bearing message = .ok handled ∧
    (∀ row column : Nat, row < 400 → column < 400 → (row : Int) ≠ handled.1.currentBearing.toInt →
      handled.1.pixel row column = st.pixel row column) ∧
    ∀ row : Nat, row < 400 → (row : Int) = handled.1.currentBearing.toInt →
      ∀ i < min (min message.data.length st.azimuthSamples.toNat) 400,
        message.data[i]? = some (handled.1.pixel row i)

/-- No place is negative. What comes to a place in another row is what is there already, and
    what should be in the row is what is in its first pixel. -/
structure Harmless (st : ColossusSubscriberToVideo) (message : RadarFftDataMessage) : Prop where
  elsewhere : ∀ i < st.maxIndex message,
    0 ≤ flatIndex (st.nextBearing bearing message) i ∧
      (flatIndex (st.nextBearing bearing message) i < matrixMaxIndex →
        flatIndex (st.nextBearing bearing message) i / imageStep ≠
          (st.nextBearing bearing message).toInt →
        message.data[i]? =
          some (st.radarImage (flatIndex (st.nextBearing bearing message) i).toNat))
  row : ∀ row : Nat, row < 400 → (row : Int) = (st.nextBearing bearing message).toInt →
    ∀ i < min (st.maxIndex message) 400, message.data[i]? = some (st.pixel row 0)

end Callback

/-! ## The loop -/

variable {currentBearing : Int32} {data : Bytes} {image image' : RadarImage}

/-- In the image, no place wraps. -/
theorem flatIndex_of_row {row i : Nat} (hrow : (row : Int) = currentBearing.toInt)
    (h400 : row < 400) (hi : i < 2 ^ 16) :
    flatIndex currentBearing i = row * 400 + i + 1 := by
  rw [flatIndex, ← hrow, imageStep]
  have hsum : (i : Int) + row * (400 : Nat) + 1 = row * 400 + i + 1 := by
    push_cast
    ring
  rw [hsum]
  exact Int.bmod_eq_of_le (by omega) (by omega)

/-- Two samples have two places. -/
theorem flatIndex_inj {i j : Nat} (hi : i < 2 ^ 16) (hj : j < 2 ^ 16)
    (h : flatIndex currentBearing i = flatIndex currentBearing j) : i = j := by
  unfold flatIndex at h
  rw [Int.bmod_def, Int.bmod_def] at h
  split at h <;> split at h <;> omega

theorem writePixel_eq_ok {index : Int} {v : UInt8} :
    writePixel image index v = .ok image' ↔
      0 ≤ index ∧ image' = Function.update image index.toNat v := by
  unfold writePixel
  split
  · rename_i hindex
    rw [Except.ok.injEq, and_iff_right hindex, eq_comm]
  · rename_i hindex
    exact iff_of_false (by simp) fun h => hindex h.1

theorem paintSample_eq_ok (image : RadarImage) {i : Nat} {v : UInt8} (hv : data[i]? = some v) :
    paintSample currentBearing data i image = .ok image' ↔
      0 ≤ flatIndex currentBearing i ∧
        image' = if flatIndex currentBearing i < matrixMaxIndex then
          Function.update image (flatIndex currentBearing i).toNat v else image := by
  by_cases hlt : flatIndex currentBearing i < matrixMaxIndex
  · rw [paintSample, if_pos hlt, if_pos hlt, LaserScanPublisher.readAt_of_some hv]
    exact writePixel_eq_ok
  · have hmax : (0 : Int) ≤ matrixMaxIndex := Int.natCast_nonneg _
    rw [paintSample, if_neg hlt, if_neg hlt, Except.ok.injEq, and_iff_right (by omega), eq_comm]

/-- The samples from `i` on, `n` of them, are in their places, and nothing else has changed. -/
structure Painted (currentBearing : Int32) (data : Bytes) (n i : Nat)
    (image image' : RadarImage) : Prop where
  nonneg : ∀ j, i ≤ j → j < i + n → 0 ≤ flatIndex currentBearing j
  written : ∀ j, i ≤ j → j < i + n → flatIndex currentBearing j < matrixMaxIndex →
    data[j]? = some (image' (flatIndex currentBearing j).toNat)
  kept : ∀ k : Nat, (∀ j, i ≤ j → j < i + n → flatIndex currentBearing j ≠ k) →
    image' k = image k

theorem Painted.cons {i n : Nat} {v : UInt8} {next : RadarImage} (h16 : i + (n + 1) ≤ 2 ^ 16)
    (hv : data[i]? = some v) (hfirst : paintSample currentBearing data i image = .ok next)
    (h : Painted currentBearing data n (i + 1) next image') :
    Painted currentBearing data (n + 1) i image image' := by
  obtain ⟨hnonneg, hnext⟩ := (paintSample_eq_ok image hv).mp hfirst
  refine ⟨fun j hij hj => ?_, fun j hij hj hlt => ?_, fun k hk => ?_⟩
  · rcases Nat.eq_or_lt_of_le hij with rfl | hij
    · exact hnonneg
    · exact h.nonneg j hij (by omega)
  · rcases Nat.eq_or_lt_of_le hij with rfl | hij
    · -- no later sample comes to this place
      have hkept := h.kept (flatIndex currentBearing i).toNat fun j hij' hj' heq => by
        rw [Int.toNat_of_nonneg hnonneg] at heq
        have hsame := flatIndex_inj (by omega) (by omega) heq
        omega
      rw [hkept, hnext, if_pos hlt, Function.update_self, hv]
    · exact h.written j hij (by omega) hlt
  · rw [h.kept k fun j hij hj => hk j (by omega) (by omega), hnext]
    split
    · refine Function.update_of_ne (fun heq => hk i le_rfl (by omega) ?_) _ _
      rw [heq, Int.toNat_of_nonneg hnonneg]
    · rfl

/-- The loop paints, exactly if no place is negative. -/
theorem paint_spec (currentBearing : Int32) (data : Bytes) (n : Nat) :
    ∀ (i : Nat) (image : RadarImage), i + n ≤ data.length → i + n ≤ 2 ^ 16 →
      ((∀ j, i ≤ j → j < i + n → 0 ≤ flatIndex currentBearing j) →
        ∃ image', paint currentBearing data n i image = .ok image') ∧
      ∀ image', paint currentBearing data n i image = .ok image' →
        Painted currentBearing data n i image image' := by
  induction n with
  | zero =>
    intro i image hlen h16
    refine ⟨fun _ => ⟨image, rfl⟩, fun image' h => ?_⟩
    obtain rfl := Except.ok.inj h
    exact ⟨fun j hij hj => by omega, fun j hij hj => by omega, fun _ _ => rfl⟩
  | succ n ih =>
    intro i image hlen h16
    have hv : data[i]? = some data[i] := List.getElem?_eq_getElem _
    constructor
    · intro hnonneg
      have hfirst := (paintSample_eq_ok image hv).mpr
        ⟨hnonneg i le_rfl (by omega), rfl⟩
      obtain ⟨image', hrest⟩ := (ih (i + 1) _ (by omega) (by omega)).1
        fun j hij hj => hnonneg j (by omega) (by omega)
      exact ⟨image', bind_eq_ok.mpr ⟨_, hfirst, hrest⟩⟩
    · intro image' h
      obtain ⟨next, hfirst, hrest⟩ := bind_eq_ok.mp h
      exact ((ih (i + 1) _ (by omega) (by omega)).2 image' hrest).cons h16 hv hfirst

/-! ## One sweep -/

variable {bearing : UInt16 → UInt16 → UInt16 → Int32} {st : ColossusSubscriberToVideo}
  {message : RadarFftDataMessage}

/-- The number of turns, for a message whose length is right. -/
theorem maxIndex_of_wellFormed (h : WellFormed message) :
    st.maxIndex message = min message.data.length st.azimuthSamples.toNat := by
  obtain ⟨n, hn, hlength⟩ := Option.map_eq_some_iff.mp h
  rw [maxIndex, nextDataLength, hn, Option.getD_some, hlength]

theorem maxIndex_lt (st : ColossusSubscriberToVideo) (message : RadarFftDataMessage) :
    st.maxIndex message < 2 ^ 16 :=
  (Nat.min_le_right _ _).trans_lt st.azimuthSamples.toNat_lt

/-- What the callback does to the image. -/
theorem fftDataCallback_eq_ok (hconfig : st.configDataReceived = true)
    {handled : ColossusSubscriberToVideo × Option RadarImage} :
    st.fftDataCallback bearing message = .ok handled →
      paint (st.nextBearing bearing message) message.data (st.maxIndex message) 0
          st.radarImage = .ok handled.1.radarImage ∧
        handled.1.currentBearing = st.nextBearing bearing message := by
  intro h
  rw [fftDataCallback, if_pos hconfig] at h
  obtain ⟨image, himage, hhandled⟩ := bind_eq_ok.mp h
  rw [← Except.ok.inj hhandled]
  exact ⟨himage, rfl⟩

section Row

variable {n row : Nat} (h : Painted currentBearing data n 0 image image')
  (hrow : (row : Int) = currentBearing.toInt) (h400 : row < 400)

include h hrow h400

/-- The first pixel of the row is not painted. -/
theorem Painted.first (h16 : n ≤ 2 ^ 16) :
    image' (row * imageStep + 0) = image (row * imageStep + 0) := by
  refine h.kept _ fun j _ hj => ?_
  rw [flatIndex_of_row hrow h400 (by omega), imageStep]
  omega

/-- Every other pixel has the sample before its own. -/
theorem Painted.next {i : Nat} (hi : i < n) (hcolumn : i + 1 < 400) :
    data[i]? = some (image' (row * imageStep + (i + 1))) := by
  have hindex := flatIndex_of_row (i := i) hrow h400 (by omega)
  have hplace : (flatIndex currentBearing i).toNat = row * imageStep + (i + 1) := by
    rw [hindex, imageStep]
    omega
  rw [← hplace]
  refine h.written i (Nat.zero_le i) (by omega) ?_
  rw [hindex, matrixMaxIndex]
  omega

/-- So the row is right exactly if all its samples are what is in its first pixel. -/
theorem Painted.row_iff (h16 : n ≤ 2 ^ 16) :
    (∀ i < min n 400, data[i]? = some (image' (row * imageStep + i))) ↔
      ∀ i < min n 400, data[i]? = some (image (row * imageStep + 0)) := by
  constructor
  · intro hpixels i hi
    induction i with
    | zero => rw [hpixels 0 hi, h.first hrow h400 h16]
    | succ i ih =>
      rw [hpixels (i + 1) hi, ← h.next hrow h400 (by omega) (by omega)]
      exact ih (by omega)
  · intro hsamples i hi
    cases i with
    | zero => rw [hsamples 0 hi, h.first hrow h400 h16]
    | succ i =>
      rw [hsamples (i + 1) hi, ← hsamples i (by omega)]
      exact h.next hrow h400 (by omega) (by omega)

end Row

/-- The rows but the sweep's are as they were, exactly if the samples that come there are what is
    there. -/
theorem Painted.elsewhere_iff {n : Nat} (h : Painted currentBearing data n 0 image image') :
    (∀ row column : Nat, row < 400 → column < 400 → (row : Int) ≠ currentBearing.toInt →
        image' (row * imageStep + column) = image (row * imageStep + column)) ↔
      ∀ i < n, flatIndex currentBearing i < matrixMaxIndex →
        flatIndex currentBearing i / imageStep ≠ currentBearing.toInt →
        data[i]? = some (image (flatIndex currentBearing i).toNat) := by
  constructor
  · intro hkept i hi hlt hne
    obtain ⟨k, hk⟩ := Int.eq_ofNat_of_zero_le (h.nonneg i (Nat.zero_le i) (by omega))
    have hsplit : k / imageStep * imageStep + k % imageStep = k := Nat.div_add_mod' k imageStep
    rw [hk, matrixMaxIndex] at hlt
    rw [hk] at hne
    have hsame := hkept (k / imageStep) (k % imageStep) (by rw [imageStep]; omega)
      (Nat.mod_lt k (by decide)) hne
    rw [hsplit] at hsame
    rw [h.written i (Nat.zero_le i) (by omega) (by rwa [hk, matrixMaxIndex]), hk, Int.toNat_natCast,
      hsame]
  · intro hsamples row column hrow hcolumn hne
    by_cases hhit : ∃ i < n, flatIndex currentBearing i = (row * imageStep + column : Nat)
    · obtain ⟨i, hi, hindex⟩ := hhit
      have hlt : flatIndex currentBearing i < matrixMaxIndex := by
        rw [hindex, matrixMaxIndex, imageStep]
        omega
      have hwritten := h.written i (Nat.zero_le i) (by omega) hlt
      rw [hsamples i hi hlt, hindex, Int.toNat_natCast] at hwritten
      · exact (Option.some.inj hwritten).symm
      · rw [hindex, imageStep]
        omega
    · exact h.kept _ fun j _ hj heq => hhit ⟨j, by omega, heq⟩

/-- **One sweep** paints its own row and no other, exactly if it is harmless. -/
theorem paintsOwnRow_iff_harmless (hconfig : st.configDataReceived = true)
    (hmessage : WellFormed message) :
    st.PaintsOwnRow bearing message ↔ st.Harmless bearing message := by
  have hmax : st.maxIndex message = min message.data.length st.azimuthSamples.toNat :=
    maxIndex_of_wellFormed hmessage
  have h16 := st.maxIndex_lt message
  obtain ⟨hpaints, hpainted⟩ := paint_spec (st.nextBearing bearing message) message.data
    (st.maxIndex message) 0 st.radarImage (by omega) (by omega)
  rw [PaintsOwnRow, ← hmax]
  constructor
  · rintro ⟨handled, hhandled, helsewhere, hrow⟩
    obtain ⟨hpaint, hbearing⟩ := fftDataCallback_eq_ok hconfig hhandled
    have hp := hpainted _ hpaint
    rw [hbearing] at helsewhere hrow
    refine ⟨fun i hi => ⟨hp.nonneg i (Nat.zero_le i) (by omega),
      hp.elsewhere_iff.mp helsewhere i hi⟩, fun row h400 hown => ?_⟩
    exact (hp.row_iff hown h400 h16.le).mp (hrow row h400 hown)
  · intro h
    obtain ⟨image, himage⟩ := hpaints fun j _ hj => (h.elsewhere j (by omega)).1
    have hp := hpainted image himage
    refine ⟨_, (if_pos hconfig).trans (bind_eq_ok.mpr ⟨image, himage, rfl⟩), ?_, ?_⟩
    · exact hp.elsewhere_iff.mpr fun i hi => (h.elsewhere i hi).2
    · exact fun row h400 hown => (hp.row_iff hown h400 h16.le).mpr (h.row row h400 hown)

/-! ## Runs -/

inductive Event where
  | configuration (message : RadarConfigurationMessage)
  | sweep (message : RadarFftDataMessage)

/-- The subscriber, and for each row the samples of the last sweep with that bearing. -/
structure History where
  subscriber : ColossusSubscriberToVideo
  last : Nat → Bytes

namespace History

variable (bearing : UInt16 → UInt16 → UInt16 → Int32)

/-- No row has had a sweep. -/
def initial : History := ⟨.initial, fun _ => []⟩

/-- The sweep is the last one for its row now. -/
def record (s : History) (message : RadarFftDataMessage) (row : Nat) : Bytes :=
  if s.subscriber.configDataReceived = true ∧
      (row : Int) = (s.subscriber.nextBearing bearing message).toInt then
    message.data.take (s.subscriber.maxIndex message)
  else s.last row

/-- A sweep that reads or writes out of bounds makes no step. -/
def step (s : History) : Event → Option History
  | .configuration message =>
      some { s with subscriber := s.subscriber.configurationDataCallback message }
  | .sweep message =>
      (s.subscriber.fftDataCallback bearing message).toOption.map fun handled =>
        ⟨handled.1, s.record bearing message⟩

/-- Every sweep behind the first configuration has as many samples as it says, and is
    harmless. -/
def Allowed (s : History) : Event → Prop
  | .configuration _ => True
  | .sweep message => s.subscriber.configDataReceived = true →
      WellFormed message ∧ s.subscriber.Harmless bearing message

/-- Each row holds the samples of the last sweep with its bearing. -/
def Holds (s : History) : Prop :=
  ∀ row : Nat, row < 400 → ∀ i < min (s.last row).length 400,
    (s.last row)[i]? = some (s.subscriber.pixel row i)

variable {bearing} {s s' : History} {e : Event}

theorem radarImage_configuration (st : ColossusSubscriberToVideo)
    (message : RadarConfigurationMessage) :
    (st.configurationDataCallback message).radarImage = st.radarImage := by
  unfold configurationDataCallback
  split <;> rfl

theorem holds_step (h : s.Holds) (hallowed : s.Allowed bearing e)
    (hstep : s.step bearing e = some s') : s'.Holds := by
  cases e with
  | configuration message =>
    obtain rfl := Option.some.inj hstep
    intro row h400 i hi
    rw [pixel, radarImage_configuration]
    exact h row h400 i hi
  | sweep message =>
    obtain ⟨handled, hhandled, rfl⟩ := Option.map_eq_some_iff.mp hstep
    have hok := toOption_eq_some.mp hhandled
    by_cases hconfig : s.subscriber.configDataReceived = true
    · obtain ⟨hmessage, hharmless⟩ := hallowed hconfig
      obtain ⟨handled', hhandled', helsewhere, hrow⟩ :=
        (paintsOwnRow_iff_harmless hconfig hmessage).mpr hharmless
      obtain rfl := Except.ok.inj (hok.symm.trans hhandled')
      obtain ⟨-, hbearing⟩ := fftDataCallback_eq_ok hconfig hok
      rw [hbearing] at helsewhere hrow
      intro row h400
      change ∀ i < min (s.record bearing message row).length 400,
        (s.record bearing message row)[i]? = some (handled.1.pixel row i)
      by_cases hown : (row : Int) = (s.subscriber.nextBearing bearing message).toInt
      · -- the row of this sweep
        have hlast : s.record bearing message row =
            message.data.take (s.subscriber.maxIndex message) := if_pos ⟨hconfig, hown⟩
        intro i hi
        rw [hlast, List.length_take, maxIndex_of_wellFormed hmessage] at hi
        rw [hlast, List.getElem?_take_of_lt (by rw [maxIndex_of_wellFormed hmessage]; omega)]
        exact hrow row h400 hown i (by omega)
      · have hlast : s.record bearing message row = s.last row := if_neg fun hand => hown hand.2
        rw [hlast]
        intro i hi
        rw [helsewhere row i h400 (by omega) hown]
        exact h row h400 i hi
    · -- before the first configuration nothing is painted
      rw [fftDataCallback, if_neg hconfig] at hok
      rw [← Except.ok.inj hok]
      intro row h400
      have hlast : s.record bearing message row = s.last row := if_neg fun hand => hconfig hand.1
      change ∀ i < min (s.record bearing message row).length 400,
        (s.record bearing message row)[i]? = some (s.subscriber.pixel row i)
      rw [hlast]
      exact h row h400

end History

/-- **A sweep paints its own row** and no other, exactly if it is harmless; and in every run in
    which all sweeps are, each row holds the samples of the last sweep with its bearing. -/
theorem paintsOwnRow_iff (bearing : UInt16 → UInt16 → UInt16 → Int32) :
    (∀ (st : ColossusSubscriberToVideo) (message : RadarFftDataMessage),
      st.configDataReceived = true → WellFormed message →
        (st.PaintsOwnRow bearing message ↔ st.Harmless bearing message)) ∧
    ∀ s, Reach (History.step bearing) (History.Allowed bearing) .initial s → s.Holds := by
  refine ⟨fun st message hconfig hmessage => paintsOwnRow_iff_harmless hconfig hmessage,
    fun s hreach => hreach.invariant ?_ History.holds_step⟩
  intro row h400 i hi
  rw [History.initial, List.length_nil] at hi
  omega

/-- The publisher's messages are well formed, up to the length their field has room for. -/
theorem wellFormed_fftDataMessage (double : ExtRat → Utility.Binary64) {data : FftData}
    (h : data.data.length < 2 ^ 16) :
    WellFormed (ColossusPublisher.fftDataMessage double data) := by
  have hlength : (UInt16.ofNat data.data.length).toNat = data.data.length :=
    UInt16.toNat_ofNat_of_lt' h
  rw [WellFormed, ColossusPublisher.fftDataMessage, ColossusSubscriber.readUint16_toVectorOf,
    Option.map_some, hlength]

/-- Four azimuths. -/
def configured : ColossusSubscriberToVideo :=
  initial.configurationDataCallback
    (ColossusPublisher.configurationMessage (fun _ => ⟨0⟩) fourByTwo)

/-- The bearing of exact numbers. -/
def exactBearing (azimuth encoderSize azimuthSamples : UInt16) : Int32 :=
  Int32.ofNat (azimuth.toNat * azimuthSamples.toNat / encoderSize.toNat)

/-- The first pixel of the row of azimuth 4200 is 7, as the sweep above it may leave it. -/
def firstPixelSeven : ColossusSubscriberToVideo :=
  { configured with radarImage := fun place => if place = 3 * imageStep then 7 else 0 }

/-- A sweep of three samples, all of them 7. -/
def threeSevens : RadarFftDataMessage :=
  ColossusPublisher.fftDataMessage (fun _ => ⟨0⟩) { lastSweep with data := [7, 7, 7] }

theorem paintsOwnRow_iff_sevens :
    firstPixelSeven.configDataReceived = true ∧ WellFormed threeSevens ∧
      firstPixelSeven.PaintsOwnRow exactBearing threeSevens := by
  have hmessage : WellFormed threeSevens := wellFormed_fftDataMessage _ (by decide)
  have hcount : firstPixelSeven.maxIndex threeSevens = 3 := rfl
  have hbearing : (firstPixelSeven.nextBearing exactBearing threeSevens).toInt = 3 := rfl
  refine ⟨rfl, hmessage, ((paintsOwnRow_iff exactBearing).1 _ _ rfl hmessage).mpr
    ⟨fun i hi => ?_, fun row h400 hrow i hi => ?_⟩⟩
  · -- all three places are in the row
    rw [hcount] at hi
    have hrow : ((3 : Nat) : Int) = (firstPixelSeven.nextBearing exactBearing threeSevens).toInt :=
      hbearing.symm
    have hplace := flatIndex_of_row hrow (by decide) (i := i) (by omega)
    rw [hplace, hbearing]
    exact ⟨by omega, fun _ hne => absurd (by unfold imageStep; omega) hne⟩
  · rw [hcount] at hi
    obtain rfl : row = 3 := Int.ofNat.inj (hrow.trans hbearing)
    have hseven : firstPixelSeven.pixel 3 0 = 7 := rfl
    rw [hseven]
    match i, hi with
    | 0, _ | 1, _ | 2, _ => rfl

/-- The first sample is 9, and the first pixel stays black. -/
theorem not_forall_paintsOwnRow :
    ¬ ∀ (bearing : UInt16 → UInt16 → UInt16 → Int32) (st : ColossusSubscriberToVideo)
      (message : RadarFftDataMessage), st.configDataReceived = true → WellFormed message →
        st.PaintsOwnRow bearing message := by
  intro h
  have hmessage : WellFormed (ColossusPublisher.fftDataMessage (fun _ => ⟨0⟩) firstSweep) :=
    wellFormed_fftDataMessage _ (by decide)
  have hharmless := (paintsOwnRow_iff_harmless rfl hmessage).mp
    (h exactBearing configured _ rfl hmessage)
  have hpixel : some (9 : UInt8) = some 0 := hharmless.row 0 (by decide) (by decide) 0 (by decide)
  exact absurd hpixel (by decide)

end ColossusSubscriberToVideo

end Ros

end Navtech
