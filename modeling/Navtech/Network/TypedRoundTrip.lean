/-
  Sending a typed message and viewing what arrives as the same class.

  An object is built by calls of setters in any order, sent by
  `Message << type << header << payload`, and the bytes handed out are loaded into a message and
  viewed. `MessageClass` collects what a class has: its setters (`apply`) with what each is
  meant to set (`update`), its getters (`view`) with what they are meant to return (`want`).
  Its laws say that the object is at every moment the packed image of the values set so far
  (`apply_image`, `object_setters`), so what the getters return on an image is all that is left
  to know about a class.

  For four classes they return what was set. `Fft_data` stores its two time stamps in network
  order and returns them without converting them back, so it returns a time stamp that was set
  only if that reads the same in both byte orders. For every class with a payload, payload and
  header together have to fit the 32-bit length field.
-/
import Mathlib.Data.UInt
import Navtech.Network.ColossusMessages
import Navtech.Network.MessageAssembly

namespace Navtech.Network

open PackedRecord Buffer CheckedView MessageBase Navtech.Utility

/-! ## Message classes -/

structure MessageClass where
  /-- The members, as the setters leave them. -/
  Values : Type
  Setter : Type
  layout : Layout
  size : Nat
  hasPayload : Bool
  /-- Object after a call of a setter. -/
  apply : Bytes → Setter → Bytes
  update : Values → Setter → Values
  unset : Values
  /-- All getters, on a viewed message. -/
  view : Bytes → Except Fault Values
  want : Values → Values
  words : Values → List Nat
  size_eq : size = layout.sum
  size_lt : size < 2 ^ 32
  length_words : ∀ m, (words m).length = layout.length
  words_unset : words unset = List.replicate layout.length 0
  apply_image : ∀ m s base, base.length = beginOffset →
    apply (image base layout (words m) []) s = image base layout (words (update m s)) []

namespace MessageClass

variable (c : MessageClass)

/-- The object after calls of setters on a new one. -/
def object (setters : List c.Setter) : Bytes :=
  setters.foldl c.apply (MessageBase.object c.size)

/-- What the calls set. -/
def values (setters : List c.Setter) : c.Values := setters.foldl c.update c.unset

/-- `Message << type << header << payload`. -/
def calls (t : MessageType) (setters : List c.Setter) (form : PayloadForm) (payload : Bytes) :
    List Call :=
  [.type t, .insertHeader (header c.size (c.object setters))] ++
    if c.hasPayload then [.insert form payload] else []

def sent (t : MessageType) (setters : List c.Setter) (form : PayloadForm) (payload : Bytes) :
    Bytes :=
  (build (c.calls t setters form payload)).relinquish

/-- The message that the bytes are loaded into. -/
def received (t : MessageType) (setters : List c.Setter) (form : PayloadForm)
    (payload : Bytes) : Bytes :=
  (Message.ofBuffer (c.sent t setters form payload)).data

/-- The getters return what was set, and `to_vector` and `to_string` the payload. -/
def RoundTrip (t : MessageType) (setters : List c.Setter) (form : PayloadForm)
    (payload : Bytes) : Prop :=
  c.view (c.received t setters form payload) = .ok (c.want (c.values setters)) ∧
    (c.hasPayload = true →
      toVector c.size (c.received t setters form payload) = .ok payload ∧
      MessageBase.toString c.size (c.received t setters form payload) = .ok payload)

/-! ## What arrives -/

variable {c}

theorem foldl_image (setters : List c.Setter) (m : c.Values) (base : Bytes)
    (hbase : base.length = beginOffset) :
    setters.foldl c.apply (image base c.layout (c.words m) []) =
      image base c.layout (c.words (setters.foldl c.update m)) [] := by
  induction setters generalizing m with
  | nil => rfl
  | cons s setters ih =>
    rw [List.foldl_cons, List.foldl_cons, c.apply_image m s base hbase]
    exact ih (c.update m s)

/-- The object is the image of the values set. -/
theorem object_setters (setters : List c.Setter) :
    c.object setters = image (List.replicate beginOffset 0) c.layout (c.words (c.values setters))
      [] := by
  unfold object values
  rw [c.size_eq, object_eq, ← c.words_unset]
  exact foldl_image setters c.unset _ List.length_replicate

theorem length_header (m : c.Values) : (packed c.layout (c.words m)).length = c.size := by
  rw [length_packed (c.length_words m), c.size_eq]

theorem header_object (setters : List c.Setter) :
    header c.size (c.object setters) = packed c.layout (c.words (c.values setters)) := by
  rw [object_setters]
  exact slice_append List.length_replicate (length_header _)

/-- The message that arrives is a frame with the packed values before the payload. -/
theorem received_eq (t : MessageType) (setters : List c.Setter) (form : PayloadForm)
    (payload : Bytes) :
    c.received t setters form payload =
      frameBytes t (packed c.layout (c.words (c.values setters)) ++
        if c.hasPayload then payload else []) := by
  have hheader : build [.type t, .insertHeader (header c.size (c.object setters))] =
      ⟨false, frameBytes t (packed c.layout (c.words (c.values setters)))⟩ := by
    show ((Message.default.setType t).appendHeader _) = _
    rw [Message.default_eq, Message.setType_frameBytes, Message.appendHeader_of_empty,
      header_object]
  unfold received sent calls Message.ofBuffer
  split
  · rw [build_snoc, hheader, (apply_payload _ form payload).2, Message.appendBytes_frameBytes,
      Message.relinquish_frameBytes]
  · rw [List.append_nil, hheader, Message.relinquish_frameBytes, List.append_nil]

/-- A class whose getters return `got` on an image makes the round trip where that is what they
    should return and the length field can hold the length. -/
theorem roundTrip_iff {got : c.Values → c.Values}
    (hview : ∀ m base payload, base.length = beginOffset →
      c.view (image base c.layout (c.words m) payload) = .ok (got m))
    (t : MessageType) (setters : List c.Setter) (form : PayloadForm) (payload : Bytes) :
    c.RoundTrip t setters form payload ↔
      got (c.values setters) = c.want (c.values setters) ∧
        (c.hasPayload = true → c.size + payload.length < 2 ^ 32) := by
  have hread : c.view (c.received t setters form payload) = .ok (got (c.values setters)) := by
    rw [received_eq, frameBytes_eq_image]
    exact hview _ _ _ (length_headerBytes _ _)
  have hpayload (hp : c.hasPayload = true) :
      toVector c.size (c.received t setters form payload) = .ok payload ↔
        c.size + payload.length < 2 ^ 32 := by
    rw [received_eq, if_pos hp]
    exact toVector_frame (length_header _) c.size_lt
  unfold RoundTrip
  rw [hread, Except.ok.injEq]
  refine and_congr_right fun _ => forall_congr' fun hp => ?_
  rw [← hpayload hp]
  exact and_iff_left_of_imp id

end MessageClass

/-! ## The classes -/

namespace Configuration

structure Values where
  azimuthSamples : UInt16
  binSize : UInt16
  rangeInBins : UInt16
  encoderSize : UInt16
  rotationSpeed : UInt16
  packetRate : UInt16
  rangeGain : Binary32
  rangeOffset : Binary32
deriving DecidableEq, Repr

inductive Setter where
  | azimuthSamples (val : UInt16)
  | binSize (val : UInt16)
  | rangeInBins (val : UInt16)
  | encoderSize (val : UInt16)
  | rotationSpeed (val : UInt16)
  | packetRate (val : UInt16)
  | rangeGain (val : Binary32)
  | rangeOffset (val : Binary32)

def apply (object : Bytes) : Setter → Bytes
  | .azimuthSamples val => setAzimuthSamples object val
  | .binSize val => setBinSize object val
  | .rangeInBins val => setRangeInBins object val
  | .encoderSize val => setEncoderSize object val
  | .rotationSpeed val => setRotationSpeed object val
  | .packetRate val => setPacketRate object val
  | .rangeGain val => setRangeGain object val
  | .rangeOffset val => setRangeOffset object val

def update (m : Values) : Setter → Values
  | .azimuthSamples val => { m with azimuthSamples := val }
  | .binSize val => { m with binSize := val }
  | .rangeInBins val => { m with rangeInBins := val }
  | .encoderSize val => { m with encoderSize := val }
  | .rotationSpeed val => { m with rotationSpeed := val }
  | .packetRate val => { m with packetRate := val }
  | .rangeGain val => { m with rangeGain := val }
  | .rangeOffset val => { m with rangeOffset := val }

def view (view : Bytes) : Except Fault Values := do
  return ⟨← azimuthSamples view, ← binSize view, ← rangeInBins view, ← encoderSize view,
    ← rotationSpeed view, ← packetRate view, ← rangeGain view, ← rangeOffset view⟩

def words (m : Values) : List Nat :=
  [m.azimuthSamples.toNat, m.binSize.toNat, m.rangeInBins.toNat, m.encoderSize.toNat,
    m.rotationSpeed.toNat, m.packetRate.toNat, m.rangeGain.bits.toNat, m.rangeOffset.bits.toNat]

def messageClass : MessageClass where
  Values := Values
  Setter := Setter
  layout := layout
  size := size
  hasPayload := true
  apply := apply
  update := update
  unset := ⟨0, 0, 0, 0, 0, 0, ⟨0⟩, ⟨0⟩⟩
  view := view
  want := id
  words := words
  size_eq := rfl
  size_lt := by decide
  length_words _ := rfl
  words_unset := rfl
  apply_image m s base hbase := by
    cases s with
    | azimuthSamples val => exact setUint16_image hbase rfl rfl val
    | binSize val => exact setUint16_image hbase rfl rfl val
    | rangeInBins val => exact setUint16_image hbase rfl rfl val
    | encoderSize val => exact setUint16_image hbase rfl rfl val
    | rotationSpeed val => exact setUint16_image hbase rfl rfl val
    | packetRate val => exact setUint16_image hbase rfl rfl val
    | rangeGain val => exact setFloat_image hbase rfl rfl val
    | rangeOffset val => exact setFloat_image hbase rfl rfl val

theorem view_image (m : Values) (base payload : Bytes) (hbase : base.length = beginOffset) :
    view (image base layout (words m) payload) = .ok m := by
  unfold view azimuthSamples binSize rangeInBins encoderSize rotationSpeed packetRate rangeGain
    rangeOffset
  rw [uint16At_image hbase rfl rfl, uint16At_image hbase rfl rfl, uint16At_image hbase rfl rfl,
    uint16At_image hbase rfl rfl, uint16At_image hbase rfl rfl, uint16At_image hbase rfl rfl,
    floatAt_image hbase rfl rfl, floatAt_image hbase rfl rfl]
  rfl

end Configuration

namespace FftData

structure Values where
  fftDataOffset : UInt16
  sweepCounter : UInt16
  azimuth : UInt16
  ntpSeconds : UInt32
  ntpSplitSeconds : UInt32
deriving DecidableEq, Repr

inductive Setter where
  | fftDataOffset (val : UInt16)
  | sweepCounter (val : UInt16)
  | azimuth (val : UInt16)
  | ntpSeconds (val : UInt32)
  | ntpSplitSeconds (val : UInt32)

def apply (object : Bytes) : Setter → Bytes
  | .fftDataOffset val => setFftDataOffset object val
  | .sweepCounter val => setSweepCounter object val
  | .azimuth val => setAzimuth object val
  | .ntpSeconds val => setNtpSeconds object val
  | .ntpSplitSeconds val => setNtpSplitSeconds object val

def update (m : Values) : Setter → Values
  | .fftDataOffset val => { m with fftDataOffset := val }
  | .sweepCounter val => { m with sweepCounter := val }
  | .azimuth val => { m with azimuth := val }
  | .ntpSeconds val => { m with ntpSeconds := val }
  | .ntpSplitSeconds val => { m with ntpSplitSeconds := val }

def view (view : Bytes) : Except Fault Values := do
  return ⟨← fftDataOffset view, ← sweepCounter view, ← azimuth view, ← ntpSeconds view,
    ← ntpSplitSeconds view⟩

def words (m : Values) : List Nat :=
  [m.fftDataOffset.toNat, m.sweepCounter.toNat, m.azimuth.toNat, m.ntpSeconds.toNat,
    m.ntpSplitSeconds.toNat]

def messageClass : MessageClass where
  Values := Values
  Setter := Setter
  layout := layout
  size := size
  hasPayload := true
  apply := apply
  update := update
  unset := ⟨0, 0, 0, 0, 0⟩
  view := view
  want := id
  words := words
  size_eq := rfl
  size_lt := by decide
  length_words _ := rfl
  words_unset := rfl
  apply_image m s base hbase := by
    cases s with
    | fftDataOffset val => exact setUint16_image hbase rfl rfl val
    | sweepCounter val => exact setUint16_image hbase rfl rfl val
    | azimuth val => exact setUint16_image hbase rfl rfl val
    | ntpSeconds val => exact setUint32_image hbase rfl rfl val
    | ntpSplitSeconds val => exact setUint32_image hbase rfl rfl val

/-- The time stamps come back in network order. -/
def unconverted (m : Values) : Values :=
  { m with
    ntpSeconds := toUint32Network m.ntpSeconds
    ntpSplitSeconds := toUint32Network m.ntpSplitSeconds }

theorem view_image (m : Values) (base payload : Bytes) (hbase : base.length = beginOffset) :
    view (image base layout (words m) payload) = .ok (unconverted m) := by
  unfold view fftDataOffset sweepCounter azimuth ntpSeconds ntpSplitSeconds
  rw [uint16At_image hbase rfl rfl, uint16At_image hbase rfl rfl, uint16At_image hbase rfl rfl,
    rawUint32At_image hbase rfl rfl, rawUint32At_image hbase rfl rfl]
  rfl

/-- Both time stamps read the same in network order. -/
def Symmetric (m : Values) : Prop :=
  toUint32Network m.ntpSeconds = m.ntpSeconds ∧
    toUint32Network m.ntpSplitSeconds = m.ntpSplitSeconds

theorem unconverted_eq (m : Values) : unconverted m = m ↔ Symmetric m := by
  obtain ⟨offset, sweep, azi, seconds, splitSeconds⟩ := m
  simp [unconverted, Symmetric]

end FftData

namespace NavigationData

structure Values where
  azimuth : UInt16
  ntpSeconds : UInt32
  ntpSplitSeconds : UInt32
deriving DecidableEq, Repr

inductive Setter where
  | azimuth (val : UInt16)
  | ntpSeconds (val : UInt32)
  | ntpSplitSeconds (val : UInt32)

def apply (object : Bytes) : Setter → Bytes
  | .azimuth val => setAzimuth object val
  | .ntpSeconds val => setNtpSeconds object val
  | .ntpSplitSeconds val => setNtpSplitSeconds object val

def update (m : Values) : Setter → Values
  | .azimuth val => { m with azimuth := val }
  | .ntpSeconds val => { m with ntpSeconds := val }
  | .ntpSplitSeconds val => { m with ntpSplitSeconds := val }

def view (view : Bytes) : Except Fault Values := do
  return ⟨← azimuth view, ← ntpSeconds view, ← ntpSplitSeconds view⟩

def words (m : Values) : List Nat :=
  [m.azimuth.toNat, m.ntpSeconds.toNat, m.ntpSplitSeconds.toNat]

def messageClass : MessageClass where
  Values := Values
  Setter := Setter
  layout := layout
  size := size
  hasPayload := true
  apply := apply
  update := update
  unset := ⟨0, 0, 0⟩
  view := view
  want := id
  words := words
  size_eq := rfl
  size_lt := by decide
  length_words _ := rfl
  words_unset := rfl
  apply_image m s base hbase := by
    cases s with
    | azimuth val => exact setUint16_image hbase rfl rfl val
    | ntpSeconds val => exact setUint32_image hbase rfl rfl val
    | ntpSplitSeconds val => exact setUint32_image hbase rfl rfl val

theorem view_image (m : Values) (base payload : Bytes) (hbase : base.length = beginOffset) :
    view (image base layout (words m) payload) = .ok m := by
  unfold view azimuth ntpSeconds ntpSplitSeconds
  rw [uint16At_image hbase rfl rfl, uint32At_image hbase rfl rfl, uint32At_image hbase rfl rfl]
  rfl

end NavigationData

namespace Health

/-- A payload and nothing else. -/
def messageClass : MessageClass where
  Values := Unit
  Setter := Empty
  layout := layout
  size := size
  hasPayload := true
  apply object _ := object
  update m _ := m
  unset := ()
  view _ := .ok ()
  want := id
  words _ := []
  size_eq := rfl
  size_lt := by decide
  length_words _ := rfl
  words_unset := rfl
  apply_image _ s := s.elim

end Health

namespace NavigationConfig

/-- The threshold is kept as the setter scales it. -/
structure Values where
  binsToOperateOn : UInt16
  minBinToOperateOn : UInt16
  navigationThreshold : Binary32
  maxPeaksPerAzimuth : UInt32
deriving DecidableEq, Repr

inductive Setter where
  | binsToOperateOn (bins : UInt16)
  | minBinToOperateOn (min : UInt16)
  | navigationThreshold (level : Binary32)
  | maxPeaksPerAzimuth (peaks : UInt32)

variable (scaling : FloatScaling)

def apply (object : Bytes) : Setter → Bytes
  | .binsToOperateOn bins => setBinsToOperateOn object bins
  | .minBinToOperateOn min => setMinBinToOperateOn object min
  | .navigationThreshold level => setNavigationThreshold scaling object level
  | .maxPeaksPerAzimuth peaks => setMaxPeaksPerAzimuth object peaks

def update (m : Values) : Setter → Values
  | .binsToOperateOn bins => { m with binsToOperateOn := bins }
  | .minBinToOperateOn min => { m with minBinToOperateOn := min }
  | .navigationThreshold level => { m with navigationThreshold := scaling.mul10 level }
  | .maxPeaksPerAzimuth peaks => { m with maxPeaksPerAzimuth := peaks }

def view (view : Bytes) : Except Fault Values := do
  return ⟨← binsToOperateOn view, ← minBinToOperateOn view, ← navigationThreshold scaling view,
    ← maxPeaksPerAzimuth view⟩

def words (m : Values) : List Nat :=
  [m.binsToOperateOn.toNat, m.minBinToOperateOn.toNat, m.navigationThreshold.bits.toNat,
    m.maxPeaksPerAzimuth.toNat]

def messageClass : MessageClass where
  Values := Values
  Setter := Setter
  layout := layout
  size := size
  hasPayload := false
  apply := apply scaling
  update := update scaling
  unset := ⟨0, 0, ⟨0⟩, 0⟩
  view := view scaling
  want m := { m with navigationThreshold := scaling.div10 m.navigationThreshold }
  words := words
  size_eq := rfl
  size_lt := by decide
  length_words _ := rfl
  words_unset := rfl
  apply_image m s base hbase := by
    cases s with
    | binsToOperateOn bins => exact setUint16_image hbase rfl rfl bins
    | minBinToOperateOn min => exact setUint16_image hbase rfl rfl min
    | navigationThreshold level => exact setFloat_image hbase rfl rfl (scaling.mul10 level)
    | maxPeaksPerAzimuth peaks => exact setUint32_image hbase rfl rfl peaks

theorem view_image (m : Values) (base payload : Bytes) (hbase : base.length = beginOffset) :
    view scaling (image base layout (words m) payload) =
      .ok { m with navigationThreshold := scaling.div10 m.navigationThreshold } := by
  unfold view binsToOperateOn minBinToOperateOn navigationThreshold maxPeaksPerAzimuth
  rw [uint16At_image hbase rfl rfl, uint16At_image hbase rfl rfl, floatAt_image hbase rfl rfl,
    uint32At_image hbase rfl rfl]
  rfl

end NavigationConfig

/-! ## The round trip -/

/-- The classes of `colossus_messages.h`. -/
inductive ClassName where
  | configuration | fftData | navigationData | health | navigationConfig
deriving DecidableEq, Repr

def ClassName.messageClass (scaling : FloatScaling) : ClassName → MessageClass
  | configuration => Configuration.messageClass
  | fftData => FftData.messageClass
  | navigationData => NavigationData.messageClass
  | health => Health.messageClass
  | navigationConfig => NavigationConfig.messageClass scaling

/-- The values read the same where a getter of the class does not convert them. -/
def ClassName.Readable (scaling : FloatScaling) :
    (name : ClassName) → (name.messageClass scaling).Values → Prop
  | fftData, m => FftData.Symmetric m
  | _, _ => True

/-- **Typed round trip.** A message of any class, built by any calls of its setters and sent
    with any payload, is viewed as what was set exactly when its unconverted members are
    symmetric and, in a class with a payload, the length fits the length field. -/
theorem typed_roundTrip_iff (scaling : FloatScaling) (name : ClassName) (t : MessageType)
    (setters : List (name.messageClass scaling).Setter) (form : PayloadForm) (payload : Bytes) :
    (name.messageClass scaling).RoundTrip t setters form payload ↔
      name.Readable scaling ((name.messageClass scaling).values setters) ∧
        ((name.messageClass scaling).hasPayload = true →
          (name.messageClass scaling).size + payload.length < 2 ^ 32) := by
  cases name with
  | configuration =>
    exact (MessageClass.roundTrip_iff Configuration.view_image t setters form payload).trans
      (and_congr_left' (iff_of_true rfl trivial))
  | fftData =>
    exact (MessageClass.roundTrip_iff FftData.view_image t setters form payload).trans
      (and_congr_left' (FftData.unconverted_eq _))
  | navigationData =>
    exact (MessageClass.roundTrip_iff NavigationData.view_image t setters form payload).trans
      (and_congr_left' (iff_of_true rfl trivial))
  | health =>
    exact (MessageClass.roundTrip_iff (fun _ _ _ _ => rfl) t setters form payload).trans
      (and_congr_left' (iff_of_true rfl trivial))
  | navigationConfig =>
    exact (MessageClass.roundTrip_iff (NavigationConfig.view_image scaling) t setters form
      payload).trans (and_congr_left' (iff_of_true rfl trivial))

/-- `ntp_seconds(1)` on an `Fft_data` comes back as 2 ^ 24. -/
theorem fftData_not_roundTrip :
    FftData.view (FftData.messageClass.received 30 [.ntpSeconds 1] .vector []) =
        .ok ⟨0, 0, 0, 2 ^ 24, 0⟩ ∧
      ¬ FftData.messageClass.RoundTrip 30 [.ntpSeconds 1] .vector [] := by
  have hview : FftData.view (FftData.messageClass.received 30 [.ntpSeconds 1] .vector []) =
      .ok ⟨0, 0, 0, 2 ^ 24, 0⟩ := by decide
  refine ⟨hview, fun h => ?_⟩
  have heq : (2 ^ 24 : UInt32) = 1 :=
    congrArg FftData.Values.ntpSeconds (Except.ok.inj (hview.symm.trans h.1))
  exact absurd heq (by decide)

end Navtech.Network
