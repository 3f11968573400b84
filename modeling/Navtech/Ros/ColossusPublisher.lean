/-
  `Colossus_publisher`: the radar's messages as ROS messages, whose fields are bytes.

  Each field but `data` is documented as an array in network order, of an integer or of a
  `double`. The integers are converted. The two `double`s, `angle` and `bin_size`, are copied as
  they are in memory, so that they are right only where the pattern is the same in both orders;
  and the length of the data is cut off to the 16 bits of its field (`carries_iff`).

  `Colossus_subscriber` copies the two back in the same way (`readBack`). So the publisher and
  the subscriber agree with each other, and not with the documentation.

  `double` is the pattern that a number is stored in; which one that is, and how the machine
  rounds, does not matter here.
-/
import Navtech.Ros.Parameters

namespace Navtech

namespace Ros

open ByteOrder
open Network (Bytes)
open Utility

/-- The message for a configuration: each field is an array of bytes. -/
structure RadarConfigurationMessage where
  azimuthSamples : Bytes
  encoderSize : Bytes
  binSize : Bytes
  rangeInBins : Bytes
  expectedRotationRate : Bytes
deriving DecidableEq, Repr

/-- The message for a sweep: all but the samples is in arrays of bytes of its own. -/
structure RadarFftDataMessage where
  angle : Bytes
  azimuth : Bytes
  sweepCounter : Bytes
  ntpSeconds : Bytes
  ntpSplitSeconds : Bytes
  data : Bytes
  dataLength : Bytes
deriving DecidableEq, Repr

/-- A number of `n` bytes, from an array in network order. -/
def fromNetworkOrder (n : Nat) (bytes : Bytes) : Option Nat :=
  if bytes.length = n then some (ofBEBytes bytes) else none

/-- The members that the handlers read. -/
structure ColossusPublisher where
  lastAzimuth : Nat
  rotatedOnce : Bool
  rotationCount : Nat
  configMessage : RadarConfigurationMessage
deriving DecidableEq, Repr

namespace ColossusPublisher

inductive Published where
  | configuration (message : RadarConfigurationMessage)
  | fftData (message : RadarFftDataMessage)
deriving DecidableEq, Repr

/-- As constructed: the message of the configuration is empty. -/
def initial : ColossusPublisher where
  lastAzimuth := 0
  rotatedOnce := false
  rotationCount := 0
  configMessage := ⟨[], [], [], [], []⟩

section Messages

variable (double : ExtRat → Binary64)

/-- `config_message`, as the handler of a configuration fills it. -/
def configurationMessage (data : ConfigurationData) : RadarConfigurationMessage where
  azimuthSamples := toVectorOf 2 (toUint16Network data.azimuthSamples).toNat
  encoderSize := toVectorOf 2 (toUint16Network data.encoderSize).toNat
  binSize := toVectorOf 8 (toUint64Host (double data.binSize)).toNat
  rangeInBins := toVectorOf 2 (toUint16Network data.rangeInBins).toNat
  expectedRotationRate := toVectorOf 2 (toUint16Network data.expectedRotationRate).toNat

/-- `message`, in the handler of a sweep. -/
def fftDataMessage (data : FftData) : RadarFftDataMessage where
  angle := toVectorOf 8 (toUint64Host (double data.angle)).toNat
  azimuth := toVectorOf 2 (toUint16Network data.azimuth).toNat
  sweepCounter := toVectorOf 2 (toUint16Network data.sweepCounter).toNat
  ntpSeconds := toVectorOf 4 (toUint32Network data.ntpSeconds).toNat
  ntpSplitSeconds := toVectorOf 4 (toUint32Network data.ntpSplitSeconds).toNat
  data := data.data
  dataLength := toVectorOf 2 (toUint16Network (UInt16.ofNat data.data.length)).toNat

/-- `configuration_data_handler` keeps the message, to publish it again later. -/
def configurationDataHandler (st : ColossusPublisher) (data : ConfigurationData) :
    ColossusPublisher × List Published :=
  let message := configurationMessage double data
  ({ st with configMessage := message }, [.configuration message])

/-- Every few rotations the configuration is published again. Sweeps are published once there
    has been a rotation. -/
def fftDataHandler (st : ColossusPublisher) (data : FftData) :
    ColossusPublisher × List Published :=
  let message := fftDataMessage double data
  let falls := decide (data.azimuth.toNat < st.lastAzimuth)
  let rotationCount := if falls then st.rotationCount + 1 else st.rotationCount
  let rotatedOnce := st.rotatedOnce || falls
  let due := decide (rotationCount ≥ configPublishCount)
  ({ st with
      lastAzimuth := data.azimuth.toNat
      rotatedOnce := rotatedOnce
      rotationCount := if due then 0 else rotationCount },
    (if due then [.configuration st.configMessage] else []) ++
      if rotatedOnce then [.fftData message] else [])

/-- What the client hands over. -/
inductive Event where
  | configuration (data : ConfigurationData)
  | sweep (data : FftData)

/-- The handler that is set for it. -/
def handle (st : ColossusPublisher) : Event → ColossusPublisher × List Published
  | .configuration data => st.configurationDataHandler double data
  | .sweep data => st.fftDataHandler double data

/-- All that is published. -/
def published : ColossusPublisher → List Event → List Published
  | _, [] => []
  | st, e :: events =>
    let handled := st.handle double e
    handled.2 ++ published handled.1 events

end Messages

end ColossusPublisher

/-! ## What the messages carry -/

section Carries

variable {double : ExtRat → Binary64}

/-- Each field decodes to the value in the data. -/
structure RadarConfigurationMessage.Carries (double : ExtRat → Binary64)
    (message : RadarConfigurationMessage) (data : ConfigurationData) : Prop where
  azimuthSamples : fromNetworkOrder 2 message.azimuthSamples = some data.azimuthSamples.toNat
  encoderSize : fromNetworkOrder 2 message.encoderSize = some data.encoderSize.toNat
  binSize : fromNetworkOrder 8 message.binSize = some (double data.binSize).bits.toNat
  rangeInBins : fromNetworkOrder 2 message.rangeInBins = some data.rangeInBins.toNat
  expectedRotationRate :
    fromNetworkOrder 2 message.expectedRotationRate = some data.expectedRotationRate.toNat

/-- The fields in network order give the values of the sweep. -/
structure RadarFftDataMessage.Carries (double : ExtRat → Binary64)
    (message : RadarFftDataMessage) (sweep : FftData) : Prop where
  angle : fromNetworkOrder 8 message.angle = some (double sweep.angle).bits.toNat
  azimuth : fromNetworkOrder 2 message.azimuth = some sweep.azimuth.toNat
  sweepCounter : fromNetworkOrder 2 message.sweepCounter = some sweep.sweepCounter.toNat
  ntpSeconds : fromNetworkOrder 4 message.ntpSeconds = some sweep.ntpSeconds.toNat
  ntpSplitSeconds : fromNetworkOrder 4 message.ntpSplitSeconds = some sweep.ntpSplitSeconds.toNat
  data : message.data = sweep.data
  dataLength : fromNetworkOrder 2 message.dataLength = some sweep.data.length

/-- The pattern is the same in both byte orders. -/
def SameInBothOrders (v : Binary64) : Prop := byteSwap 8 v.bits.toNat = v.bits.toNat

/-- What is copied from memory is read in the opposite order. -/
theorem fromNetworkOrder_toVectorOf (n v : Nat) :
    fromNetworkOrder n (toVectorOf n v) = some (byteSwap n v) :=
  if_pos (length_leBytes n v)

theorem fromNetworkOrder_uint16 (v : UInt16) :
    fromNetworkOrder 2 (toVectorOf 2 (toUint16Network v).toNat) = some v.toNat := by
  have hlt : v.toNat < 256 ^ 2 := v.toNat_lt
  rw [fromNetworkOrder_toVectorOf, toUint16Network, toNat_htons, byteSwap_byteSwap,
    Nat.mod_eq_of_lt hlt]

theorem fromNetworkOrder_uint32 (v : UInt32) :
    fromNetworkOrder 4 (toVectorOf 4 (toUint32Network v).toNat) = some v.toNat := by
  have hlt : v.toNat < 256 ^ 4 := v.toNat_lt
  rw [fromNetworkOrder_toVectorOf, toUint32Network, toNat_htonl, byteSwap_byteSwap,
    Nat.mod_eq_of_lt hlt]

theorem fromNetworkOrder_double_iff (v : Binary64) :
    fromNetworkOrder 8 (toVectorOf 8 (toUint64Host v).toNat) = some v.bits.toNat ↔
      SameInBothOrders v := by
  rw [fromNetworkOrder_toVectorOf, Option.some.injEq]
  exact Iff.rfl

theorem fromNetworkOrder_length_iff (n : Nat) :
    fromNetworkOrder 2 (toVectorOf 2 (toUint16Network (UInt16.ofNat n)).toNat) = some n ↔
      n < 2 ^ 16 := by
  rw [fromNetworkOrder_uint16, Option.some.injEq, UInt16.toNat_ofNat']
  exact Nat.mod_eq_iff_lt (by decide)

/-- **What the messages carry.** A configuration is carried exactly if the pattern of its bin
    size is the same in both orders; a sweep exactly if that of its angle is, and its samples
    can be counted in 16 bits. -/
theorem carries_iff (double : ExtRat → Binary64) (configuration : ConfigurationData)
    (sweep : FftData) :
    ((ColossusPublisher.configurationMessage double configuration).Carries double
        configuration ↔ SameInBothOrders (double configuration.binSize)) ∧
      ((ColossusPublisher.fftDataMessage double sweep).Carries double sweep ↔
        SameInBothOrders (double sweep.angle) ∧ sweep.data.length < 2 ^ 16) := by
  refine ⟨⟨fun h => ?_, fun h => ?_⟩, fun h => ?_, fun h => ?_⟩
  · exact (fromNetworkOrder_double_iff _).mp h.binSize
  · exact ⟨fromNetworkOrder_uint16 _, fromNetworkOrder_uint16 _,
      (fromNetworkOrder_double_iff _).mpr h, fromNetworkOrder_uint16 _,
      fromNetworkOrder_uint16 _⟩
  · exact ⟨(fromNetworkOrder_double_iff _).mp h.angle,
      (fromNetworkOrder_length_iff _).mp h.dataLength⟩
  · exact ⟨(fromNetworkOrder_double_iff _).mpr h.1, fromNetworkOrder_uint16 _,
      fromNetworkOrder_uint16 _, fromNetworkOrder_uint32 _, fromNetworkOrder_uint32 _, rfl,
      (fromNetworkOrder_length_iff _).mpr h.2⟩

/-- A sweep at 90 degrees. -/
theorem not_forall_carries :
    ¬ ∀ (double : ExtRat → Binary64) (data : FftData), data.data.length ≤ 1000000 →
      (ColossusPublisher.fftDataMessage double data).Carries double data := by
  intro h
  have hangle := (h (fun _ => ⟨0x4056800000000000⟩)
    { lastSweep with angle := .finite 90, azimuth := 1400 } (by decide)).angle
  exact absurd ((fromNetworkOrder_double_iff _).mp hangle) (by unfold SameInBothOrders; decide)

end Carries

namespace ColossusPublisher

variable {double : ExtRat → Binary64}

/-- The message is the one made of the data of an event. -/
def MadeOf (double : ExtRat → Binary64) (events : List Event) : Published → Prop
  | .configuration message =>
      ∃ data, .configuration data ∈ events ∧ message = configurationMessage double data
  | .fftData message => ∃ data, .sweep data ∈ events ∧ message = fftDataMessage double data

theorem MadeOf.mono {events events' : List Event} {p : Published}
    (h : MadeOf double events p) (hsub : events ⊆ events') : MadeOf double events' p := by
  cases p with
  | configuration message =>
    obtain ⟨data, hmem, hmessage⟩ := h
    exact ⟨data, hsub hmem, hmessage⟩
  | fftData message =>
    obtain ⟨data, hmem, hmessage⟩ := h
    exact ⟨data, hsub hmem, hmessage⟩

/-- Once there has been a configuration, `config_message` is made of one. A step keeps this. -/
theorem handle_madeOf {st : ColossusPublisher} {seen : List Event} (e : Event)
    (h : MadeOf double seen (.configuration st.configMessage)) :
    MadeOf double (e :: seen) (.configuration (st.handle double e).1.configMessage) ∧
      ∀ p ∈ (st.handle double e).2, MadeOf double (e :: seen) p := by
  have hsub : seen ⊆ e :: seen := List.subset_cons_self e seen
  cases e with
  | configuration data =>
    refine ⟨⟨data, List.mem_cons_self, rfl⟩, fun p hp => ?_⟩
    obtain rfl := List.mem_singleton.mp hp
    exact ⟨data, List.mem_cons_self, rfl⟩
  | sweep data =>
    refine ⟨h.mono hsub, fun p hp => ?_⟩
    rcases List.mem_append.mp hp with hp | hp
    · obtain rfl := List.mem_singleton.mp (List.mem_ite_nil_right.mp hp).2
      exact h.mono hsub
    · obtain rfl := List.mem_singleton.mp (List.mem_ite_nil_right.mp hp).2
      exact ⟨data, List.mem_cons_self, rfl⟩

theorem published_madeOf (events : List Event) : ∀ {st : ColossusPublisher} {seen : List Event},
    MadeOf double seen (.configuration st.configMessage) →
      ∀ p ∈ published double st events, MadeOf double (events ++ seen) p := by
  induction events with
  | nil => exact fun _ _ hp => absurd hp List.not_mem_nil
  | cons e events ih =>
    intro st seen h p hp
    obtain ⟨hconfig, hmade⟩ := handle_madeOf e h
    rcases List.mem_append.mp hp with hp | hp
    · exact (hmade p hp).mono fun x hx => by
        rcases List.mem_cons.mp hx with rfl | hx
        · exact List.mem_cons_self
        · exact List.mem_append_right _ hx
    · refine (ih hconfig p hp).mono fun x hx => ?_
      rcases List.mem_append.mp hx with hx | hx
      · exact List.mem_append_left _ (List.mem_cons_of_mem _ hx)
      · rcases List.mem_cons.mp hx with rfl | hx
        · exact List.mem_cons_self
        · exact List.mem_append_right _ hx

/-- Behind the first configuration, everything that is published is made of the data of some
    event, so that `carries_iff` is about all of it. -/
theorem published_madeOf_run (data : ConfigurationData) (events : List Event) :
    ∀ p ∈ published double initial (.configuration data :: events),
      MadeOf double (.configuration data :: events) p := by
  intro p hp
  have hmade : MadeOf double [.configuration data]
      (.configuration (configurationMessage double data)) :=
    ⟨data, List.mem_cons_self, rfl⟩
  rcases List.mem_append.mp hp with hp | hp
  · obtain rfl := List.mem_singleton.mp hp
    exact ⟨data, List.mem_cons_self, rfl⟩
  · refine (published_madeOf events hmade p hp).mono fun x hx => ?_
    rcases List.mem_append.mp hx with hx | hx
    · exact List.mem_cons_of_mem _ hx
    · exact List.mem_cons.mpr (.inl (List.mem_singleton.mp hx))

end ColossusPublisher

/-! ## `Colossus_subscriber` -/

namespace ColossusSubscriber

/-- What the callback of a configuration reads. -/
structure ReadConfiguration where
  azimuthSamples : Option UInt16
  encoderSize : Option UInt16
  binSize : Option Binary64
  rangeInBins : Option UInt16
  expectedRotationRate : Option UInt16
deriving DecidableEq, Repr

/-- What a subscriber reads of a sweep, field by field. -/
structure ReadFftData where
  angle : Option Binary64
  azimuth : Option UInt16
  sweepCounter : Option UInt16
  ntpSeconds : Option UInt32
  ntpSplitSeconds : Option UInt32
  dataLength : Option UInt16
deriving DecidableEq, Repr

/-- `to_uint16_host` of what `from_vector_to<uint16_t>` finds. -/
def readUint16 (vec : Bytes) : Option UInt16 :=
  (fromVectorTo 2 vec).map fun v => toUint16Host (UInt16.ofNat v)

/-- Four bytes, through the conversion to host order. -/
def readUint32 (vec : Bytes) : Option UInt32 :=
  (fromVectorTo 4 vec).map fun v => toUint32Host (UInt32.ofNat v)

/-- Eight bytes, whose order the conversion leaves as it is. -/
def readDouble (vec : Bytes) : Option Binary64 :=
  (fromVectorTo 8 vec).map fun v => fromUint64Host (UInt64.ofNat v)

/-- `configuration_data_callback` reads every field, and logs it where it can be read. -/
def configurationDataCallback (message : RadarConfigurationMessage) : ReadConfiguration where
  azimuthSamples := readUint16 message.azimuthSamples
  encoderSize := readUint16 message.encoderSize
  binSize := readDouble message.binSize
  rangeInBins := readUint16 message.rangeInBins
  expectedRotationRate := readUint16 message.expectedRotationRate

def fftDataCallback (message : RadarFftDataMessage) : ReadFftData where
  angle := readDouble message.angle
  azimuth := readUint16 message.azimuth
  sweepCounter := readUint16 message.sweepCounter
  ntpSeconds := readUint32 message.ntpSeconds
  ntpSplitSeconds := readUint32 message.ntpSplitSeconds
  dataLength := readUint16 message.dataLength

theorem readUint16_toVectorOf (v : UInt16) :
    readUint16 (toVectorOf 2 (toUint16Network v).toNat) = some v := by
  have hlt : (toUint16Network v).toNat < 256 ^ 2 := (toUint16Network v).toNat_lt
  rw [readUint16, fromVectorTo_toVectorOf, Nat.mod_eq_of_lt hlt, Option.map_some,
    UInt16.ofNat_toNat, toUint16Host_toUint16Network]

theorem readUint32_toVectorOf (v : UInt32) :
    readUint32 (toVectorOf 4 (toUint32Network v).toNat) = some v := by
  have hlt : (toUint32Network v).toNat < 256 ^ 4 := (toUint32Network v).toNat_lt
  rw [readUint32, fromVectorTo_toVectorOf, Nat.mod_eq_of_lt hlt, Option.map_some,
    UInt32.ofNat_toNat, toUint32Host_toUint32Network]

theorem readDouble_toVectorOf (v : Binary64) :
    readDouble (toVectorOf 8 (toUint64Host v).toNat) = some v := by
  have hlt : (toUint64Host v).toNat < 256 ^ 8 := (toUint64Host v).toNat_lt
  rw [readDouble, fromVectorTo_toVectorOf, Nat.mod_eq_of_lt hlt, Option.map_some,
    UInt64.ofNat_toNat, fromUint64Host_toUint64Host]

/-- The subscriber reads back what the publisher was given, and the length modulo 65536. -/
theorem readBack (double : ExtRat → Binary64) (configuration : ConfigurationData)
    (sweep : FftData) :
    configurationDataCallback (ColossusPublisher.configurationMessage double configuration) =
        ⟨some configuration.azimuthSamples, some configuration.encoderSize,
          some (double configuration.binSize), some configuration.rangeInBins,
          some configuration.expectedRotationRate⟩ ∧
      fftDataCallback (ColossusPublisher.fftDataMessage double sweep) =
        ⟨some (double sweep.angle), some sweep.azimuth, some sweep.sweepCounter,
          some sweep.ntpSeconds, some sweep.ntpSplitSeconds,
          some (UInt16.ofNat sweep.data.length)⟩ := by
  simp only [configurationDataCallback, fftDataCallback, ColossusPublisher.configurationMessage,
    ColossusPublisher.fftDataMessage, readUint16_toVectorOf, readUint32_toVectorOf,
    readDouble_toVectorOf, and_self]

end ColossusSubscriber

end Ros

end Navtech
