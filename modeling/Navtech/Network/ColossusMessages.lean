/-
  The message classes of `cpp_17/network/colossus_messages.h` over `colossus_message_base.h`.

  An object of such a class is memory: 22 bytes that overlay the TCP message header, then the
  members, packed in declaration order (`layout`), then, in a received message, the payload.
  `view_as` turns the vector of a message into such an object without looking at it, so a
  getter is a checked read of that vector at the member's place (`CheckedView`), and a setter
  a write. Places and lengths come from the hand-written `size()` of each class, which is kept
  as the source computes it; `size_eq` says that it is the size of the members.

  The getters and setters of one kind of member are one definition (`uint16At`, `setUint16`
  and so on); each member keeps its own under the source's name. Every setter stores the value
  in network order. Every getter converts it back but those of `ntp_seconds` and
  `ntp_split_seconds` of `Fft_data`, which read the member as it is (`rawUint32At`).

  Multiplication and division of a `float` by ten are parameters (`FloatScaling`).
-/
import Navtech.Lib.CheckedView
import Navtech.Network.Message

namespace Navtech.Network

open ByteOrder Buffer PackedRecord CheckedView Navtech.Utility

/-! ## Message_base -/

namespace MessageBase

/-- `begin()`: behind the base object, `sizeof(Header_only)` bytes. -/
def beginOffset : Nat := Message.headerSize

/-- `end()`, for a class with this `size()`. -/
def endOffset (size : Nat) : Nat := beginOffset + size

/-- `payload_size()`: the last four bytes of the base object. -/
def payloadSize (view : Bytes) : Except Fault Nat :=
  (read 4 view (Message.headerSize - 4)).map fun v => (ntohl (UInt32.ofNat v)).toNat

def payloadBegin (size : Nat) : Nat := endOffset size

def payloadEnd (size : Nat) (view : Bytes) : Except Fault Nat :=
  (payloadSize view).map fun n => endOffset size + n - size

def toVector (size : Nat) (view : Bytes) : Except Fault Bytes :=
  (payloadEnd size view).bind fun last => range view (payloadBegin size) last

def toString (size : Nat) (view : Bytes) : Except Fault Bytes :=
  (payloadEnd size view).bind fun last => range view (payloadBegin size) last

/-- `Derived_Ty header { }`: an object that is not an overlay. -/
def object (size : Nat) : Bytes := List.replicate (beginOffset + size) 0

/-- The bytes from `begin()` to `end()`. -/
def header (size : Nat) (object : Bytes) : Bytes := slice object beginOffset size

end MessageBase

open MessageBase

/-! ## Members -/

/-- A getter that converts a 16-bit member from network order. -/
def uint16At (l : Layout) (i : Nat) (view : Bytes) : Except Fault UInt16 :=
  (read 2 view (beginOffset + fieldOffset l i)).map fun v => toUint16Host (UInt16.ofNat v)

/-- A getter that converts a 32-bit member from network order. -/
def uint32At (l : Layout) (i : Nat) (view : Bytes) : Except Fault UInt32 :=
  (read 4 view (beginOffset + fieldOffset l i)).map fun v => toUint32Host (UInt32.ofNat v)

/-- A getter that returns a 32-bit member as it is stored. -/
def rawUint32At (l : Layout) (i : Nat) (view : Bytes) : Except Fault UInt32 :=
  (read 4 view (beginOffset + fieldOffset l i)).map fun v => UInt32.ofNat v

/-- A getter that converts the pattern of a `float` from network order. -/
def floatAt (l : Layout) (i : Nat) (view : Bytes) : Except Fault Binary32 :=
  (read 4 view (beginOffset + fieldOffset l i)).map fun v => fromUint32Network (UInt32.ofNat v)

def setUint16 (l : Layout) (i : Nat) (object : Bytes) (val : UInt16) : Bytes :=
  store 2 object (beginOffset + fieldOffset l i) (toUint16Network val).toNat

def setUint32 (l : Layout) (i : Nat) (object : Bytes) (val : UInt32) : Bytes :=
  store 4 object (beginOffset + fieldOffset l i) (toUint32Network val).toNat

def setFloat (l : Layout) (i : Nat) (object : Bytes) (val : Binary32) : Bytes :=
  store 4 object (beginOffset + fieldOffset l i) (floatToUint32Network val).toNat

/-- `level * 10.0F` and `level / 10.0F`. -/
structure FloatScaling where
  mul10 : Binary32 → Binary32
  div10 : Binary32 → Binary32

/-! ## Configuration -/

namespace Configuration

def layout : Layout := [2, 2, 2, 2, 2, 2, 4, 4]

def size : Nat := 6 * 2 + 2 * 4

def azimuthSamples : Bytes → Except Fault UInt16 := uint16At layout 0
def setAzimuthSamples : Bytes → UInt16 → Bytes := setUint16 layout 0

def binSize : Bytes → Except Fault UInt16 := uint16At layout 1
def setBinSize : Bytes → UInt16 → Bytes := setUint16 layout 1

def rangeInBins : Bytes → Except Fault UInt16 := uint16At layout 2
def setRangeInBins : Bytes → UInt16 → Bytes := setUint16 layout 2

def encoderSize : Bytes → Except Fault UInt16 := uint16At layout 3
def setEncoderSize : Bytes → UInt16 → Bytes := setUint16 layout 3

def rotationSpeed : Bytes → Except Fault UInt16 := uint16At layout 4
def setRotationSpeed : Bytes → UInt16 → Bytes := setUint16 layout 4

def packetRate : Bytes → Except Fault UInt16 := uint16At layout 5
def setPacketRate : Bytes → UInt16 → Bytes := setUint16 layout 5

def rangeGain : Bytes → Except Fault Binary32 := floatAt layout 6
def setRangeGain : Bytes → Binary32 → Bytes := setFloat layout 6

def rangeOffset : Bytes → Except Fault Binary32 := floatAt layout 7
def setRangeOffset : Bytes → Binary32 → Bytes := setFloat layout 7

end Configuration

/-! ## Fft_data -/

namespace FftData

def layout : Layout := [2, 2, 2, 4, 4]

def size : Nat := 3 * 2 + 2 * 4

def fftDataOffset : Bytes → Except Fault UInt16 := uint16At layout 0
def setFftDataOffset : Bytes → UInt16 → Bytes := setUint16 layout 0

def sweepCounter : Bytes → Except Fault UInt16 := uint16At layout 1
def setSweepCounter : Bytes → UInt16 → Bytes := setUint16 layout 1

def azimuth : Bytes → Except Fault UInt16 := uint16At layout 2
def setAzimuth : Bytes → UInt16 → Bytes := setUint16 layout 2

def ntpSeconds : Bytes → Except Fault UInt32 := rawUint32At layout 3
def setNtpSeconds : Bytes → UInt32 → Bytes := setUint32 layout 3

def ntpSplitSeconds : Bytes → Except Fault UInt32 := rawUint32At layout 4
def setNtpSplitSeconds : Bytes → UInt32 → Bytes := setUint32 layout 4

def fftData : Bytes → Except Fault Bytes := toVector size

end FftData

/-! ## Navigation_data -/

namespace NavigationData

def layout : Layout := [2, 4, 4]

def size : Nat := 2 + 2 * 4

def azimuth : Bytes → Except Fault UInt16 := uint16At layout 0
def setAzimuth : Bytes → UInt16 → Bytes := setUint16 layout 0

def ntpSeconds : Bytes → Except Fault UInt32 := uint32At layout 1
def setNtpSeconds : Bytes → UInt32 → Bytes := setUint32 layout 1

def ntpSplitSeconds : Bytes → Except Fault UInt32 := uint32At layout 2
def setNtpSplitSeconds : Bytes → UInt32 → Bytes := setUint32 layout 2

end NavigationData

/-! ## Health -/

namespace Health

def layout : Layout := []

/-- Inherited from `Header_only`. -/
def size : Nat := 0

end Health

/-! ## Navigation_config -/

namespace NavigationConfig

def layout : Layout := [2, 2, 4, 4]

def size : Nat := 2 + 2 + 4 + 4

def setBinsToOperateOn : Bytes → UInt16 → Bytes := setUint16 layout 0
def binsToOperateOn : Bytes → Except Fault UInt16 := uint16At layout 0

def setMinBinToOperateOn : Bytes → UInt16 → Bytes := setUint16 layout 1
def minBinToOperateOn : Bytes → Except Fault UInt16 := uint16At layout 1

def setNavigationThreshold (scaling : FloatScaling) (object : Bytes) (level : Binary32) : Bytes :=
  setFloat layout 2 object (scaling.mul10 level)
def navigationThreshold (scaling : FloatScaling) (view : Bytes) : Except Fault Binary32 :=
  (floatAt layout 2 view).map scaling.div10

def setMaxPeaksPerAzimuth : Bytes → UInt32 → Bytes := setUint32 layout 3
def maxPeaksPerAzimuth : Bytes → Except Fault UInt32 := uint32At layout 3

end NavigationConfig

/-- The hand-written sizes are those of the members. -/
theorem size_eq : Configuration.size = Configuration.layout.sum ∧
    FftData.size = FftData.layout.sum ∧ NavigationData.size = NavigationData.layout.sum ∧
    Health.size = Health.layout.sum ∧ NavigationConfig.size = NavigationConfig.layout.sum :=
  ⟨rfl, rfl, rfl, rfl, rfl⟩

/-! ## Setters -/

/-- An object of a class with this layout, whatever its first 22 bytes. -/
def image (base : Bytes) (l : Layout) (vs : List Nat) (payload : Bytes) : Bytes :=
  base ++ packed l vs ++ payload

section Members

variable {base payload : Bytes} {l : Layout} {vs : List Nat} {i : Nat}

theorem object_eq (l : Layout) :
    object l.sum = image (List.replicate beginOffset 0) l (List.replicate l.length 0) [] := by
  unfold object image
  rw [packed_replicate_zero, List.append_nil, List.replicate_append_replicate]

/-- A write of a swapped value to a member. -/
theorem store_image {w v : Nat} (hbase : base.length = beginOffset) (hw : l[i]? = some w)
    (hv : vs[i]? = some v) (v' : Nat) :
    store w (image base l vs payload) (beginOffset + fieldOffset l i) (byteSwap w v') =
      image base l (vs.set i v') payload := by
  rw [← hbase]
  exact store_packed base payload hw hv v'

theorem setUint16_image {v : Nat} (hbase : base.length = beginOffset) (hw : l[i]? = some 2)
    (hv : vs[i]? = some v) (val : UInt16) :
    setUint16 l i (image base l vs payload) val = image base l (vs.set i val.toNat) payload := by
  unfold setUint16 toUint16Network
  rw [toNat_htons]
  exact store_image hbase hw hv val.toNat

theorem setUint32_image {v : Nat} (hbase : base.length = beginOffset) (hw : l[i]? = some 4)
    (hv : vs[i]? = some v) (val : UInt32) :
    setUint32 l i (image base l vs payload) val = image base l (vs.set i val.toNat) payload := by
  unfold setUint32 toUint32Network
  rw [toNat_htonl]
  exact store_image hbase hw hv val.toNat

theorem setFloat_image {v : Nat} (hbase : base.length = beginOffset) (hw : l[i]? = some 4)
    (hv : vs[i]? = some v) (val : Binary32) :
    setFloat l i (image base l vs payload) val =
      image base l (vs.set i val.bits.toNat) payload := by
  unfold setFloat floatToUint32Network
  rw [toNat_htonl]
  exact store_image hbase hw hv val.bits.toNat

/-! ## Getters -/

/-- A read of a member finds its value with the bytes swapped. -/
theorem read_image {w v : Nat} (hbase : base.length = beginOffset) (hw : l[i]? = some w)
    (hv : vs[i]? = some v) :
    read w (image base l vs payload) (beginOffset + fieldOffset l i) = .ok (byteSwap w v) := by
  rw [← hbase]
  exact read_packed base payload hw hv

theorem uint16At_image {val : UInt16} (hbase : base.length = beginOffset)
    (hw : l[i]? = some 2) (hv : vs[i]? = some val.toNat) :
    uint16At l i (image base l vs payload) = .ok val := by
  unfold uint16At
  rw [read_image hbase hw hv]
  exact congrArg Except.ok (toUint16Host_toUint16Network val)

theorem uint32At_image {val : UInt32} (hbase : base.length = beginOffset)
    (hw : l[i]? = some 4) (hv : vs[i]? = some val.toNat) :
    uint32At l i (image base l vs payload) = .ok val := by
  unfold uint32At
  rw [read_image hbase hw hv]
  exact congrArg Except.ok (toUint32Host_toUint32Network val)

/-- A getter that does not convert returns the value in network order. -/
theorem rawUint32At_image {val : UInt32} (hbase : base.length = beginOffset)
    (hw : l[i]? = some 4) (hv : vs[i]? = some val.toNat) :
    rawUint32At l i (image base l vs payload) = .ok (toUint32Network val) := by
  unfold rawUint32At
  rw [read_image hbase hw hv]
  rfl

theorem floatAt_image {val : Binary32} (hbase : base.length = beginOffset)
    (hw : l[i]? = some 4) (hv : vs[i]? = some val.bits.toNat) :
    floatAt l i (image base l vs payload) = .ok val := by
  unfold floatAt
  rw [read_image hbase hw hv]
  exact congrArg Except.ok (fromUint32Network_floatToUint32Network val)

end Members

/-- A getter succeeds where its member lies in the message. -/
theorem succeeds_uint16At {l : Layout} {i : Nat} {view : Bytes} :
    Succeeds (uint16At l i view) ↔ beginOffset + fieldOffset l i + 2 ≤ view.length :=
  (succeeds_map _).trans succeeds_read

theorem succeeds_uint32At {l : Layout} {i : Nat} {view : Bytes} :
    Succeeds (uint32At l i view) ↔ beginOffset + fieldOffset l i + 4 ≤ view.length :=
  (succeeds_map _).trans succeeds_read

theorem succeeds_rawUint32At {l : Layout} {i : Nat} {view : Bytes} :
    Succeeds (rawUint32At l i view) ↔ beginOffset + fieldOffset l i + 4 ≤ view.length :=
  (succeeds_map _).trans succeeds_read

theorem succeeds_floatAt {l : Layout} {i : Nat} {view : Bytes} :
    Succeeds (floatAt l i view) ↔ beginOffset + fieldOffset l i + 4 ≤ view.length :=
  (succeeds_map _).trans succeeds_read

/-! ## Payloads -/

/-- A frame is an object, its body a header of the class and the payload. -/
theorem frameBytes_eq_image (t : MessageType) (l : Layout) (vs : List Nat) (payload : Bytes) :
    frameBytes t (packed l vs ++ payload) =
      image (headerBytes t (packed l vs ++ payload).length) l vs payload := by
  unfold frameBytes image
  rw [List.append_assoc]

theorem payloadSize_frame (t : MessageType) (body : Bytes) :
    payloadSize (frameBytes t body) = .ok (body.length % 2 ^ 32) := by
  have hle : Message.headerSize - 4 + 4 ≤ (frameBytes t body).length := by
    rw [length_frameBytes]
    exact Nat.le_add_right _ _
  have h := Message.payloadSize_frameBytes false t body
  unfold Message.payloadSize at h
  rw [if_neg (by
    rw [Bool.not_eq_true, List.isEmpty_eq_false_iff]
    exact headerBytes_ne_nil t body.length body)] at h
  unfold payloadSize
  rw [read_of_le hle]
  exact congrArg Except.ok h

/-- Where the payload of a frame ends for a class: behind the declared payload, whatever the
    size of the class. -/
theorem payloadEnd_frame (size : Nat) (t : MessageType) (body : Bytes) :
    payloadEnd size (frameBytes t body) = .ok (beginOffset + body.length % 2 ^ 32) := by
  unfold payloadEnd
  rw [payloadSize_frame]
  refine congrArg Except.ok ?_
  show beginOffset + size + body.length % 2 ^ 32 - size = _
  omega

/-- `to_vector` of a frame whose body starts with the header of the class. -/
theorem toVector_frame {size : Nat} {t : MessageType} {header payload : Bytes}
    (hsize : header.length = size) (hsmall : size < 2 ^ 32) :
    toVector size (frameBytes t (header ++ payload)) = .ok payload ↔
      size + payload.length < 2 ^ 32 := by
  have hlen : (header ++ payload).length = size + payload.length := by
    rw [List.length_append, hsize]
  unfold toVector
  rw [payloadEnd_frame, hlen]
  constructor
  · intro h
    by_contra hbig
    have hmod : (size + payload.length) % 2 ^ 32 < size + payload.length :=
      Nat.lt_of_lt_of_le (Nat.mod_lt _ (by decide)) (Nat.not_lt.mp hbig)
    refine range_ne ?_ h
    unfold payloadBegin endOffset
    omega
  · intro hlt
    rw [Nat.mod_eq_of_lt hlt]
    have hsplit : frameBytes t (header ++ payload) =
        (headerBytes t (header ++ payload).length ++ header) ++ payload ++ [] := by
      rw [List.append_nil, frameBytes, List.append_assoc]
    rw [hsplit]
    refine range_append ?_ ?_
    · rw [List.length_append, length_headerBytes, hsize]
      rfl
    · rw [List.length_append, length_headerBytes, hsize, Nat.add_assoc]
      rfl

/-- The payload range of a class is a range of the frame where the frame has the header of the
    class, and is reversed where it does not. -/
theorem succeeds_toVector {size : Nat} {t : MessageType} {body : Bytes}
    (hlt : body.length < 2 ^ 32) :
    Succeeds (toVector size (frameBytes t body)) ↔ size ≤ body.length := by
  have hrange : toVector size (frameBytes t body) =
      range (frameBytes t body) (payloadBegin size) (beginOffset + body.length) := by
    unfold toVector
    rw [payloadEnd_frame, Nat.mod_eq_of_lt hlt]
    rfl
  rw [hrange, succeeds_range, length_frameBytes]
  show beginOffset + size ≤ beginOffset + body.length ∧
    beginOffset + body.length ≤ beginOffset + body.length ↔ size ≤ body.length
  omega

theorem succeeds_toString {size : Nat} {t : MessageType} {body : Bytes}
    (hlt : body.length < 2 ^ 32) :
    Succeeds (MessageBase.toString size (frameBytes t body)) ↔ size ≤ body.length :=
  succeeds_toVector hlt

end Navtech.Network
