/-
  `NetworkDataHeader` and `NetworkDataMessage` of `cpp/cndpnetworkdatamessage.h`, the header
  and the message of the first C++ SDK.

  The header is a packed struct. Its length member holds the length in network order; the
  other members are bytes. `ToData` of a new header with a type and a length are the header bytes
  of the second SDK (`toData_init`), and the copy of these over a header, `ofMemory`, gives the
  type and the length again (`ofMemory_headerBytes`).

  `isValid_iff_headerIsValid` says when the class `Message` of the second SDK accepts the same
  bytes: the two differ in the limit for the payload length, and in nothing else.
-/
import Navtech.Network.Frame

namespace Navtech.Legacy

open ByteOrder Buffer PackedRecord Navtech.Utility
open Navtech.Network (Bytes Message frameBytes headerBytes)

/-- The largest payload that a header may announce: 1 MiB. -/
def maxPayloadSize : Nat := 1048576
def ndmSignatureLength : Nat := 16
def ndmHeaderLength : Nat := ndmSignatureLength + 1 + 1 + 4
def ndmProtocolMinVersion : UInt8 := 1
def ndmProtocolVersion : UInt8 := 1

/-- The bytes that every message begins with. -/
def ndmSignatureBytes : Bytes :=
  [0x00, 0x01, 0x03, 0x03, 0x07, 0x07, 0x0f, 0x0f, 0x1f, 0x1f, 0x3f, 0x3f, 0x7f, 0x7f, 0xfe, 0xfe]

/-- An enumeration over `uint8_t`, so every byte is a value of it. -/
abbrev CNDPNetworkDataMessageType := UInt8

namespace CNDPNetworkDataMessageType

def invalid : CNDPNetworkDataMessageType := 0
def startFFTData : CNDPNetworkDataMessageType := 21
def stopFFTData : CNDPNetworkDataMessageType := 22
def contourUpdate : CNDPNetworkDataMessageType := 50
def startNavData : CNDPNetworkDataMessageType := 120
def stopNavData : CNDPNetworkDataMessageType := 121
def setNavThreshold : CNDPNetworkDataMessageType := 122
def setNavRangeOffsetAndGain : CNDPNetworkDataMessageType := 124

end CNDPNetworkDataMessageType

/-- The packed header: `payloadsize` is as it lies in memory, the rest is bytes. -/
structure NetworkDataHeader where
  signature : Bytes
  version : UInt8
  messageid : UInt8
  payloadsize : UInt32
deriving DecidableEq, Repr

namespace NetworkDataHeader

/-- `Init()`, which sets every member. -/
def init : NetworkDataHeader :=
  ⟨ndmSignatureBytes, ndmProtocolVersion, CNDPNetworkDataMessageType.invalid, 0⟩

/-- `SetMessageId`: the type is one byte, and stored as it is. -/
def setMessageId (h : NetworkDataHeader) (messageType : CNDPNetworkDataMessageType) :
    NetworkDataHeader := { h with messageid := messageType }

/-- `SetPayloadLength` stores the length in network order. -/
def setPayloadLength (h : NetworkDataHeader) (length : UInt32) : NetworkDataHeader :=
  { h with payloadsize := htonl length }

/-- `PayloadLength` reads it from network order. -/
def payloadLength (h : NetworkDataHeader) : UInt32 := ntohl h.payloadsize

/-- `HeaderIsValid`: signature, version and length are tested, the type is not. -/
def headerIsValid (h : NetworkDataHeader) : Bool :=
  h.signature == ndmSignatureBytes &&
    decide (ndmProtocolMinVersion ≤ h.version ∧ h.version ≤ ndmProtocolVersion) &&
    decide (h.payloadLength.toNat ≤ maxPayloadSize)

/-- `ToData`: the members in the order in which they lie in memory. -/
def toData (h : NetworkDataHeader) : Bytes :=
  h.signature ++ [h.version, h.messageid] ++ leBytes 4 h.payloadsize.toNat

/-- `memcpy` of 22 bytes over a header. -/
def ofMemory (data : Bytes) : NetworkDataHeader where
  signature := slice data 0 ndmSignatureLength
  version := data.getD 16 0
  messageid := data.getD 17 0
  payloadsize := UInt32.ofNat (load 4 data 18)

end NetworkDataHeader

/-- A header with the payload behind it. -/
structure NetworkDataMessage where
  header : NetworkDataHeader
  payload : Bytes
deriving DecidableEq, Repr

/-- `MessageData()`. -/
def NetworkDataMessage.messageData (m : NetworkDataMessage) : Bytes :=
  if m.payload.length > 0 then m.header.toData ++ m.payload else m.header.toData

/-! ## Bytes -/

theorem messageData_eq (m : NetworkDataMessage) : m.messageData = m.header.toData ++ m.payload := by
  unfold NetworkDataMessage.messageData
  split
  · rfl
  · have hnil : m.payload = [] := List.length_eq_zero_iff.mp (Nat.eq_zero_of_not_pos ‹_›)
    rw [hnil, List.append_nil]

/-- The header of a command, in bytes. -/
theorem toData_init (messageType : CNDPNetworkDataMessageType) (length : UInt32) :
    ((NetworkDataHeader.init.setMessageId messageType).setPayloadLength length).toData =
      headerBytes messageType length.toNat := by
  have hbytes : leBytes 4 (htonl length).toNat = beBytes 4 length.toNat := by
    rw [toNat_htonl, leBytes_byteSwap]
  show ndmSignatureBytes ++ [ndmProtocolVersion, messageType] ++ leBytes 4 (htonl length).toNat = _
  rw [hbytes]
  rfl

theorem toData_init_zero (messageType : CNDPNetworkDataMessageType) :
    (NetworkDataHeader.init.setMessageId messageType).toData = headerBytes messageType 0 := by
  show ndmSignatureBytes ++ [ndmProtocolVersion, messageType] ++ leBytes 4 0 = _
  rw [headerBytes, leBytes_zero, beBytes_zero]
  rfl

/-- A header in memory, by its members. -/
theorem ofMemory_headerBytes (messageType : CNDPNetworkDataMessageType) {n : Nat} (hn : n < 2 ^ 32)
    (rest : Bytes) :
    NetworkDataHeader.ofMemory (headerBytes messageType n ++ rest) =
      (NetworkDataHeader.init.setMessageId messageType).setPayloadLength (UInt32.ofNat n) := by
  have hslice := Network.slice_length_headerBytes messageType n rest
  have hv : (UInt32.ofNat n).toNat = n := UInt32.toNat_ofNat_of_lt hn
  have hsize : UInt32.ofNat (load 4 (headerBytes messageType n ++ rest) 18) =
      htonl (UInt32.ofNat n) := by
    rw [load, hslice, htonl, hv, byteSwap]
  show NetworkDataHeader.mk _ _ _ _ = NetworkDataHeader.mk _ _ _ _
  rw [hsize]
  rfl

/-! ## Acceptance -/

/-- `version` is in a range of one version. -/
theorem version_range (v : UInt8) :
    (ndmProtocolMinVersion ≤ v ∧ v ≤ ndmProtocolVersion) ↔ v = Network.version := by
  rw [UInt8.le_iff_toNat_le, UInt8.le_iff_toNat_le, ← UInt8.toNat_inj]
  show (1 ≤ v.toNat ∧ v.toNat ≤ 1) ↔ v.toNat = 1
  omega

/-- What the second SDK accepts, the first one accepts too, and its payload is shorter. -/
theorem isValid_iff_headerIsValid (p : Bool) {data : Bytes} (hne : data ≠ []) :
    (⟨p, data⟩ : Message).isValid = true ↔
      (NetworkDataHeader.ofMemory data).headerIsValid = true ∧
        (NetworkDataHeader.ofMemory data).payloadLength.toNat < Network.largestPayload := by
  have hempty : data.isEmpty = false := by
    rw [List.isEmpty_eq_false_iff]
    exact hne
  have hsize : (⟨p, data⟩ : Message).payloadSize =
      (NetworkDataHeader.ofMemory data).payloadLength.toNat := by
    simp only [Message.payloadSize, hempty, Bool.false_eq_true, if_false]
    rfl
  have htype : (⟨p, data⟩ : Message).type.toNat ≤ Network.largestValidMessage :=
    Nat.le_of_lt_succ (UInt8.toNat_lt _)
  have hsignature : (NetworkDataHeader.ofMemory data).signature = slice data 0 16 := rfl
  have hversion : (NetworkDataHeader.ofMemory data).version = data.getD 16 0 := rfl
  have hword : ndmSignatureBytes = Network.validSignature := rfl
  have hlimit : Network.largestPayload = 1000000 := rfl
  have hmax : maxPayloadSize = 1048576 := rfl
  simp only [Message.isValid, hempty, hsize, htype, Message.isSignatureValid,
    Message.isVersionValid, NetworkDataHeader.headerIsValid, hsignature, hversion, hword,
    version_range, Bool.false_eq_true, if_false, Bool.and_eq_true, beq_iff_eq, decide_eq_true_eq,
    and_true]
  constructor
  · intro h
    obtain ⟨⟨hs, hv⟩, hlt⟩ := h
    exact ⟨⟨⟨hs, hv⟩, by omega⟩, hlt⟩
  · intro h
    obtain ⟨⟨⟨hs, hv⟩, -⟩, hlt⟩ := h
    exact ⟨⟨hs, hv⟩, hlt⟩

end Navtech.Legacy
