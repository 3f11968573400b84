/-
  The class `Message` of `cpp_17/network/colossus_network_message.{h,cpp}`: one byte vector
  that holds the TCP message header and everything after it, and a flag that says whether a
  payload buffer has been appended.

  The TCP message header is 22 bytes: the 16-byte signature, the version, the type, and the
  payload length as a big-endian 32-bit integer. `Header::overlay_onto` makes each accessor a
  read or a write at a fixed place of the vector; the definitions below keep the places and
  the host accesses (`load`, `store`). An accessor is meant for a vector that reaches as far
  as the place it touches, which every vector of at least `headerSize` bytes does.

  The members `address` and `identity` are carried by no function modelled here and are left
  out. `std::string` payloads are byte lists.

  `frameBytes t body` is the well-formed message of type `t` with the bytes `body` after the
  TCP header. Its lemmas say what each operation does to a well-formed message: later modules
  use these and never open the vector again.
-/
import Navtech.Lib.Marker
import Navtech.Lib.PackedRecord
import Navtech.Utility.NetConversion

namespace Navtech.Network

open ByteOrder Buffer PackedRecord Navtech.Utility

/-- A `std::vector<uint8_t>`, or a part of one. -/
abbrev Bytes := List UInt8

/-! ## Constants and signature -/

/-- A type is one byte, so this bound never fails. -/
def largestValidMessage : Nat := 255

/-- `is_valid` demands a payload below this. -/
def largestPayload : Nat := 1000000

/-- The one version that is accepted. -/
def version : UInt8 := 1

/-- The sixteen bytes of `Signature::signature`; the leading zero occurs once. -/
def Signature.marker : Marker UInt8 where
  head := 0x00
  tail := [0x01, 0x03, 0x03, 0x07, 0x07, 0x0F, 0x0F,
    0x1F, 0x1F, 0x3F, 0x3F, 0x7F, 0x7F, 0xFE, 0xFE]
  fresh := by decide

/-- `Message::valid_signature()`. -/
def validSignature : Bytes := Signature.marker.word

/-- `operator==(const Signature&, const std::vector<std::uint8_t>&)`: the vector is compared
    with as many bytes of the signature as the vector holds. -/
def Signature.equals (rhs : Bytes) : Bool := rhs == validSignature.take rhs.length

@[simp] theorem length_validSignature : validSignature.length = 16 := rfl

/-! ## The message -/

/-- `Message`: its bytes, and whether a protocol buffer has been appended. -/
structure Message where
  hasProtobuf : Bool
  data : Bytes
deriving DecidableEq, Repr

/-- `Message::Type`: an enumeration over `std::uint8_t`, so every byte is a value of it. -/
abbrev MessageType := UInt8

namespace Message

/-- `header_size()`: the size of the packed `Header`. -/
def headerSize : Nat := 22

/-- `type()`, the byte behind the version. -/
def type (m : Message) : MessageType := m.data.getD 17 0

/-- `type(Type)` overwrites that byte. -/
def setType (m : Message) (t : MessageType) : Message := { m with data := m.data.set 17 t }

/-- `size()`, header and payload together. -/
def size (m : Message) : Nat := m.data.length

/-- `payload_size()` reads the length field, and 0 of a message without bytes. -/
def payloadSize (m : Message) : Nat :=
  if m.data.isEmpty then 0 else (ntohl (UInt32.ofNat (load 4 m.data 18))).toNat

/-- `update_payload_size` stores what there is behind the header, in network order. -/
def updatePayloadSize (m : Message) : Message :=
  { m with data := store 4 m.data 18 (htonl (UInt32.ofNat (m.data.length - headerSize))).toNat }

/-- `add_signature` writes the signature over the first bytes. -/
def addSignature (m : Message) : Message := { m with data := copyTo m.data 0 validSignature }

/-- `add_version` writes the byte behind the signature. -/
def addVersion (m : Message) (version : UInt8) : Message :=
  { m with data := m.data.set 16 version }

/-- `is_signature_valid` compares all sixteen bytes. -/
def isSignatureValid (m : Message) : Bool := slice m.data 0 16 == validSignature

/-- `is_version_valid` compares one byte. -/
def isVersionValid (m : Message) : Bool := m.data.getD 16 0 == version

/-- `is_valid`: four tests, of which the one for the type cannot fail. -/
def isValid (m : Message) : Bool :=
  if m.data.isEmpty then false
  else m.isSignatureValid && m.isVersionValid && decide (m.type.toNat ≤ largestValidMessage) &&
    decide (m.payloadSize < largestPayload)

/-- `Message()`, that is, `initialize()` on an empty vector. -/
def default : Message :=
  ((⟨false, resize [] headerSize 0⟩ : Message).addSignature).addVersion version

/-- `Message(Buffer&&)` and `Message(const Buffer&)`. -/
def ofBuffer (message : Bytes) : Message := ⟨false, message⟩

/-- `replace`: the flag keeps its value. -/
def replace (m : Message) (src : Bytes) : Message := { m with data := src }

/-- `relinquish()`: the bytes handed out. The message itself is left moved-from. -/
def relinquish (m : Message) : Bytes := m.addSignature.data

/-- The body that the four payload overloads of `append` share. -/
def appendBytes (m : Message) (bytes : Bytes) : Message :=
  { ({ m with data := m.data ++ bytes }).updatePayloadSize with hasProtobuf := true }

/-- `append(const Buffer&)`. -/
def append (m : Message) (protocolBuffer : Bytes) : Message := m.appendBytes protocolBuffer

/-- `append(Buffer&&)`: the argument is moved into a local first. -/
def appendMove (m : Message) (protocolBuffer : Bytes) : Message :=
  let temp := protocolBuffer
  m.appendBytes temp

/-- `append(const std::string&)`. -/
def appendString (m : Message) (protocolBuffer : Bytes) : Message := m.appendBytes protocolBuffer

/-- `append(std::string&&)`. -/
def appendStringMove (m : Message) (protocolBuffer : Bytes) : Message :=
  let temp := protocolBuffer
  m.appendBytes temp

/-- `operator<<(const Buffer&)`. -/
def insert (m : Message) (protocolBuffer : Bytes) : Message := m.append protocolBuffer

/-- `operator<<(Buffer&&)`. -/
def insertMove (m : Message) (protocolBuffer : Bytes) : Message := m.appendMove protocolBuffer

/-- `operator<<(const std::string&)`. -/
def insertString (m : Message) (protocolBuffer : Bytes) : Message :=
  m.appendString protocolBuffer

/-- `operator<<(std::string&&)`. -/
def insertStringMove (m : Message) (protocolBuffer : Bytes) : Message :=
  m.appendStringMove protocolBuffer

/-- `append<Message_Ty>`: `header` is the range from `header.begin()` to `header.end()`, so
    its length is `header.header_size()`. The length field still counts the old payload when
    the payload is moved. -/
def appendHeader (m : Message) (header : Bytes) : Message :=
  let grown := resize m.data (m.size + header.length) 0
  let shifted :=
    if m.hasProtobuf then
      copyBackward grown headerSize ({ m with data := grown }).payloadSize grown.length
    else grown
  ({ m with data := copyTo shifted headerSize header }).updatePayloadSize

/-- `operator<< <Message_Ty>`. -/
def insertHeader (m : Message) (header : Bytes) : Message := m.appendHeader header

end Message

/-! ## Well-formed messages -/

/-- The TCP message header of type `t` with the length field `n`. -/
def headerBytes (t : MessageType) (n : Nat) : Bytes :=
  validSignature ++ [version, t] ++ beBytes 4 n

/-- The message of type `t` with the bytes `body` after the TCP message header. -/
def frameBytes (t : MessageType) (body : Bytes) : Bytes := headerBytes t body.length ++ body

@[simp] theorem length_headerBytes (t : MessageType) (n : Nat) :
    (headerBytes t n).length = Message.headerSize := by
  simp [headerBytes, Message.headerSize]

@[simp] theorem length_frameBytes (t : MessageType) (body : Bytes) :
    (frameBytes t body).length = Message.headerSize + body.length := by
  rw [frameBytes, List.length_append, length_headerBytes]

@[simp] theorem drop_frameBytes (t : MessageType) (body : Bytes) :
    (frameBytes t body).drop Message.headerSize = body :=
  List.drop_left' (length_headerBytes t body.length)

theorem headerBytes_ne_nil (t : MessageType) (n : Nat) (rest : Bytes) :
    headerBytes t n ++ rest ≠ [] := by
  intro h
  have hl := congrArg List.length h
  simp [Message.headerSize] at hl

theorem slice_length_headerBytes (t : MessageType) (n : Nat) (rest : Bytes) :
    slice (headerBytes t n ++ rest) 18 4 = beBytes 4 n := by
  rw [headerBytes]
  exact slice_append (by simp) (length_beBytes 4 n)

namespace Message

variable (p : Bool) (t : MessageType)

@[simp] theorem addSignature_headerBytes (n : Nat) (rest : Bytes) :
    addSignature ⟨p, headerBytes t n ++ rest⟩ = ⟨p, headerBytes t n ++ rest⟩ := by
  rw [addSignature, headerBytes, List.append_assoc, List.append_assoc]
  rw [copyTo_zero_append rfl]

section Start

variable {start : Bytes} (hstart : start.length = 18)

include hstart

/-- The length field is the declared length modulo its width, whatever stands before it. -/
theorem payloadSize_start (n : Nat) (rest : Bytes) :
    payloadSize ⟨p, start ++ beBytes 4 n ++ rest⟩ = n % 2 ^ 32 := by
  have hne : (start ++ beBytes 4 n ++ rest).isEmpty = false := by
    rw [List.isEmpty_eq_false_iff]
    exact List.ne_nil_of_length_pos (by simp)
  have hslice : slice (start ++ beBytes 4 n ++ rest) 18 4 = beBytes 4 n :=
    slice_append hstart (length_beBytes 4 n)
  have hload : (UInt32.ofNat (byteSwap 4 n)).toNat = byteSwap 4 n :=
    UInt32.toNat_ofNat_of_lt (byteSwap_lt 4 n)
  rw [payloadSize]
  simp only [hne, Bool.false_eq_true, if_false, toNat_ntohl, load, hslice]
  rw [← byteSwap, hload, byteSwap_byteSwap]
  rfl

/-- `update_payload_size` makes the length field count what follows it. -/
theorem updatePayloadSize_start (n : Nat) (rest : Bytes) :
    updatePayloadSize ⟨p, start ++ beBytes 4 n ++ rest⟩ =
      ⟨p, start ++ beBytes 4 rest.length ++ rest⟩ := by
  have hsub : (start ++ beBytes 4 n ++ rest).length - headerSize = rest.length := by
    simp only [List.length_append, length_beBytes, hstart, headerSize]
    omega
  have hbe : beBytes 4 (rest.length % 2 ^ 32) = beBytes 4 rest.length := by
    have h := congrArg (beBytes 4) (byteSwap_byteSwap 4 rest.length)
    rw [beBytes_byteSwap, leBytes_byteSwap] at h
    exact h.symm
  have hstore : store 4 (start ++ beBytes 4 n ++ rest) 18 (byteSwap 4 (rest.length % 2 ^ 32)) =
      start ++ beBytes 4 rest.length ++ rest := by
    rw [store, leBytes_byteSwap, hbe]
    exact copyTo_append hstart (by simp)
  rw [updatePayloadSize]
  simp only [hsub, toNat_htonl, UInt32.toNat_ofNat', hstore]

/-- Under the flag, a typed header goes before the payload that is already there. -/
theorem appendHeader_start (body header : Bytes) (hlt : body.length < 2 ^ 32) :
    appendHeader ⟨true, start ++ beBytes 4 body.length ++ body⟩ header =
      ⟨true, start ++ beBytes 4 (header ++ body).length ++ (header ++ body)⟩ := by
  have hlen : (start ++ beBytes 4 body.length).length = headerSize := by simp [hstart, headerSize]
  generalize hfront : start ++ beBytes 4 body.length = front at hlen
  have hgrown : resize (front ++ body) (size ⟨true, front ++ body⟩ + header.length) 0 =
      front ++ (body ++ List.replicate header.length 0) := by
    rw [size, resize_grow, List.append_assoc]
  have hsize : payloadSize ⟨true, front ++ (body ++ List.replicate header.length 0)⟩ =
      body.length := by
    rw [← hfront, payloadSize_start _ hstart, Nat.mod_eq_of_lt hlt]
  have hmove : copyBackward (front ++ (body ++ List.replicate header.length (0 : UInt8)))
        headerSize body.length
        (front ++ (body ++ List.replicate header.length (0 : UInt8))).length =
      front ++ (body ++ List.replicate header.length 0).take header.length ++ body := by
    have h := copyBackward_eq front body (List.replicate header.length (0 : UInt8)) []
    simpa [hlen, Nat.add_assoc] using h
  have hcopy : copyTo (front ++
        (body ++ List.replicate header.length (0 : UInt8)).take header.length ++ body)
        headerSize header = front ++ header ++ body :=
    copyTo_append hlen (by simp)
  rw [appendHeader]
  simp only [hgrown, if_true, hsize, hmove]
  rw [hcopy, List.append_assoc, ← hfront, updatePayloadSize_start _ hstart]

/-- Without the flag it replaces as much of what is there, and the message grows at its end. -/
theorem appendHeader_start_over (body header : Bytes) :
    appendHeader ⟨false, start ++ beBytes 4 body.length ++ body⟩ header =
      ⟨false, start ++ beBytes 4 (header.length + body.length) ++
        (header ++ (body ++ List.replicate header.length 0).drop header.length)⟩ := by
  have hlen : (start ++ beBytes 4 body.length).length = headerSize := by simp [hstart, headerSize]
  generalize hfront : start ++ beBytes 4 body.length = front at hlen
  have hgrown : resize (front ++ body) (size ⟨false, front ++ body⟩ + header.length) 0 =
      front ++ (body ++ List.replicate header.length 0) := by
    rw [size, resize_grow, List.append_assoc]
  have hcopy : copyTo (front ++ (body ++ List.replicate header.length (0 : UInt8))) headerSize
        header =
      front ++ (header ++ (body ++ List.replicate header.length 0).drop header.length) := by
    have hsplit := List.take_append_drop header.length (body ++ List.replicate header.length 0)
    have h := copyTo_append (c := (body ++ List.replicate header.length (0 : UInt8)).drop
      header.length) hlen (show ((body ++ List.replicate header.length (0 : UInt8)).take
        header.length).length = header.length by simp)
    rwa [List.append_assoc, hsplit, List.append_assoc] at h
  have hcount : (header ++ (body ++ List.replicate header.length (0 : UInt8)).drop
      header.length).length = header.length + body.length := by simp
  rw [appendHeader]
  simp only [hgrown, Bool.false_eq_true, if_false, hcopy]
  rw [← hfront, updatePayloadSize_start _ hstart, hcount]

end Start

/-- The length field is the declared length modulo its width. -/
theorem payloadSize_headerBytes (n : Nat) (rest : Bytes) :
    payloadSize ⟨p, headerBytes t n ++ rest⟩ = n % 2 ^ 32 :=
  payloadSize_start p (by simp) n rest

/-- `update_payload_size` makes the length field count what follows the header. -/
theorem updatePayloadSize_headerBytes (n : Nat) (rest : Bytes) :
    updatePayloadSize ⟨p, headerBytes t n ++ rest⟩ = ⟨p, frameBytes t rest⟩ :=
  updatePayloadSize_start p (by simp) n rest

theorem default_eq : default = ⟨false, frameBytes 0 []⟩ := by decide

@[simp] theorem setType_frameBytes (t' : MessageType) (body : Bytes) :
    setType ⟨p, frameBytes t body⟩ t' = ⟨p, frameBytes t' body⟩ := rfl

theorem payloadSize_frameBytes (body : Bytes) :
    payloadSize ⟨p, frameBytes t body⟩ = body.length % 2 ^ 32 :=
  payloadSize_headerBytes p t body.length body

@[simp] theorem relinquish_frameBytes (body : Bytes) :
    relinquish ⟨p, frameBytes t body⟩ = frameBytes t body := by
  rw [relinquish, frameBytes, addSignature_headerBytes]

/-- Appending a payload buffer to a received header or to a message under construction. -/
theorem appendBytes_headerBytes (n : Nat) (rest bytes : Bytes) :
    appendBytes ⟨p, headerBytes t n ++ rest⟩ bytes = ⟨true, frameBytes t (rest ++ bytes)⟩ := by
  rw [appendBytes]
  simp only [List.append_assoc, updatePayloadSize_headerBytes]

theorem appendBytes_frameBytes (body bytes : Bytes) :
    appendBytes ⟨p, frameBytes t body⟩ bytes = ⟨true, frameBytes t (body ++ bytes)⟩ :=
  appendBytes_headerBytes p t body.length body bytes

/-- A typed header goes before the payload that is already there. -/
theorem appendHeader_of_payload (body header : Bytes) (hlt : body.length < 2 ^ 32) :
    appendHeader ⟨true, frameBytes t body⟩ header = ⟨true, frameBytes t (header ++ body)⟩ :=
  appendHeader_start (by simp) body header hlt

/-- A typed header appended to a message without a payload. -/
theorem appendHeader_of_empty (header : Bytes) :
    appendHeader ⟨false, frameBytes t []⟩ header = ⟨false, frameBytes t header⟩ := by
  have hstart : (validSignature ++ [version, t]).length = 18 := by simp
  have h := appendHeader_start_over hstart [] header
  simpa [frameBytes, headerBytes] using h

end Message

end Navtech.Network
