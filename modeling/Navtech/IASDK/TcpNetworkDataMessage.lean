/-
  `TcpNetworkDataMessage` of `csharp/IASDK/Networking/TcpNetworkDataMessage.cs`.

  A message is put together from a type and a payload, or taken from bytes: from a complete
  message, or from a header alone, whose payload is then all zero and as long as the header
  says. `Data` is the message in bytes. A `Payload` that is `null` is `none`.

  A header is `block signature version type size`, whatever its sixteen signature bytes are
  (`exists_block`); what the constructor makes of one is `ofBytes_block`. `Data` is the header with
  the protocol's signature and the message's own version, type and size, and the payload
  (`data_eq_block`).
-/
import Navtech.IASDK.Utility
import Navtech.Network.Message

namespace Navtech.IASDK

open ByteOrder ManagedArray
open Navtech.Network (Bytes)

/-- An enumeration over `byte`, so every byte is a value of it. -/
abbrev TcpNetworkDataMessageType := UInt8

namespace TcpNetworkDataMessageType

def configuration : TcpNetworkDataMessageType := 10
def startFftData : TcpNetworkDataMessageType := 21
def stopFftData : TcpNetworkDataMessageType := 22
def fftData : TcpNetworkDataMessageType := 30
def contourUpdate : TcpNetworkDataMessageType := 50
def startNavData : TcpNetworkDataMessageType := 120
def stopNavData : TcpNetworkDataMessageType := 121
def setNavThreshold : TcpNetworkDataMessageType := 122
def navigationData : TcpNetworkDataMessageType := 123
def setNavRangeOffsetAndGain : TcpNetworkDataMessageType := 124

end TcpNetworkDataMessageType

/-- The members. The size is signed here, and the payload may be `null`. -/
structure TcpNetworkDataMessage where
  signature : Bytes
  version : UInt8
  messageType : TcpNetworkDataMessageType
  payloadSize : Int32
  payload : Option Bytes
deriving DecidableEq, Repr

namespace TcpNetworkDataMessage

def signatureLength : Nat := 16
def versionLength : Nat := 1
def messageTypeLength : Nat := 1
def payloadLength : Nat := 4
def protocolVersion : UInt8 := 1

/-- The static `Signature`. -/
def validSignature : Bytes :=
  [0x00, 0x01, 0x03, 0x03, 0x07, 0x07, 0x0f, 0x0f, 0x1f, 0x1f, 0x3f, 0x3f, 0x7f, 0x7f, 0xfe, 0xfe]

/-- The header is as long as that of the C++ SDKs. -/
def headerLength : Nat := signatureLength + versionLength + messageTypeLength + payloadLength

/-! ## Constructors -/

/-- `TcpNetworkDataMessage()`: all members have the defaults of their types. -/
def new : TcpNetworkDataMessage where
  signature := List.replicate signatureLength 0
  version := 0
  messageType := 0
  payloadSize := 0
  payload := none

/-- `TcpNetworkDataMessage(messageType)`. -/
def ofType (messageType : TcpNetworkDataMessageType) : TcpNetworkDataMessage where
  signature := List.replicate signatureLength 0
  version := protocolVersion
  messageType := messageType
  payloadSize := 0
  payload := none

/-- `TcpNetworkDataMessage(messageType, payload)`. -/
def ofPayload (messageType : TcpNetworkDataMessageType) (payload : Bytes) :
    TcpNetworkDataMessage where
  signature := List.replicate signatureLength 0
  version := protocolVersion
  messageType := messageType
  payloadSize := Int32.ofNat payload.length
  payload := some payload

/-- `TcpNetworkDataMessage(data)`. -/
def ofBytes (ρ : Runtime) (data : Bytes) : Except Exception TcpNetworkDataMessage := do
  let signature ← blockCopy data 0 (List.replicate signatureLength 0) 0 signatureLength
  let index := signatureLength
  let version ← slice ρ data index (index + versionLength : Nat)
  let index := index + versionLength
  let messageType ← slice ρ data index (index + messageTypeLength : Nat)
  let index := index + messageTypeLength
  let size ← slice ρ data index (index + payloadLength : Nat)
  let payloadSize := swapInt32 (toInt32 size)
  let index := index + payloadLength
  let zeros ← newArray ρ payloadSize.toInt
  let payload ← (if Int32.ofNat data.length = Int32.ofNat headerLength + payloadSize then do
      let rest ← slice ρ data index (Int32.ofNat index + payloadSize).toInt
      blockCopy rest 0 zeros 0 payloadSize.toInt
    else .ok zeros)
  return {
    signature := signature
    version := version.headD 0
    messageType := messageType.headD 0
    payloadSize := payloadSize
    payload := some payload }

/-! ## Properties -/

/-- `Valid` looks at the signature alone. -/
def valid (m : TcpNetworkDataMessage) : Bool := m.signature == validSignature

/-- `TotalLength`, a sum that may wrap. -/
def totalLength (m : TcpNetworkDataMessage) : Int32 := Int32.ofNat headerLength + m.payloadSize

/-- The header is put into a new array by copies, each checked by the runtime. -/
def headerBytes (ρ : Runtime) (m : TcpNetworkDataMessage) : Except Exception Bytes := do
  let buffer ← newArray ρ headerLength
  let payloadLengthBytes := getBytes (swapInt32 m.payloadSize)
  let buffer ← blockCopy validSignature 0 buffer 0 signatureLength
  let buffer := buffer.set signatureLength m.version
  let buffer := buffer.set (signatureLength + versionLength) m.messageType
  blockCopy payloadLengthBytes 0 buffer
    (signatureLength + versionLength + messageTypeLength : Nat) payloadLength

/-- `Data`. -/
def data (ρ : Runtime) (m : TcpNetworkDataMessage) : Except Exception Bytes := do
  let buffer ← newArray ρ m.totalLength.toInt
  let buffer ← blockCopy (← m.headerBytes ρ) 0 buffer 0 headerLength
  match m.payload with
  | some payload =>
    blockCopy payload 0 buffer headerLength (m.totalLength - Int32.ofNat headerLength).toInt
  | none => return buffer

/-- The payload in bytes; there are none where `Payload` is `null`. -/
def body (m : TcpNetworkDataMessage) : Bytes := m.payload.getD []

/-- The message that is received for a type and a payload. -/
def received (messageType : TcpNetworkDataMessageType) (payload : Bytes) :
    TcpNetworkDataMessage where
  signature := validSignature
  version := protocolVersion
  messageType := messageType
  payloadSize := Int32.ofNat payload.length
  payload := some payload

/-! ## Headers -/

/-- Any 22 bytes, by the places a header has. -/
def block (signature : Bytes) (version : UInt8) (messageType : TcpNetworkDataMessageType)
    (size : UInt32) : Bytes :=
  signature ++ [version, messageType] ++ beBytes 4 size.toNat

section Block

variable {ρ : Runtime} {signature : Bytes} (version : UInt8)
  (messageType : TcpNetworkDataMessageType) (size : UInt32)

theorem length_block (h : signature.length = signatureLength) :
    (block signature version messageType size).length = headerLength := by
  simp [block, h, headerLength, signatureLength, versionLength, messageTypeLength, payloadLength]

theorem exists_block {data : Bytes} (h : data.length = headerLength) :
    ∃ signature version messageType size, signature.length = signatureLength ∧
      data = block signature version messageType size := by
  have hsplit := List.take_append_drop 16 data
  have hdrop : (data.drop 16).length = 6 := by
    rw [List.length_drop, h]
    rfl
  obtain ⟨v, l, hv⟩ := List.exists_cons_of_length_eq_add_one hdrop
  have hl : l.length = 5 := by simpa [hv] using hdrop
  obtain ⟨t, rest, rfl⟩ := List.exists_cons_of_length_eq_add_one hl
  obtain ⟨w, rfl⟩ := Navtech.Utility.exists_uint32_of_length (l := rest) (by simpa using hl)
  refine ⟨data.take 16, v, t, w, by rw [List.length_take, h]; rfl, ?_⟩
  rw [block, List.append_assoc]
  exact hsplit.symm.trans (congrArg _ hv)

/-- A header is taken apart; the payload is as many zeros as its size says, where there can be
    an array of that length. -/
theorem ofBytes_block (h : signature.length = signatureLength) :
    ofBytes ρ (block signature version messageType size) =
      (newArray ρ size.toInt32.toInt).map fun zeros => {
        signature := signature
        version := version
        messageType := messageType
        payloadSize := size.toInt32
        payload := some zeros } := by
  have hroom : ∀ n, n ≤ 16 → n ≤ ρ.maxLength := fun n hn => by
    have := ρ.le_maxLength
    omega
  have hlen := length_block version messageType size h
  have hsig : blockCopy (block signature version messageType size) 0
      (List.replicate signatureLength 0) 0 signatureLength = .ok signature := by
    have hcopy := blockCopy_append (a := []) (b := signature) (c := [version, messageType] ++
      beBytes 4 size.toNat) (d := []) (e := List.replicate signatureLength 0) (f := [])
      (i := 0) (j := 0) (n := signatureLength) rfl (by rw [h]) rfl (by simp [h])
    simpa [block] using hcopy
  have hversion : slice ρ (block signature version messageType size) signatureLength
      (signatureLength + versionLength : Nat) = .ok [version] := by
    have hs := slice_append (ρ := ρ) (a := signature) (b := [version])
      (c := messageType :: beBytes 4 size.toNat) (i := signatureLength)
      (j := (signatureLength + versionLength : Nat)) (by rw [h]) (by rw [h]; rfl)
      (hroom _ (by simp))
    simpa [block] using hs
  have htype : slice ρ (block signature version messageType size)
      (signatureLength + versionLength : Nat)
      (signatureLength + versionLength + messageTypeLength : Nat) = .ok [messageType] := by
    have hs := slice_append (ρ := ρ) (a := signature ++ [version]) (b := [messageType])
      (c := beBytes 4 size.toNat) (i := (signatureLength + versionLength : Nat))
      (j := (signatureLength + versionLength + messageTypeLength : Nat)) (by simp [h]; rfl)
      (by simp [h]; rfl) (hroom _ (by simp))
    simpa [block] using hs
  have hsize : slice ρ (block signature version messageType size)
      (signatureLength + versionLength + messageTypeLength : Nat)
      (signatureLength + versionLength + messageTypeLength + payloadLength : Nat) =
        .ok (beBytes 4 size.toNat) := by
    have hs := slice_append (ρ := ρ) (a := signature ++ [version, messageType])
      (b := beBytes 4 size.toNat) (c := [])
      (i := (signatureLength + versionLength + messageTypeLength : Nat))
      (j := (signatureLength + versionLength + messageTypeLength + payloadLength : Nat))
      (by simp [h]; rfl) (by simp [h]; rfl) (hroom _ (by simp))
    simpa [block] using hs
  simp only [ofBytes, hsig, hversion, htype, hsize, ok_bind, swapInt32_toInt32, hlen]
  cases hnew : newArray ρ size.toInt32.toInt with
  | error e => rfl
  | ok zeros =>
    split
    · -- the length says that the data is complete, so the payload is empty
      have hzero : size.toInt32 = 0 := by
        have hself : Int32.ofNat headerLength + 0 = Int32.ofNat headerLength + size.toInt32 := by
          rw [Int32.add_zero]
          assumption
        exact (Int32.add_right_inj _ |>.mp hself).symm
      have hnil : zeros = [] := by
        rw [hzero] at hnew
        exact (newArray_eq_ok.mp hnew).2.2
      subst hnil
      have hrest : slice ρ (block signature version messageType size)
          (signatureLength + versionLength + messageTypeLength + payloadLength : Nat)
          (Int32.ofNat (signatureLength + versionLength + messageTypeLength + payloadLength) +
            0).toInt = .ok [] := by
        have hend : (Int32.ofNat headerLength + 0).toInt = headerLength := by decide
        have hs := slice_append (ρ := ρ) (a := block signature version messageType size)
          (b := []) (c := []) (i := headerLength) (j := headerLength) (by rw [hlen])
          (by simp [hlen]) (by simp)
        rw [List.append_nil, List.append_nil, ← hend] at hs
        exact hs
      rw [hzero, ok_bind, hrest]
      rfl
    · rfl

end Block

/-! ## Data -/

theorem headerBytes_eq (ρ : Runtime) (m : TcpNetworkDataMessage) :
    m.headerBytes ρ = .ok (block validSignature m.version m.messageType m.payloadSize.toUInt32) := by
  have hnew : newArray ρ headerLength = .ok (List.replicate headerLength 0) :=
    newArray_of_le (le_trans (by decide) ρ.le_maxLength)
  have hsig : blockCopy validSignature 0 (List.replicate headerLength 0) 0 signatureLength =
      .ok (validSignature ++ List.replicate 6 0) :=
    blockCopy_append (a := []) (b := validSignature) (c := []) (d := [])
      (e := List.replicate signatureLength 0) (f := List.replicate 6 0) rfl rfl rfl rfl
  have hsize : blockCopy (beBytes 4 m.payloadSize.toUInt32.toNat) 0
      (validSignature ++ [m.version, m.messageType] ++ List.replicate 4 0)
      (signatureLength + versionLength + messageTypeLength : Nat) payloadLength =
        .ok (block validSignature m.version m.messageType m.payloadSize.toUInt32) := by
    have hcopy := blockCopy_append (a := []) (b := beBytes 4 m.payloadSize.toUInt32.toNat) (c := [])
      (d := validSignature ++ [m.version, m.messageType]) (e := List.replicate 4 0) (f := [])
      (i := 0) (j := (signatureLength + versionLength + messageTypeLength : Nat))
      (n := payloadLength) rfl (by simp [payloadLength]) rfl (by simp)
    simpa [block] using hcopy
  simp only [headerBytes, hnew, hsig, ok_bind, getBytes_swapInt32]
  exact hsize

/-- The length of the array that `Data` asks for. -/
theorem toInt_totalLength {m : TcpNetworkDataMessage} {n : Nat} (hsize : m.payloadSize.toInt = n) :
    m.totalLength.toInt = if headerLength + n < 2 ^ 31 then (headerLength + n : Int)
      else headerLength + n - 2 ^ 32 := by
  have hlt := m.payloadSize.toInt_lt
  have hheader : (Int32.ofNat headerLength).toInt = 22 := by decide
  rw [totalLength, Int32.toInt_add, hheader, hsize, Int.bmod_def]
  have h22 : headerLength = 22 := rfl
  rw [h22]
  split <;> split <;> omega

/-- `Data` exists where there can be an array of its length. -/
theorem data_eq_block {ρ : Runtime} {m : TcpNetworkDataMessage}
    (hsize : m.payloadSize.toInt = m.body.length)
    (hlen : headerLength + m.body.length ≤ ρ.maxLength) :
    m.data ρ =
      .ok (block validSignature m.version m.messageType m.payloadSize.toUInt32 ++ m.body) := by
  have hmax := ρ.maxLength_lt
  have htotal : m.totalLength.toInt = (headerLength + m.body.length : Nat) := by
    rw [toInt_totalLength hsize, if_pos (by omega)]
    rfl
  have hrest : (m.totalLength - Int32.ofNat headerLength).toInt = m.body.length := by
    rw [totalLength, Int32.add_comm, Int32.add_sub_cancel, hsize]
  generalize hb : block validSignature m.version m.messageType m.payloadSize.toUInt32 = header
  have hheader : header.length = headerLength := by
    rw [← hb]
    exact length_block _ _ _ rfl
  have hcopy : blockCopy header 0 (List.replicate (headerLength + m.body.length) 0) 0 headerLength =
      .ok (header ++ List.replicate m.body.length 0) := by
    have h := blockCopy_append (a := []) (b := header) (c := []) (d := [])
      (e := List.replicate headerLength 0) (f := List.replicate m.body.length 0) (i := 0)
      (j := 0) (n := headerLength) rfl (by rw [hheader]) rfl (by simp [hheader])
    simpa [List.replicate_append_replicate] using h
  simp only [data, htotal, newArray_of_le hlen, headerBytes_eq, hb, ok_bind, hcopy, hrest]
  cases hp : m.payload with
  | none => simp [body, hp]
  | some payload =>
    have hbody : m.body = payload := by simp [body, hp]
    have h := blockCopy_append (a := []) (b := payload) (c := []) (d := header)
      (e := List.replicate payload.length 0) (f := []) (i := 0)
      (j := headerLength) (n := payload.length) rfl rfl (by rw [hheader]) (by simp)
    simpa [hbody] using h

theorem le_maxLength_of_data {ρ : Runtime} {m : TcpNetworkDataMessage} {d : Bytes}
    (hsize : m.payloadSize.toInt = m.body.length) (h : m.data ρ = .ok d) :
    headerLength + m.body.length ≤ ρ.maxLength := by
  have hmax := ρ.maxLength_lt
  have hlt := m.payloadSize.toInt_lt
  by_contra hlong
  obtain ⟨buffer, hnew⟩ : ∃ buffer, newArray ρ m.totalLength.toInt = .ok buffer := by
    cases hnew : newArray ρ m.totalLength.toInt with
    | ok buffer => exact ⟨buffer, rfl⟩
    | error e =>
      rw [data, hnew] at h
      cases h
  obtain ⟨hpos, hle, -⟩ := newArray_eq_ok.mp hnew
  rw [toInt_totalLength hsize] at hpos hle
  have h22 : headerLength = 22 := rfl
  rw [h22] at hlong hpos hle
  split at hpos <;> split at hle <;> omega

/-! ## Messages that can be built -/

/-- What the four constructors build. -/
inductive Built (ρ : Runtime) : TcpNetworkDataMessage → Prop where
  | new : Built ρ new
  | ofType (messageType : TcpNetworkDataMessageType) : Built ρ (ofType messageType)
  | ofPayload (messageType : TcpNetworkDataMessageType) (payload : Bytes) :
      headerLength + payload.length < 2 ^ 31 → Built ρ (ofPayload messageType payload)
  | ofBytes {data : Bytes} {m : TcpNetworkDataMessage} : ofBytes ρ data = .ok m → Built ρ m

/-- A payload that comes from bytes is as long as their size field says. -/
theorem payloadSize_ofBytes {ρ : Runtime} {data : Bytes} {m : TcpNetworkDataMessage}
    (h : ofBytes ρ data = .ok m) : m.payloadSize.toInt = m.body.length := by
  obtain ⟨signature, -, h⟩ := bind_eq_ok.mp h
  obtain ⟨version, -, h⟩ := bind_eq_ok.mp h
  obtain ⟨messageType, -, h⟩ := bind_eq_ok.mp h
  obtain ⟨size, -, h⟩ := bind_eq_ok.mp h
  obtain ⟨zeros, hnew, h⟩ := bind_eq_ok.mp h
  obtain ⟨payload, hpayload, h⟩ := bind_eq_ok.mp h
  obtain ⟨hpos, -, hzeros⟩ := newArray_eq_ok.mp hnew
  have hlen : payload.length = zeros.length := by
    split at hpayload
    · obtain ⟨rest, -, hcopy⟩ := bind_eq_ok.mp hpayload
      exact length_of_blockCopy hcopy
    · rw [Except.ok.inj hpayload]
  rw [← Except.ok.inj h]
  show (swapInt32 (toInt32 size)).toInt = payload.length
  rw [hlen, hzeros, List.length_replicate]
  omega

theorem Built.payloadSize {ρ : Runtime} {m : TcpNetworkDataMessage} (h : Built ρ m) :
    m.payloadSize.toInt = m.body.length := by
  cases h with
  | new => rfl
  | ofType _ => rfl
  | ofPayload _ payload hlen =>
    exact Int32.toInt_ofNat_of_lt (by unfold headerLength at hlen; omega)
  | ofBytes h => exact payloadSize_ofBytes h

end TcpNetworkDataMessage

end Navtech.IASDK
