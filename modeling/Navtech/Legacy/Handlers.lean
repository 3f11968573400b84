/-
  The handlers of `RadarClient` of `cpp/radarclient.cpp`: what the first SDK makes of a message
  from the read thread.

  A configuration message is copied over a `CNDPConfigurationHeaderStruct` and its values are
  kept, whether or not a callback is set; the stream of FFT data is started again if it was
  asked for. FFT data and navigation data are looked at only for a callback. A copy that goes
  past the end of the message is a `Fault`. Angles are exact, as for the second SDK; a range is
  the `float` that it is kept in.

  A `Frame` is what the read thread takes for a message: the limit for the payload is higher than
  that of the second SDK, so the frames of that SDK are among them (`Frame.of`).
  `received_configuration`, `received_fft` and `received_navigation` say what each handler does
  with a frame of any length.
-/
import Navtech.Legacy.RadarClient
import Navtech.Network.FrameValues

namespace Navtech.Legacy

open ByteOrder Buffer PackedRecord CheckedView Navtech.Utility
open Navtech.Network (Bytes frameBytes headerBytes length_frameBytes length_headerBytes)
open Navtech.IASDK (uint16Member uint32Member)
open Navtech.RadarClient (floatRange storedPeak)

namespace CNDPNetworkDataMessageType

def configuration : CNDPNetworkDataMessageType := 10
def fftData : CNDPNetworkDataMessageType := 30
def navigationData : CNDPNetworkDataMessageType := 123
def navigationAlarmData : CNDPNetworkDataMessageType := 143

end CNDPNetworkDataMessageType

namespace NetworkDataMessage

/-- `MessageId()`, the type in the header. -/
def messageId (m : NetworkDataMessage) : CNDPNetworkDataMessageType := m.header.messageid

/-- `PayloadSize()`, the length in the header, whatever the payload is. -/
def payloadSize (m : NetworkDataMessage) : UInt32 := m.header.payloadLength

end NetworkDataMessage

/-! ## Message headers -/

/-- `CNDPConfigurationHeaderStruct`, a packed struct. -/
structure ConfigurationHeader where
  header : NetworkDataHeader
  azimuthsamples : UInt16
  binsize : UInt16
  rangeinbins : UInt16
  encodersize : UInt16
  rotationspeed : UInt16
  packetrate : UInt16
  rangegain : UInt32
  rangeoffset : UInt32
deriving DecidableEq, Repr

namespace ConfigurationHeader

/-- Six members of two bytes and two of four. -/
def headerLength : Nat := 6 * 2 + 2 * 4

/-- The struct over bytes of the message: its members are still in network order. -/
def ofMemory (data : Bytes) : ConfigurationHeader where
  header := .ofMemory data
  azimuthsamples := uint16Member data (ndmHeaderLength + 0)
  binsize := uint16Member data (ndmHeaderLength + 2)
  rangeinbins := uint16Member data (ndmHeaderLength + 4)
  encodersize := uint16Member data (ndmHeaderLength + 6)
  rotationspeed := uint16Member data (ndmHeaderLength + 8)
  packetrate := uint16Member data (ndmHeaderLength + 10)
  rangegain := uint32Member data (ndmHeaderLength + 12)
  rangeoffset := uint32Member data (ndmHeaderLength + 16)

end ConfigurationHeader

/-- `CNDPNetworkDataFftDataHeaderStruct`, a packed struct. -/
structure FftDataHeader where
  header : NetworkDataHeader
  fftdataoffset : UInt16
  sweepcounter : UInt16
  azimuth : UInt16
  seconds : UInt32
  splitseconds : UInt32
deriving DecidableEq, Repr

namespace FftDataHeader

/-- Three members of two bytes and two of four. -/
def headerLength : Nat := 3 * 2 + 2 * 4

/-- The struct over bytes of the message, as for a configuration. -/
def ofMemory (data : Bytes) : FftDataHeader where
  header := .ofMemory data
  fftdataoffset := uint16Member data (ndmHeaderLength + 0)
  sweepcounter := uint16Member data (ndmHeaderLength + 2)
  azimuth := uint16Member data (ndmHeaderLength + 4)
  seconds := uint32Member data (ndmHeaderLength + 6)
  splitseconds := uint32Member data (ndmHeaderLength + 10)

end FftDataHeader

/-! ## The client -/

/-- `FFTData` and `NavigationData` have the members of the second SDK's classes. -/
abbrev FFTData := Navtech.FftData

/-- The same values as in the second SDK. -/
abbrev NavigationData := Navtech.NavigationData

/-- What a callback for a configuration is given. -/
structure ConfigurationData where
  azimuthSamples : UInt16
  encoderSize : UInt16
  binSize : UInt16
  rangeInBins : UInt16
  expectedRotationRate : UInt16
deriving DecidableEq, Repr

/-- What a handler does: it sends, or it hands a value to the callback that is set. -/
inductive Output where
  | send (data : Bytes)
  | fftData (data : FFTData)
  | navigationData (data : NavigationData)
  | configurationData (data : ConfigurationData)
deriving DecidableEq

/-- `RadarClient` with the members that only the handlers use. -/
structure Client extends RadarClient where
  fftDataCallback : Bool
  navigationDataCallback : Bool
  configurationDataCallback : Bool
  encoderSize : UInt16
  rangeinbins : UInt16
  azimuthSamples : UInt16
  expectedRotationRate : UInt16
deriving DecidableEq, Repr

namespace Client

/-- After the constructor. -/
def new : Client where
  connected := false
  sendRadarData := false
  binSize := 0
  fftDataCallback := false
  navigationDataCallback := false
  configurationDataCallback := false
  encoderSize := 0
  rangeinbins := 0
  azimuthSamples := 0
  expectedRotationRate := 0

/-- The state after a command of `RadarClient`, with what it sends. -/
def command (c : Client) (r : RadarClient × List Bytes) : Client × List Output :=
  ({ c with toRadarClient := r.1 }, r.2.map .send)

/-- The values of a configuration, kept. -/
def configured (c : Client) (configHeader : ConfigurationHeader) : Client :=
  { c with
    azimuthSamples := ntohs configHeader.azimuthsamples
    binSize := ntohs configHeader.binsize
    rangeinbins := ntohs configHeader.rangeinbins
    encoderSize := ntohs configHeader.encodersize
    expectedRotationRate := ntohs configHeader.rotationspeed / 1000 }

/-- The value for the callback, made of the members that have been set before. -/
def configurationData (c : Client) : ConfigurationData :=
  ⟨c.azimuthSamples, c.encoderSize, c.binSize, c.rangeinbins, c.expectedRotationRate⟩

/-- `HandleConfigurationMessage` takes the values and starts the stream again, and looks for a
    callback last. -/
def handleConfigurationMessage (c : Client) (configMessage : NetworkDataMessage) :
    Except Fault (Client × List Output) := do
  let memory ← range configMessage.messageData 0
    (ConfigurationHeader.headerLength + ndmHeaderLength)
  let c := c.configured (.ofMemory memory)
  let start := if c.sendRadarData then c.sendSimpleNetworkMessage .startFFTData else []
  return (c, start.map .send ++
    if c.configurationDataCallback then [.configurationData c.configurationData] else [])

/-- `HandleFFTDataMessage` copies the header and the samples out of the message; the number of
    samples is the length in the header less that of the struct. -/
def handleFFTDataMessage (c : Client) (fftDataMessage : NetworkDataMessage) :
    Except Fault (Client × List Output) :=
  if ¬ c.fftDataCallback then .ok (c, [])
  else do
    let messageData := fftDataMessage.messageData
    let memory ← range messageData 0 (FftDataHeader.headerLength + ndmHeaderLength)
    let fftDataHeader := FftDataHeader.ofMemory memory
    let azimuth := ntohs fftDataHeader.azimuth
    let size := (fftDataHeader.header.payloadLength - UInt32.ofNat FftDataHeader.headerLength).toNat
    let first := ndmHeaderLength + FftDataHeader.headerLength
    let data ← range messageData first (first + size)
    return (c, [.fftData {
      angle := Navtech.RadarClient.angle azimuth c.encoderSize
      azimuth := azimuth
      sweepCounter := ntohs fftDataHeader.sweepcounter
      ntpSeconds := fftDataHeader.seconds
      ntpSplitSeconds := fftDataHeader.splitseconds
      data := data }])

/-- The loop over the records of the payload, from `i` on; `stop` bounds the turns as well. -/
def peaks (payload : Bytes) (stop : Nat) : Nat → Nat → Except Fault (List (ℚ × UInt16))
  | 0, _ => .ok []
  | n + 1, i =>
    if i < stop then do
      let peakResolve ← read 4 payload i
      let power ← read 2 payload (i + 4)
      let others ← peaks payload stop n (i + navDataRecordLength)
      return (floatRange (htonl (UInt32.ofNat peakResolve)), htons (UInt16.ofNat power)) :: others
    else .ok []

/-- `HandleNavigationDataMessage` reads the payload by offsets; how many records it takes follows
    from the length in the header. -/
def handleNavigationDataMessage (c : Client) (navigationMessage : NetworkDataMessage) :
    Except Fault (Client × List Output) :=
  if ¬ c.navigationDataCallback then .ok (c, [])
  else do
    let payload := navigationMessage.payload
    let netAzimuth ← read 2 payload 0
    let netSeconds ← read 4 payload 2
    let netSplitSeconds ← read 4 payload (2 + 4)
    let azimuth := ntohs (UInt16.ofNat netAzimuth)
    let offset := 2 + 4 + 4
    let peaksCount := (navigationMessage.payloadSize.toUInt64 - UInt64.ofNat offset).toNat /
      navDataRecordLength
    let stop := 10 + peaksCount * navDataRecordLength
    let peaks ← peaks payload stop stop offset
    return (c, [.navigationData {
      angle := Navtech.RadarClient.angle azimuth c.encoderSize
      azimuth := azimuth
      ntpSeconds := ntohl (UInt32.ofNat netSeconds)
      ntpSplitSeconds := ntohl (UInt32.ofNat netSplitSeconds)
      peaks := peaks }])

/-- `HandleData`: a message of another type is dropped. -/
def handleData (c : Client) (message : NetworkDataMessage) : Except Fault (Client × List Output) :=
  if message.messageId = .configuration then c.handleConfigurationMessage message
  else if message.messageId = .fftData then c.handleFFTDataMessage message
  else if message.messageId = .navigationData then c.handleNavigationDataMessage message
  else .ok (c, [])

end Client

/-! ## Frames -/

/-- What the read thread takes: a message of any type, with a payload up to the limit. -/
structure Frame where
  type : CNDPNetworkDataMessageType
  payload : Bytes
  fits : payload.length ≤ maxPayloadSize

namespace Frame

/-- As it comes from the radar. -/
def bytes (f : Frame) : Bytes := frameBytes f.type f.payload

theorem bytes_eq (f : Frame) : f.bytes = headerBytes f.type f.payload.length ++ f.payload := rfl

@[simp] theorem length_bytes (f : Frame) : f.bytes.length = ndmHeaderLength + f.payload.length :=
  length_frameBytes _ _

/-- A frame of the second SDK. -/
def of (f : Network.Frame) : Frame where
  type := f.type
  payload := f.payload
  fits := f.small.le.trans (by decide)

end Frame

/-- The message that `HandleData` of the read thread makes of a frame. -/
def messageOf (f : Frame) : NetworkDataMessage :=
  ⟨.ofMemory (headerBytes f.type f.payload.length), f.payload⟩

section Frames

variable (f : Frame)

theorem payload_lt : f.payload.length < 2 ^ 32 := Nat.lt_of_le_of_lt f.fits (by decide)

theorem messageOf_header : (messageOf f).header =
    (NetworkDataHeader.init.setMessageId f.type).setPayloadLength
      (UInt32.ofNat f.payload.length) := by
  have h := ofMemory_headerBytes f.type (payload_lt f) []
  rwa [List.append_nil] at h

theorem messageId_messageOf : (messageOf f).messageId = f.type := rfl

theorem payloadLength_messageOf :
    (messageOf f).header.payloadLength = UInt32.ofNat f.payload.length := by
  rw [messageOf_header]
  exact ntohl_htonl _

/-- The read thread takes the message for valid. -/
theorem headerIsValid_messageOf : (messageOf f).header.headerIsValid = true := by
  have hsize : (messageOf f).header.payloadLength.toNat = f.payload.length := by
    rw [payloadLength_messageOf]
    exact UInt32.toNat_ofNat_of_lt (payload_lt f)
  unfold NetworkDataHeader.headerIsValid
  rw [hsize, decide_eq_true f.fits, Bool.and_true]
  rfl

theorem messageData_messageOf : (messageOf f).messageData = f.bytes := by
  have hsize : (UInt32.ofNat f.payload.length).toNat = f.payload.length :=
    UInt32.toNat_ofNat_of_lt (payload_lt f)
  rw [messageData_eq, messageOf_header, toData_init, hsize]
  rfl

/-- The copy of a header and `n` bytes behind it. -/
theorem range_messageOf (n : Nat) :
    range (messageOf f).messageData 0 (n + ndmHeaderLength) =
      if n ≤ f.payload.length then
        .ok (headerBytes f.type f.payload.length ++ f.payload.take n)
      else .error (.outOfBounds 0 (n + ndmHeaderLength)) := by
  have h22 : ndmHeaderLength = 22 := rfl
  have hlen : f.bytes.length = 22 + f.payload.length := f.length_bytes
  unfold range
  rw [messageData_messageOf, if_neg (Nat.not_lt_zero _), hlen, h22]
  by_cases hn : n ≤ f.payload.length
  · rw [if_pos (by omega), if_pos hn, slice, List.drop_zero, Nat.sub_zero, f.bytes_eq,
      List.take_append, length_headerBytes, List.take_of_length_le]
    · congr 2
    · rw [length_headerBytes]
      show 22 ≤ n + 22
      omega
  · rw [if_neg (by omega), if_neg hn]
    rfl

/-- A member of the struct, as it lies in the payload. -/
theorem load_copied {w off n : Nat} (h : off + w ≤ n) :
    load w (headerBytes f.type f.payload.length ++ f.payload.take n) (ndmHeaderLength + off) =
      load w f.payload off := by
  have hheader := length_headerBytes f.type f.payload.length
  unfold load slice
  rw [show ndmHeaderLength = Network.Message.headerSize from rfl, ← hheader, ← List.drop_drop,
    List.drop_left, List.drop_take, List.take_take, Nat.min_eq_left (by omega)]

theorem uint16Member_copied {off n : Nat} (h : off + 2 ≤ n) :
    uint16Member (headerBytes f.type f.payload.length ++ f.payload.take n)
      (ndmHeaderLength + off) = uint16Member f.payload off :=
  congrArg UInt16.ofNat (load_copied f h)

theorem uint32Member_copied {off n : Nat} (h : off + 4 ≤ n) :
    uint32Member (headerBytes f.type f.payload.length ++ f.payload.take n)
      (ndmHeaderLength + off) = uint32Member f.payload off :=
  congrArg UInt32.ofNat (load_copied f h)

end Frames

/-! ## Events -/

/-- A frame, a change of the connection, or a call of the user. -/
inductive Event where
  | received (f : Frame)
  | connection (connected : Bool)
  | setFFTDataCallback (fn : Bool)
  | setNavigationDataCallback (fn : Bool)
  | setConfigurationDataCallback (fn : Bool)
  | startFFTData
  | stopFFTData
  | startNavigationData
  | stopNavigationData
  | setNavigationThreshold (threshold : UInt16)
  | setNavigationGainAndOffset (gain offset : Float32)
  | updateContourMap (contourData : Bytes)

/-- The client at an event. -/
def Client.step (c : Client) : Event → Except Fault (Client × List Output)
  | .received f => c.handleData (messageOf f)
  | .connection connected => .ok ({ c with connected := connected }, [])
  | .setFFTDataCallback fn => .ok ({ c with fftDataCallback := fn }, [])
  | .setNavigationDataCallback fn => .ok ({ c with navigationDataCallback := fn }, [])
  | .setConfigurationDataCallback fn => .ok ({ c with configurationDataCallback := fn }, [])
  | .startFFTData => .ok (c.command c.startFFTData)
  | .stopFFTData => .ok (c.command c.stopFFTData)
  | .startNavigationData => .ok (c.command c.startNavigationData)
  | .stopNavigationData => .ok (c.command c.stopNavigationData)
  | .setNavigationThreshold threshold => .ok (c.command (c.setNavigationThreshold threshold))
  | .setNavigationGainAndOffset gain offset =>
    .ok (c.command (c.setNavigationGainAndOffset gain offset))
  | .updateContourMap contourData => .ok (c.command (c.updateContourMap contourData))

/-! ## What the handlers do with a frame -/

/-- The number in two bytes of a payload, the most significant first. -/
def wordAt (payload : Bytes) (place : Nat) : UInt16 :=
  UInt16.ofNat (ofBEBytes (slice payload place 2))

theorem ntohs_uint16Member {payload : Bytes} {place : Nat} (h : place + 2 ≤ payload.length) :
    ntohs (uint16Member payload place) = wordAt payload place := by
  have hlen : (slice payload place 2).length = 2 := length_slice h
  have hlt : ofLEBytes (slice payload place 2) < 2 ^ 16 := by
    have hbound := ofLEBytes_lt (slice payload place 2)
    rwa [hlen] at hbound
  have hload : (uint16Member payload place).toNat = ofLEBytes (slice payload place 2) :=
    UInt16.toNat_ofNat_of_lt hlt
  have hswap := leBytes_ofLEBytes (slice payload place 2)
  rw [hlen] at hswap
  unfold ntohs wordAt
  rw [hload, byteSwap, beBytes, hswap]
  rfl

namespace Client

variable (c : Client) {f : Frame}

/-- The client that has kept the values of a configuration payload. -/
def keeping (payload : Bytes) : Client :=
  { c with
    azimuthSamples := ntohs (uint16Member payload 0)
    binSize := ntohs (uint16Member payload 2)
    rangeinbins := ntohs (uint16Member payload 4)
    encoderSize := ntohs (uint16Member payload 6)
    expectedRotationRate := ntohs (uint16Member payload 8) / 1000 }

theorem configured_copied : c.configured (.ofMemory (headerBytes f.type f.payload.length ++
    f.payload.take ConfigurationHeader.headerLength)) = c.keeping f.payload := by
  have hmember (off : Nat) (h : off + 2 ≤ ConfigurationHeader.headerLength) :=
    uint16Member_copied f h
  unfold configured ConfigurationHeader.ofMemory keeping
  rw [hmember 0 (by decide), hmember 2 (by decide),
    hmember 4 (by decide), hmember 6 (by decide), hmember 8 (by decide)]

/-- What `HandleConfigurationMessage` sends, and what it hands out. -/
def answers (payload : Bytes) : List Output :=
  (if c.sendRadarData && c.connected then [.send (frameBytes 21 [])] else []) ++
    if c.configurationDataCallback then [.configurationData (c.keeping payload).configurationData]
    else []

theorem received_configuration (hlen : ConfigurationHeader.headerLength ≤ f.payload.length) :
    c.handleConfigurationMessage (messageOf f) =
      .ok (c.keeping f.payload, c.answers f.payload) := by
  unfold handleConfigurationMessage
  rw [range_messageOf, if_pos hlen]
  show Except.ok (_, _) = _
  rw [configured_copied, RadarClient.sendSimpleNetworkMessage_eq]
  unfold answers
  have hflag : (c.keeping f.payload).sendRadarData = c.sendRadarData := rfl
  have hconnected : (c.keeping f.payload).connected = c.connected := rfl
  have hcallback : (c.keeping f.payload).configurationDataCallback =
      c.configurationDataCallback := rfl
  rw [hflag, hconnected, hcallback]
  cases c.sendRadarData with
  | false => rfl
  | true =>
    cases c.connected with
    | false => rfl
    | true => rfl

theorem received_configuration_short
    (hlen : ¬ ConfigurationHeader.headerLength ≤ f.payload.length) :
    ¬ Succeeds (c.handleConfigurationMessage (messageOf f)) := by
  unfold handleConfigurationMessage
  rw [range_messageOf, if_neg hlen]
  exact not_succeeds_error _

/-- The length of `Data`. -/
theorem dataSize_copied (hlen : FftDataHeader.headerLength ≤ f.payload.length) :
    ((NetworkDataHeader.ofMemory (headerBytes f.type f.payload.length ++
      f.payload.take FftDataHeader.headerLength)).payloadLength -
        UInt32.ofNat FftDataHeader.headerLength).toNat =
      f.payload.length - FftDataHeader.headerLength := by
  have hlt := payload_lt f
  have hv : (UInt32.ofNat f.payload.length).toNat = f.payload.length :=
    UInt32.toNat_ofNat_of_lt hlt
  have hw : (UInt32.ofNat FftDataHeader.headerLength).toNat = FftDataHeader.headerLength := rfl
  have hle : UInt32.ofNat FftDataHeader.headerLength ≤ UInt32.ofNat f.payload.length := by
    rw [UInt32.le_iff_toNat_le, hv, hw]
    exact hlen
  have hheader := ofMemory_headerBytes f.type hlt (f.payload.take FftDataHeader.headerLength)
  have hlength : (NetworkDataHeader.ofMemory (headerBytes f.type f.payload.length ++
      f.payload.take FftDataHeader.headerLength)).payloadLength =
        UInt32.ofNat f.payload.length := by
    rw [hheader]
    exact ntohl_htonl _
  rw [hlength, UInt32.toNat_sub_of_le _ _ hle, hv, hw]

/-- The bytes behind the header of FFT data. -/
theorem range_data (hlen : FftDataHeader.headerLength ≤ f.payload.length) :
    range f.bytes (ndmHeaderLength + FftDataHeader.headerLength)
        (ndmHeaderLength + FftDataHeader.headerLength +
          (f.payload.length - FftDataHeader.headerLength)) =
      .ok (f.payload.drop FftDataHeader.headerLength) := by
  have hsplit : f.bytes = (headerBytes f.type f.payload.length ++
      f.payload.take FftDataHeader.headerLength) ++
      f.payload.drop FftDataHeader.headerLength ++ [] := by
    rw [List.append_nil, List.append_assoc, List.take_append_drop]
    rfl
  have hpre : (headerBytes f.type f.payload.length ++
      f.payload.take FftDataHeader.headerLength).length =
      ndmHeaderLength + FftDataHeader.headerLength := by
    rw [List.length_append, length_headerBytes, List.length_take, Nat.min_eq_left hlen]
    rfl
  rw [hsplit]
  exact range_append hpre.symm (by rw [hpre, List.length_drop])

theorem received_fft (hcallback : c.fftDataCallback = true)
    (hlen : FftDataHeader.headerLength ≤ f.payload.length) :
    c.handleFFTDataMessage (messageOf f) =
      .ok (c, [.fftData (Navtech.RadarClient.fftValues c.encoderSize f.payload)]) := by
  have hmember (off : Nat) (h : off + 2 ≤ FftDataHeader.headerLength) := uint16Member_copied f h
  have hword (off : Nat) (h : off + 4 ≤ FftDataHeader.headerLength) := uint32Member_copied f h
  unfold handleFFTDataMessage
  dsimp only
  rw [if_neg (not_not_intro hcallback), range_messageOf, if_pos hlen, messageData_messageOf]
  unfold FftDataHeader.ofMemory
  simp only [bind, Except.bind]
  rw [dataSize_copied hlen, range_data hlen, hmember 2 (by decide),
    hmember 4 (by decide), hword 6 (by decide), hword 10 (by decide)]
  rfl

theorem received_fft_short (hcallback : c.fftDataCallback = true)
    (hlen : ¬ FftDataHeader.headerLength ≤ f.payload.length) :
    ¬ Succeeds (c.handleFFTDataMessage (messageOf f)) := by
  unfold handleFFTDataMessage
  dsimp only
  rw [if_neg (not_not_intro hcallback), range_messageOf, if_neg hlen]
  exact not_succeeds_error _

/-- The loop takes as many turns as there are records, and keeps of each what the loop of the
    second SDK keeps. -/
theorem peaks_eq (payload : Bytes) {stop turns count i : Nat}
    (hstop : stop = i + count * navDataRecordLength) (hturns : count ≤ turns) :
    peaks payload stop turns i =
      (Navtech.RadarClient.peaks payload count i).map fun l => l.map storedPeak := by
  have h6 : navDataRecordLength = 6 := rfl
  induction count generalizing turns i with
  | zero =>
    cases turns with
    | zero => rfl
    | succ turns =>
      rw [peaks, if_neg (by omega)]
      rfl
  | succ count ih =>
    obtain ⟨turns, rfl⟩ := Nat.exists_eq_succ_of_ne_zero (Nat.ne_zero_of_lt hturns)
    have hnext : peaks payload stop turns (i + navDataRecordLength) = _ :=
      ih (by rw [hstop, Nat.succ_mul]; omega) (Nat.le_of_succ_le_succ hturns)
    rw [peaks, if_pos (by rw [hstop, Nat.succ_mul]; omega), hnext, Navtech.RadarClient.peaks]
    cases read 4 payload i with
    | error fault => rfl
    | ok range =>
      cases read 2 payload (i + 4) with
      | error fault => rfl
      | ok power =>
        have hfirst := Navtech.RadarClient.storedPeak_peak
          (htonl (UInt32.ofNat range), htons (UInt16.ofNat power))
        cases Navtech.RadarClient.peaks payload count (i + navDataRecordLength) with
        | error fault => rfl
        | ok others => exact congrArg (fun first => Except.ok (first :: _)) hfirst.symm

/-- The number of records of a payload. -/
theorem peaksCount_messageOf (hlen : 10 ≤ f.payload.length) :
    ((messageOf f).payloadSize.toUInt64 - UInt64.ofNat (2 + 4 + 4)).toNat =
      f.payload.length - 10 := by
  have hlt := payload_lt f
  have hv : (messageOf f).payloadSize.toUInt64.toNat = f.payload.length := by
    show (messageOf f).header.payloadLength.toUInt64.toNat = _
    rw [payloadLength_messageOf, UInt32.toNat_toUInt64]
    exact UInt32.toNat_ofNat_of_lt hlt
  have hw : (UInt64.ofNat (2 + 4 + 4)).toNat = 10 := rfl
  have hle : UInt64.ofNat (2 + 4 + 4) ≤ (messageOf f).payloadSize.toUInt64 := by
    rw [UInt64.le_iff_toNat_le, hv, hw]
    exact hlen
  rw [UInt64.toNat_sub_of_le _ _ hle, hv, hw]

/-- The values that are handed out of a payload with these records. -/
def navigationValues (encoderSize : UInt16) (payload : Bytes) (records : List (UInt32 × UInt16)) :
    NavigationData :=
  { Navtech.RadarClient.navigationValues encoderSize payload records with
    peaks := records.map fun r => (floatRange r.1, r.2) }

theorem received_navigation (hcallback : c.navigationDataCallback = true)
    {records : List (UInt32 × UInt16)} {extra : Bytes} (hlen : 10 ≤ f.payload.length)
    (htargets : f.payload.drop 10 = Navtech.RadarClient.recordsBytes records ++ extra)
    (hextra : extra.length < navDataRecordLength) :
    c.handleNavigationDataMessage (messageOf f) =
      .ok (c, [.navigationData (navigationValues c.encoderSize f.payload records)]) := by
  have h6 : navDataRecordLength = 6 := rfl
  have hcount : (f.payload.length - 10) / navDataRecordLength = records.length := by
    have hlength := congrArg List.length htargets
    rw [List.length_drop, List.length_append, Navtech.RadarClient.length_recordsBytes] at hlength
    rw [hlength, Nat.add_comm, Nat.add_mul_div_right _ _ (by decide), Nat.div_eq_of_lt hextra,
      Nat.zero_add]
  have hpeaks : Navtech.RadarClient.peaks f.payload records.length 10 =
      .ok (records.map Navtech.RadarClient.peak) := by
    have htake : (f.payload.take 10).length = 10 := by rw [List.length_take, Nat.min_eq_left hlen]
    have h := Navtech.RadarClient.peaks_recordsBytes (f.payload.take 10) extra records
    rwa [List.append_assoc, ← htargets, List.take_append_drop, htake] at h
  unfold handleNavigationDataMessage
  dsimp only
  have hpayload : (messageOf f).payload = f.payload := rfl
  rw [if_neg (not_not_intro hcallback), hpayload, read_of_le (show 0 + 2 ≤ _ by omega),
    read_of_le (show 2 + 4 ≤ _ by omega), read_of_le (show 2 + 4 + 4 ≤ _ by omega),
    peaksCount_messageOf hlen, hcount]
  simp only [bind, Except.bind]
  rw [peaks_eq f.payload rfl (by rw [h6]; omega), hpeaks, Except.map,
    Navtech.RadarClient.map_storedPeak]
  rfl

theorem received_navigation_short (hcallback : c.navigationDataCallback = true)
    (hlen : ¬ 10 ≤ f.payload.length) :
    ¬ Succeeds (c.handleNavigationDataMessage (messageOf f)) := by
  intro h
  obtain ⟨r, hr⟩ := h
  unfold handleNavigationDataMessage at hr
  dsimp only at hr
  rw [if_neg (not_not_intro hcallback)] at hr
  obtain ⟨_, -, hr⟩ := bind_eq_ok.mp hr
  obtain ⟨_, -, hr⟩ := bind_eq_ok.mp hr
  obtain ⟨last, hlast, -⟩ := bind_eq_ok.mp hr
  exact hlen (succeeds_read.mp ⟨last, hlast⟩)

end Client

end Navtech.Legacy
