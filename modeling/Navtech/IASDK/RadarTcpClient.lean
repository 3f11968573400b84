/-
  `RadarTcpClient` of `csharp/IASDK/Networking/RadarTcpClient.cs`: the messages it takes from
  the radar with the events it raises for them, and the bytes that its commands write to the
  stream.

  A message struct is laid over the start of the payload by `MarshalToObject`: its members hold
  the bytes in host order, and its properties swap them. An exception of a handler goes to the
  caller, which is the reading thread. A conversion of a number that does not fit its type is left
  to the machine; the commands are meant for numbers that fit.
-/
import Mathlib.Algebra.Order.Field.Rat
import Navtech.IASDK.TcpNetworkDataMessage
import Navtech.Lib.SignificantBits

namespace Navtech.IASDK

open ByteOrder ManagedArray PackedRecord
open Navtech.Network (Bytes)

/-! ## Messages -/

/-- `data.MarshalToObject<T>()`, where `T` has this size. -/
def marshalToObject {T : Type} (size : Nat) (new : T) (ofMemory : Bytes → T) (data : Bytes) : T :=
  if data.length < size then new else ofMemory data

/-- The `ushort` member at a place. -/
def uint16Member (data : Bytes) (off : Nat) : UInt16 := UInt16.ofNat (load 2 data off)

/-- The `uint` member at a place. -/
def uint32Member (data : Bytes) (off : Nat) : UInt32 := UInt32.ofNat (load 4 data off)

structure TcpFftDataMessage where
  _fftDataOffset : UInt16
  _sweepCounter : UInt16
  _azimuth : UInt16
  _seconds : UInt32
  _splitSeconds : UInt32
deriving DecidableEq, Repr

namespace TcpFftDataMessage

def size : Nat := 14

def ofMemory (data : Bytes) : TcpFftDataMessage :=
  ⟨uint16Member data 0, uint16Member data 2, uint16Member data 4, uint32Member data 6,
    uint32Member data 10⟩

def marshal : Bytes → TcpFftDataMessage := marshalToObject size ⟨0, 0, 0, 0, 0⟩ ofMemory

def fftDataOffset (m : TcpFftDataMessage) : UInt16 := swapUInt16 m._fftDataOffset
def sweepCounter (m : TcpFftDataMessage) : UInt16 := swapUInt16 m._sweepCounter
def azimuth (m : TcpFftDataMessage) : UInt16 := swapUInt16 m._azimuth
def seconds (m : TcpFftDataMessage) : UInt32 := swapUInt32 m._seconds
def splitSeconds (m : TcpFftDataMessage) : UInt32 := swapUInt32 m._splitSeconds

end TcpFftDataMessage

structure TcpNavigationDataMessage where
  _azimuth : UInt16
  _seconds : UInt32
  _splitSeconds : UInt32
deriving DecidableEq, Repr

namespace TcpNavigationDataMessage

def size : Nat := 10

def ofMemory (data : Bytes) : TcpNavigationDataMessage :=
  ⟨uint16Member data 0, uint32Member data 2, uint32Member data 6⟩

def marshal : Bytes → TcpNavigationDataMessage := marshalToObject size ⟨0, 0, 0⟩ ofMemory

def azimuth (m : TcpNavigationDataMessage) : UInt16 := swapUInt16 m._azimuth
def seconds (m : TcpNavigationDataMessage) : UInt32 := swapUInt32 m._seconds
def splitSeconds (m : TcpNavigationDataMessage) : UInt32 := swapUInt32 m._splitSeconds

end TcpNavigationDataMessage

structure TcpConfigurationDataMessage where
  _azimuthSamples : UInt16
  _binSize : UInt16
  _rangeInBins : UInt16
  _encoderSize : UInt16
  _rotationSpeed : UInt16
  _packetRate : UInt16
  _rangeGain : UInt32
  _rangeOffset : UInt32
deriving DecidableEq, Repr

namespace TcpConfigurationDataMessage

def size : Nat := 20

def ofMemory (data : Bytes) : TcpConfigurationDataMessage :=
  ⟨uint16Member data 0, uint16Member data 2, uint16Member data 4, uint16Member data 6,
    uint16Member data 8, uint16Member data 10, uint32Member data 12, uint32Member data 16⟩

def marshal : Bytes → TcpConfigurationDataMessage :=
  marshalToObject size ⟨0, 0, 0, 0, 0, 0, 0, 0⟩ ofMemory

def binSize (m : TcpConfigurationDataMessage) : UInt16 := swapUInt16 m._binSize

end TcpConfigurationDataMessage

structure FftData where
  message : TcpFftDataMessage
  data : Bytes
deriving DecidableEq, Repr

structure NavigationReturn where
  /-- A `double`. -/
  range : ℚ
  power : UInt16
deriving DecidableEq, Repr

structure NavigationData where
  message : TcpNavigationDataMessage
  navigationReturns : List NavigationReturn
deriving DecidableEq, Repr

/-! ## The client -/

inductive ConnectionState where
  | disconnected | connecting | connected
deriving DecidableEq, Repr

/-- What the user gets: the data events. -/
inductive Event where
  | configurationData (data : TcpConfigurationDataMessage)
  | fftData (data : FftData)
  | navigationData (data : NavigationData)
deriving DecidableEq, Repr

structure RadarTcpClient where
  currentConnectionState : ConnectionState
  binSize : UInt16
deriving DecidableEq, Repr

namespace RadarTcpClient

variable (ρ : Runtime)

/-! ## Handlers -/

/-- What follows the first `size` bytes of the payload, in a new array: the first two
    statements of the three handlers. -/
def rest (size : Nat) (message : TcpNetworkDataMessage) : Except Exception Bytes := do
  let len := message.payloadSize - Int32.ofNat size
  let buffer ← newArray ρ len.toInt
  blockCopy message.body size buffer 0 len.toInt

def handleFftMessage (message : TcpNetworkDataMessage) : Except Exception (List Event) := do
  let fftDataBuffer ← rest ρ TcpFftDataMessage.size message
  let fftMessage := TcpFftDataMessage.marshal message.body
  return [.fftData ⟨fftMessage, fftDataBuffer⟩]

def handleConfigurationMessage (c : RadarTcpClient) (message : TcpNetworkDataMessage) :
    Except Exception (RadarTcpClient × List Event) := do
  let _configDataBuffer ← rest ρ TcpConfigurationDataMessage.size message
  let configMessage := TcpConfigurationDataMessage.marshal message.body
  return ({ c with binSize := configMessage.binSize }, [.configurationData configMessage])

/-- The loop of `HandleNavigationMessage`, with `i` at the next record. Each turn that goes on
    takes six bytes, so one turn more than there are bytes is enough. -/
def navigationReturns (navDataBuffer : Bytes) :
    Nat → Nat → Except Exception (List NavigationReturn)
  | 0, _ => .ok []
  | turns + 1, i =>
    if i < navDataBuffer.length then do
      let range ← slice ρ navDataBuffer i (i + 4)
      let power ← slice ρ navDataBuffer (i + 4) (i + 6)
      let others ← navigationReturns navDataBuffer turns (i + 6)
      return {
        range := SignificantBits.nearest 53 ((swapUInt32 (toUInt32 range)).toNat / 1000000)
        power := swapUInt16 (toUInt16 power) } :: others
    else .ok []

def handleNavigationMessage (message : TcpNetworkDataMessage) :
    Except Exception (List Event) := do
  let navDataBuffer ← rest ρ TcpNavigationDataMessage.size message
  let navMessage := TcpNavigationDataMessage.marshal message.body
  let returns ← navigationReturns ρ navDataBuffer (navDataBuffer.length + 1) 0
  return [.navigationData ⟨navMessage, returns⟩]

/-- `OnDataHandler`. -/
def onDataHandler (c : RadarTcpClient) (message : TcpNetworkDataMessage) :
    Except Exception (RadarTcpClient × List Event) :=
  if message.messageType = .configuration then handleConfigurationMessage ρ c message
  else if message.messageType = .fftData then do return (c, ← handleFftMessage ρ message)
  else if message.messageType = .navigationData then do
    return (c, ← handleNavigationMessage ρ message)
  else return (c, [])

/-! ## Commands -/

/-- The bytes that go to the stream for a message, if it is sent. -/
def sendData (c : RadarTcpClient) (data : TcpNetworkDataMessage) : Except Exception (List Bytes) :=
  if c.currentConnectionState = .connected then do return [← data.data ρ] else return []

def startFftData (c : RadarTcpClient) : Except Exception (List Bytes) :=
  c.sendData ρ (.ofType .startFftData)

def stopFftData (c : RadarTcpClient) : Except Exception (List Bytes) :=
  c.sendData ρ (.ofType .stopFftData)

def startNavigationData (c : RadarTcpClient) : Except Exception (List Bytes) :=
  c.sendData ρ (.ofType .startNavData)

def stopNavigationData (c : RadarTcpClient) : Except Exception (List Bytes) :=
  c.sendData ρ (.ofType .stopNavData)

def setNavigationThreshold (c : RadarTcpClient) (threshold : UInt16) :
    Except Exception (List Bytes) :=
  c.sendData ρ (.ofPayload .setNavThreshold (getBytesUInt16 (swapUInt16 threshold)))

def setNavigationGainAndOffset (c : RadarTcpClient) (gain offset : Float32) :
    Except Exception (List Bytes) := do
  let buffer ← newArray ρ 8
  let buffer ← blockCopy (getBytesUInt32 (swapUInt32 (gain * 1000000).toUInt32)) 0 buffer 0 4
  let buffer ← blockCopy (getBytesUInt32 (swapUInt32 (offset * 1000000).toUInt32)) 0 buffer 4 4
  c.sendData ρ (.ofPayload .setNavRangeOffsetAndGain buffer)

/-- A turn of the loop of `UpdateContourMap`. -/
def contourBytes (resolution : Float) (range : UInt16) : Bytes :=
  let result := (Float.ofNat range.toNat / resolution).ceil.toUInt16
  [((result &&& 0xff00) >>> 8).toUInt8, (result &&& 0x00ff).toUInt8]

/-- `UpdateContourMap`. The type of the message is that of the gain and offset. -/
def updateContourMap (c : RadarTcpClient) (contourData : List UInt16) :
    Except Exception (List Bytes) :=
  if contourData.length ≠ 360 then return []
  else
    let resolution := Float.ofNat c.binSize.toNat / 10000
    c.sendData ρ (.ofPayload .setNavRangeOffsetAndGain
      (contourData.flatMap (contourBytes resolution)))

end RadarTcpClient

end Navtech.IASDK
