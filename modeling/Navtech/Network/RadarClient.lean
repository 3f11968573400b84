/-
  `Radar_client` of `cpp_17/network/radar_client.{h,cpp}`: what the user of the SDK holds.

  The state is what the handlers read and write: which callbacks are set, whether a stream of
  FFT data was asked for, the connection state of the `Tcp_radar_client` below, and the encoder
  size and bin size kept from a configuration. A member function returns the new state with
  what it hands out (`Output`), in order: a message to `Tcp_radar_client::send`, or a value to
  a callback. A handler reads the message through an overlay without looking at its length, so
  it returns a `Fault` where a read leaves the message.

  Callbacks run on the thread that runs the handlers; what one calls on the client is an event
  that follows. Numbers are exact: a `float` or `double` that is computed is a rational number,
  or what a division by zero gives (`ExtRat`). The parsed protocol buffers and the scaling by
  ten are parameters (`Externals`). Logging is left out, and so are `start`, `stop` and their
  flag, which no handler looks at.
-/
import Navtech.Lib.ExtRat
import Navtech.Network.ColossusMessages

namespace Navtech

open CheckedView Navtech.Utility
open Navtech.Network (Bytes Message MessageType FloatScaling)
open Navtech.Network.MessageBase (toVector)

/-! ## Types -/

namespace Network.MessageType

def configuration : MessageType := 10
def startFftData : MessageType := 21
def stopFftData : MessageType := 22
def startHealthMsgs : MessageType := 23
def stopHealthMsgs : MessageType := 24
def fftData : MessageType := 30
def health : MessageType := 40
def startNavData : MessageType := 120
def stopNavData : MessageType := 121
def navigationData : MessageType := 123
def startNonContourFftData : MessageType := 140
def navigationAlarmData : MessageType := 143
def navigationConfigRequest : MessageType := 203
def navigationConfiguration : MessageType := 204

end Network.MessageType

/-- The classes generated for the protocol buffers, and `float` arithmetic by ten. -/
structure Externals where
  ConfigurationProtobuf : Type
  HealthProtobuf : Type
  /-- `ParseFromString` on a new object. -/
  parseConfiguration : Bytes → ConfigurationProtobuf
  parseHealth : Bytes → HealthProtobuf
  /-- `rangeresolutionmetres()`. -/
  rangeResolutionMetres : ConfigurationProtobuf → ExtRat
  scaling : FloatScaling

/-- Protocol buffers kept as the bytes they came in, all fields absent. -/
def Externals.unparsed : Externals where
  ConfigurationProtobuf := Bytes
  HealthProtobuf := Bytes
  parseConfiguration := id
  parseHealth := id
  rangeResolutionMetres _ := .finite 0
  scaling := ⟨id, id⟩

structure FftData where
  angle : ExtRat
  azimuth : UInt16
  sweepCounter : UInt16
  ntpSeconds : UInt32
  ntpSplitSeconds : UInt32
  data : Bytes
deriving DecidableEq, Repr

structure NavigationData where
  angle : ExtRat
  azimuth : UInt16
  ntpSeconds : UInt32
  ntpSplitSeconds : UInt32
  peaks : List (ℚ × UInt16)
deriving DecidableEq, Repr

structure ConfigurationData where
  azimuthSamples : UInt16
  encoderSize : UInt16
  binSize : ExtRat
  rangeInBins : UInt16
  expectedRotationRate : UInt16
  rangeGain : Binary32
  rangeOffset : Binary32
deriving DecidableEq, Repr

structure NavigationConfig where
  binsToOperateOn : UInt16
  minBin : UInt16
  navigationThreshold : Binary32
  maxPeaksPerAzimuth : UInt32
deriving DecidableEq, Repr

def rangeMultiplier : Nat := 1000000

def navDataRecordLength : Nat := 4 + 2

/-- What the client hands out. -/
inductive Output (x : Externals) where
  | send (data : Bytes)
  | fftData (data : FftData)
  | rawFftData (data : Bytes)
  | navigationData (data : NavigationData)
  | configurationData (data : ConfigurationData) (protobuf : x.ConfigurationProtobuf)
  | rawConfigurationData (data : Bytes)
  | healthData (protobuf : x.HealthProtobuf)
  | navigationConfig (data : NavigationConfig)

/-- The bytes of an output that goes to `Tcp_radar_client::send`. -/
def Output.sent {x : Externals} : Output x → Option Bytes
  | .send data => some data
  | _ => none

structure RadarClient where
  /-- `get_connection_state()` is `connected`. -/
  connected : Bool
  sendRadarData : Bool
  rawFftDataCallback : Bool
  fftDataCallback : Bool
  navigationDataCallback : Bool
  configurationDataCallback : Bool
  rawConfigurationDataCallback : Bool
  healthDataCallback : Bool
  navigationConfigCallback : Bool
  encoderSize : UInt16
  binSize : ExtRat
deriving DecidableEq, Repr

namespace RadarClient

variable {x : Externals}

/-- After the constructor. -/
def new : RadarClient where
  connected := false
  sendRadarData := false
  rawFftDataCallback := false
  fftDataCallback := false
  navigationDataCallback := false
  configurationDataCallback := false
  rawConfigurationDataCallback := false
  healthDataCallback := false
  navigationConfigCallback := false
  encoderSize := 0
  binSize := .finite 0

/-! ## Callbacks -/

section Callbacks

variable (c : RadarClient) (fn : Bool)

def setFftDataCallback : RadarClient := { c with fftDataCallback := fn }

def setRawFftDataCallback : RadarClient := { c with rawFftDataCallback := fn }

def setNavigationDataCallback : RadarClient := { c with navigationDataCallback := fn }

def setConfigurationDataCallback : RadarClient := { c with configurationDataCallback := fn }

def setRawConfigurationDataCallback : RadarClient := { c with rawConfigurationDataCallback := fn }

def setHealthDataCallback : RadarClient := { c with healthDataCallback := fn }

def setNavigationConfigCallback : RadarClient := { c with navigationConfigCallback := fn }

end Callbacks

/-! ## Requests -/

def sendSimpleNetworkMessage (c : RadarClient) (type : MessageType) : List (Output x) :=
  if c.connected then [.send (Message.default.setType type).relinquish] else []

def startFftData (c : RadarClient) : RadarClient × List (Output x) :=
  ({ c with sendRadarData := true }, c.sendSimpleNetworkMessage .startFftData)

def startNonContourFftData (c : RadarClient) : RadarClient × List (Output x) :=
  ({ c with sendRadarData := true }, c.sendSimpleNetworkMessage .startNonContourFftData)

def stopFftData (c : RadarClient) : RadarClient × List (Output x) :=
  ({ c with sendRadarData := false }, c.sendSimpleNetworkMessage .stopFftData)

def startHealthData (c : RadarClient) : RadarClient × List (Output x) :=
  (c, c.sendSimpleNetworkMessage .startHealthMsgs)

def stopHealthData (c : RadarClient) : RadarClient × List (Output x) :=
  (c, c.sendSimpleNetworkMessage .stopHealthMsgs)

def startNavigationData (c : RadarClient) : RadarClient × List (Output x) :=
  (c, c.sendSimpleNetworkMessage .startNavData)

def stopNavigationData (c : RadarClient) : RadarClient × List (Output x) :=
  (c, c.sendSimpleNetworkMessage .stopNavData)

def requestNavigationConfiguration (c : RadarClient) : RadarClient × List (Output x) :=
  (c, c.sendSimpleNetworkMessage .navigationConfigRequest)

/-! ## Handlers -/

/-- `(azimuth * 360.0f) / encoder_size`. -/
def angle (azimuth encoderSize : UInt16) : ExtRat :=
  ExtRat.div (azimuth.toNat * 360) encoderSize.toNat

/-- The members of `configuration_data`; `bin_size` comes from the protocol buffer. -/
def configurationData (binSize : ExtRat) (config : Bytes) : Except Fault ConfigurationData := do
  let encoderSize ← Network.Configuration.encoderSize config
  let azimuthSamples ← Network.Configuration.azimuthSamples config
  let rangeInBins ← Network.Configuration.rangeInBins config
  let rotationSpeed ← Network.Configuration.rotationSpeed config
  let rangeGain ← Network.Configuration.rangeGain config
  let rangeOffset ← Network.Configuration.rangeOffset config
  return {
    azimuthSamples := azimuthSamples
    encoderSize := encoderSize
    binSize := binSize
    rangeInBins := rangeInBins
    expectedRotationRate := rotationSpeed / 1000
    rangeGain := rangeGain
    rangeOffset := rangeOffset }

/-- The part of `handle_configuration_message` that runs where a callback is set. -/
def takeConfiguration (c : RadarClient) (config : Bytes) :
    Except Fault (RadarClient × List (Output x)) := do
  let protobuf := x.parseConfiguration (← Network.MessageBase.toString Network.Configuration.size config)
  let start := if c.sendRadarData then c.sendSimpleNetworkMessage .startFftData else []
  let data ← configurationData (x.rangeResolutionMetres protobuf) config
  return ({ c with encoderSize := data.encoderSize, binSize := data.binSize },
    start ++ [.configurationData data protobuf])

def handleConfigurationMessage (c : RadarClient) (msg : Message) :
    Except Fault (RadarClient × List (Output x)) := do
  let r ← (if c.configurationDataCallback then c.takeConfiguration msg.data else .ok (c, []))
  if c.rawConfigurationDataCallback then
    return (r.1, r.2 ++ [.rawConfigurationData msg.relinquish])
  else
    return r

def handleHealthMessage (c : RadarClient) (msg : Message) :
    Except Fault (RadarClient × List (Output x)) :=
  if c.healthDataCallback then do
    let health ← Network.MessageBase.toString Network.Health.size msg.data
    return (c, [.healthData (x.parseHealth health)])
  else
    return (c, [])

/-- The members of `fftData`. -/
def fftData (encoderSize : UInt16) (view : Bytes) : Except Fault FftData := do
  let azimuth ← Network.FftData.azimuth view
  let sweepCounter ← Network.FftData.sweepCounter view
  let ntpSeconds ← Network.FftData.ntpSeconds view
  let ntpSplitSeconds ← Network.FftData.ntpSplitSeconds view
  let data ← toVector Network.FftData.size view
  return {
    angle := angle azimuth encoderSize
    azimuth := azimuth
    sweepCounter := sweepCounter
    ntpSeconds := ntpSeconds
    ntpSplitSeconds := ntpSplitSeconds
    data := data }

def handleFftDataMessage (c : RadarClient) (msg : Message) :
    Except Fault (RadarClient × List (Output x)) := do
  let out ← (if c.fftDataCallback then (fftData c.encoderSize msg.data).map ([.fftData ·])
    else .ok [])
  if c.rawFftDataCallback then
    return (c, out ++ [.rawFftData msg.relinquish])
  else
    return (c, out)

/-- The loop over the records of `targets`, with this many to go and `i` at the next one. -/
def peaks (targets : Bytes) : Nat → Nat → Except Fault (List (ℚ × UInt16))
  | 0, _ => .ok []
  | count + 1, i => do
    let peakResolve ← read 4 targets i
    let power ← read 2 targets (i + 4)
    let others ← peaks targets count (i + navDataRecordLength)
    return ((htonl (UInt32.ofNat peakResolve)).toNat / rangeMultiplier,
      htons (UInt16.ofNat power)) :: others

/-- The members of `navigation_data`. -/
def navigationData (encoderSize : UInt16) (view : Bytes) : Except Fault NavigationData := do
  let targets ← toVector Network.NavigationData.size view
  let azimuth ← Network.NavigationData.azimuth view
  let ntpSeconds ← Network.NavigationData.ntpSeconds view
  let ntpSplitSeconds ← Network.NavigationData.ntpSplitSeconds view
  let peaks ← peaks targets (targets.length / navDataRecordLength) 0
  return {
    angle := angle azimuth encoderSize
    azimuth := azimuth
    ntpSeconds := ntpSeconds
    ntpSplitSeconds := ntpSplitSeconds
    peaks := peaks }

def handleNavigationDataMessage (c : RadarClient) (msg : Message) :
    Except Fault (RadarClient × List (Output x)) :=
  if c.navigationDataCallback then do
    let data ← navigationData c.encoderSize msg.data
    return (c, [.navigationData data])
  else
    return (c, [])

/-- The members of `navigation_config`. -/
def navigationConfig (scaling : FloatScaling) (view : Bytes) : Except Fault NavigationConfig := do
  let binsToOperateOn ← Network.NavigationConfig.binsToOperateOn view
  let minBin ← Network.NavigationConfig.minBinToOperateOn view
  let navigationThreshold ← Network.NavigationConfig.navigationThreshold scaling view
  let maxPeaksPerAzimuth ← Network.NavigationConfig.maxPeaksPerAzimuth view
  return {
    binsToOperateOn := binsToOperateOn
    minBin := minBin
    navigationThreshold := navigationThreshold
    maxPeaksPerAzimuth := maxPeaksPerAzimuth }

def handleNavigationConfigMessage (c : RadarClient) (msg : Message) :
    Except Fault (RadarClient × List (Output x)) :=
  if c.navigationConfigCallback then do
    let data ← navigationConfig x.scaling msg.data
    return (c, [.navigationConfig data])
  else
    return (c, [])

def handleData (c : RadarClient) (data : Bytes) : Except Fault (RadarClient × List (Output x)) :=
  let msg := Message.ofBuffer data
  if msg.type = .configuration then c.handleConfigurationMessage msg
  else if msg.type = .fftData then c.handleFftDataMessage msg
  else if msg.type = .navigationData then c.handleNavigationDataMessage msg
  else if msg.type = .navigationAlarmData then return (c, [])
  else if msg.type = .health then c.handleHealthMessage msg
  else if msg.type = .navigationConfiguration then c.handleNavigationConfigMessage msg
  else return (c, [])

end RadarClient

end Navtech
