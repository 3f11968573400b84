/-
  The commands of the first SDK, `RadarClient` of `cpp/radarclient.cpp`: the bytes that each
  passes to `TcpRadarClient::Send`. A command that is given while the client is not connected
  sends nothing.

  A conversion of a number that does not fit its type is left to the machine; the commands are
  meant for numbers that fit.
-/
import Navtech.Legacy.NetworkDataMessage

namespace Navtech.Legacy

open ByteOrder Navtech.Utility
open Navtech.Network (Bytes)

/-- The members that the commands read. -/
structure RadarClient where
  /-- `GetConnectionState()` is `Connected`. -/
  connected : Bool
  sendRadarData : Bool
  binSize : UInt16
deriving DecidableEq, Repr

namespace RadarClient

/-- `RANGE_MULTIPLIER`, a `float`. -/
def rangeMultiplier : Float32 := 1000000

/-- The message of a header and a payload, if it is sent. -/
def send (c : RadarClient) (header : NetworkDataHeader) (payload : Bytes) : List Bytes :=
  if c.connected then [NetworkDataMessage.messageData ⟨header, payload⟩] else []

/-- `SendSimpleNetworkMessage`: a header and no payload. -/
def sendSimpleNetworkMessage (c : RadarClient) (type : CNDPNetworkDataMessageType) : List Bytes :=
  c.send (NetworkDataHeader.init.setMessageId type) []

/-- `StartFFTData` notes that the stream is wanted, connected or not. -/
def startFFTData (c : RadarClient) : RadarClient × List Bytes :=
  ({ c with sendRadarData := true }, c.sendSimpleNetworkMessage .startFFTData)

/-- `StopFFTData` notes that it is not. -/
def stopFFTData (c : RadarClient) : RadarClient × List Bytes :=
  ({ c with sendRadarData := false }, c.sendSimpleNetworkMessage .stopFFTData)

/-- `StartNavigationData`, of which nothing is noted. -/
def startNavigationData (c : RadarClient) : RadarClient × List Bytes :=
  (c, c.sendSimpleNetworkMessage .startNavData)

def stopNavigationData (c : RadarClient) : RadarClient × List Bytes :=
  (c, c.sendSimpleNetworkMessage .stopNavData)

/-- `SetNavigationThreshold`: two bytes in network order. -/
def setNavigationThreshold (c : RadarClient) (threshold : UInt16) : RadarClient × List Bytes :=
  let networkThreshold := ntohs threshold
  let buffer := leBytes 2 networkThreshold.toNat
  let header := (NetworkDataHeader.init.setMessageId .setNavThreshold).setPayloadLength 2
  (c, c.send header buffer)

/-- `SetNavigationGainAndOffset`: both in millionths, a product of `float`s cut off to an integer.
    -/
def setNavigationGainAndOffset (c : RadarClient) (gain offset : Float32) :
    RadarClient × List Bytes :=
  let netGain := htonl (gain * rangeMultiplier).toUInt32
  let netOffset := htonl (offset * rangeMultiplier).toUInt32
  let buffer := leBytes 4 netGain.toNat ++ leBytes 4 netOffset.toNat
  let header := (NetworkDataHeader.init.setMessageId .setNavRangeOffsetAndGain).setPayloadLength
    (4 + 4)
  (c, c.send header buffer)

/-- The loop of `UpdateContourMap`, two bytes at a time. -/
def scaledContour (resolution : Float) : Bytes → Bytes
  | high :: low :: contourData =>
    let result := (high.toNat <<< 8) ||| low.toNat
    let result := (Float.ofNat result / resolution).ceil.toUInt16
    ((result &&& 0xff00) >>> 8).toUInt8 :: (result &&& 0x00ff).toUInt8 ::
      scaledContour resolution contourData
  | _ => []

/-- `UpdateContourMap` scales a map of 720 bytes, and sends an empty one for any other. -/
def updateContourMap (c : RadarClient) (contourData : Bytes) : RadarClient × List Bytes :=
  let contour :=
    if contourData.length = 720 then scaledContour (Float.ofNat c.binSize.toNat / 10000) contourData
    else []
  let header := (NetworkDataHeader.init.setMessageId .contourUpdate).setPayloadLength
    (UInt32.ofNat contour.length)
  (c, c.send header contour)

/-! ## Frames -/

/-- What is sent is the frame of the type and the payload. -/
theorem send_eq (c : RadarClient) (type : CNDPNetworkDataMessageType) {payload : Bytes}
    {length : UInt32} (hlen : length.toNat = payload.length) :
    c.send ((NetworkDataHeader.init.setMessageId type).setPayloadLength length) payload =
      if c.connected then [Network.frameBytes type payload] else [] := by
  unfold send
  rw [messageData_eq, toData_init, hlen]
  rfl

theorem sendSimpleNetworkMessage_eq (c : RadarClient) (type : CNDPNetworkDataMessageType) :
    c.sendSimpleNetworkMessage type =
      if c.connected then [Network.frameBytes type []] else [] := by
  unfold sendSimpleNetworkMessage send
  rw [messageData_eq, toData_init_zero]
  rfl

theorem setNavigationThreshold_eq (c : RadarClient) (threshold : UInt16) :
    (c.setNavigationThreshold threshold).2 =
      if c.connected then [Network.frameBytes 122 (beBytes 2 threshold.toNat)] else [] := by
  have hword : leBytes 2 (ntohs threshold).toNat = beBytes 2 threshold.toNat := by
    rw [toNat_ntohs, leBytes_byteSwap]
  have hlength : (2 : UInt32).toNat = (beBytes 2 threshold.toNat).length :=
    (length_beBytes 2 _).symm
  unfold setNavigationThreshold
  dsimp only
  rw [hword]
  exact send_eq _ _ hlength

theorem setNavigationGainAndOffset_eq (c : RadarClient) (gain offset : Float32) :
    (c.setNavigationGainAndOffset gain offset).2 =
      if c.connected then
        [Network.frameBytes 124 (beBytes 4 (gain * rangeMultiplier).toUInt32.toNat ++
          beBytes 4 (offset * rangeMultiplier).toUInt32.toNat)]
      else [] := by
  have hword (v : UInt32) : leBytes 4 (htonl v).toNat = beBytes 4 v.toNat := by
    rw [toNat_htonl, leBytes_byteSwap]
  unfold setNavigationGainAndOffset
  dsimp only
  rw [hword, hword]
  exact send_eq _ _ (by rw [List.length_append, length_beBytes, length_beBytes]; rfl)

/-- What a contour map carries. -/
def contour (binSize : UInt16) (contourData : Bytes) : Bytes :=
  if contourData.length = 720 then scaledContour (Float.ofNat binSize.toNat / 10000) contourData
  else []

theorem length_scaledContour (resolution : Float) (contourData : Bytes) :
    (scaledContour resolution contourData).length ≤ contourData.length := by
  fun_induction scaledContour resolution contourData with
  | case1 high low contourData result scaled ih =>
    simp only [List.length_cons]
    omega
  | case2 => exact Nat.zero_le _

theorem length_contour_lt (binSize : UInt16) (contourData : Bytes) :
    (contour binSize contourData).length < 2 ^ 32 := by
  unfold contour
  split
  · have hlen := length_scaledContour (Float.ofNat binSize.toNat / 10000) contourData
    omega
  · decide

theorem updateContourMap_eq (c : RadarClient) (contourData : Bytes) :
    (c.updateContourMap contourData).2 =
      if c.connected then [Network.frameBytes 50 (contour c.binSize contourData)] else [] :=
  send_eq _ _ (UInt32.toNat_ofNat_of_lt (length_contour_lt c.binSize contourData))

end RadarClient

end Navtech.Legacy
