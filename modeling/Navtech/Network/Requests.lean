/-
  The requests of `Radar_client` of `cpp_17/network/radar_client.cpp`, and what each puts into a
  frame.

  Eight requests are a header without a payload. The others append a buffer that is put together
  in network order: a threshold, gain and offset, a contour map, a list of sectors; the
  configuration of the navigation mode is a `Navigation_config`, filled by its setters. All look
  at the connection state first but the last two, `set_navigation_configuration` and
  `set_blanking_sectors`, which leave that to `Tcp_radar_client::send`.

  `payload` says what the frame of a request carries, in network order, without the calls that
  build it; `issue_outputs` is the bridge to the code. `Understood` says what is read from such a
  frame by the reverse functions that the SDK has (`understood`).
-/
import Navtech.Lib.Machine
import Navtech.Navigation.SectorBlanking
import Navtech.Network.ContourMap
import Navtech.Network.GainAndOffset
import Navtech.Network.TypedRoundTrip

namespace Navtech

open ByteOrder Buffer PackedRecord CheckedView Navtech.Utility
open Navtech.Network (Bytes Frame FloatScaling Message MessageType frameBytes drop_frameBytes)

namespace Network.MessageType

def sectorBlankingUpdate : MessageType := 51
def setNavThreshold : MessageType := 122

/-- `set_navigation_configuration` fills a `Navigation_config`, and sends it without a look at the
    connection. -/
def setNavigationConfiguration : MessageType := 205

end Network.MessageType

/-- What the conversions of a number without a place in the target type give. -/
structure Conversions where
  uint16 : ExtRat → UInt16
  uint32 : ExtRat → UInt32

namespace RadarClient

variable {x : Externals}

/-- `set_navigation_threshold`: two bytes in network order. -/
def setNavigationThreshold (c : RadarClient) (threshold : UInt16) :
    RadarClient × List (Output x) :=
  if c.connected then
    let buffer := List.replicate 2 0
    let networkThreshold := ntohs threshold
    let buffer := store 2 buffer 0 networkThreshold.toNat
    (c, [.send ((Message.default.setType .setNavThreshold).append buffer).relinquish])
  else (c, [])

def setNavigationConfiguration (c : RadarClient) (cfg : NavigationConfig) :
    RadarClient × List (Output x) :=
  let navConfig := Network.MessageBase.object Network.NavigationConfig.size
  let navConfig := Network.NavigationConfig.setBinsToOperateOn navConfig cfg.binsToOperateOn
  let navConfig := Network.NavigationConfig.setMinBinToOperateOn navConfig cfg.minBin
  let navConfig :=
    Network.NavigationConfig.setNavigationThreshold x.scaling navConfig cfg.navigationThreshold
  let navConfig :=
    Network.NavigationConfig.setMaxPeaksPerAzimuth navConfig cfg.maxPeaksPerAzimuth
  let msg := (Message.default.setType .setNavigationConfiguration).appendHeader
    (Network.MessageBase.header Network.NavigationConfig.size navConfig)
  (c, [.send msg.relinquish])

/-- `set_blanking_sectors`, also without. -/
def setBlankingSectors (c : RadarClient) (sectorList : BlankingSectorList) :
    RadarClient × List (Output x) :=
  (c, [.send ((Message.default.setType .sectorBlankingUpdate).appendMove
    sectorList.toVector).relinquish])

/-! ## Requests -/

/-- The member functions that send. -/
inductive Request where
  | startFftData
  | startNonContourFftData
  | stopFftData
  | startHealthData
  | stopHealthData
  | startNavigationData
  | stopNavigationData
  | requestNavigationConfiguration
  | setNavigationThreshold (threshold : UInt16)
  | setNavigationGainAndOffset (gain offset : Binary32)
  | setNavigationConfiguration (cfg : NavigationConfig)
  | setBlankingSectors (sectorList : BlankingSectorList)
  | updateContourMap (contourData : Bytes)
deriving DecidableEq

/-- The call of a request. -/
def issue (conv : Conversions) (c : RadarClient) : Request → RadarClient × List (Output x)
  | .startFftData => c.startFftData
  | .startNonContourFftData => c.startNonContourFftData
  | .stopFftData => c.stopFftData
  | .startHealthData => c.startHealthData
  | .stopHealthData => c.stopHealthData
  | .startNavigationData => c.startNavigationData
  | .stopNavigationData => c.stopNavigationData
  | .requestNavigationConfiguration => c.requestNavigationConfiguration
  | .setNavigationThreshold threshold => c.setNavigationThreshold threshold
  | .setNavigationGainAndOffset gain offset =>
    c.setNavigationGainAndOffset conv.uint32 gain offset
  | .setNavigationConfiguration cfg => c.setNavigationConfiguration cfg
  | .setBlankingSectors sectorList => c.setBlankingSectors sectorList
  | .updateContourMap contourData => c.updateContourMap conv.uint16 contourData

namespace Request

/-- The type of its message. -/
def type : Request → MessageType
  | startFftData => .startFftData
  | startNonContourFftData => .startNonContourFftData
  | stopFftData => .stopFftData
  | startHealthData => .startHealthMsgs
  | stopHealthData => .stopHealthMsgs
  | startNavigationData => .startNavData
  | stopNavigationData => .stopNavData
  | requestNavigationConfiguration => .navigationConfigRequest
  | setNavigationThreshold _ => .setNavThreshold
  | setNavigationGainAndOffset _ _ => .setNavRangeOffsetAndGain
  | setNavigationConfiguration _ => .setNavigationConfiguration
  | setBlankingSectors _ => .sectorBlankingUpdate
  | updateContourMap _ => .contourUpdate

/-- The members of a `Navigation_config`, as the setters leave them. -/
def configValues (scaling : FloatScaling) (cfg : NavigationConfig) :
    Network.NavigationConfig.Values :=
  ⟨cfg.binsToOperateOn, cfg.minBin, scaling.mul10 cfg.navigationThreshold, cfg.maxPeaksPerAzimuth⟩

/-- What the frame carries. The client's bin size goes into a contour map. -/
def payload (conv : Conversions) (scaling : FloatScaling) (c : RadarClient) : Request → Bytes
  | setNavigationThreshold threshold => beBytes 2 threshold.toNat
  | setNavigationGainAndOffset gain offset =>
    beBytes 4 (scaledWord conv.uint32 gain).toNat ++ beBytes 4 (scaledWord conv.uint32 offset).toNat
  | setNavigationConfiguration cfg =>
    packed Network.NavigationConfig.layout
      (Network.NavigationConfig.words (configValues scaling cfg))
  | setBlankingSectors sectorList => sectorList.toVector
  | updateContourMap contourData =>
    if contourData.length = 720 then
      wordBytes ((mapWords contourData).map (scaledContour conv.uint16 c.binSize))
    else []
  | _ => []

/-- The frame that goes out. -/
def bytes (conv : Conversions) (scaling : FloatScaling) (c : RadarClient) (r : Request) : Bytes :=
  frameBytes r.type (r.payload conv scaling c)

/-- The request looks at the connection state itself. -/
def looks : Request → Bool
  | setNavigationConfiguration _ => false
  | setBlankingSectors _ => false
  | _ => true

end Request

/-! ## What a request sends -/

section Sent

variable {c : RadarClient}

theorem sendSimpleNetworkMessage_eq (c : RadarClient) (type : MessageType) :
    c.sendSimpleNetworkMessage (x := x) type =
      if c.connected then [.send (frameBytes type [])] else [] := by
  unfold sendSimpleNetworkMessage
  rw [Message.default_eq, Message.setType_frameBytes, Message.relinquish_frameBytes]

/-- A request without a payload: its frame, if there is a connection. -/
def request (connected : Bool) (type : MessageType) : List Bytes :=
  if connected then [frameBytes type []] else []

/-- The start that the client repeats at a configuration, if it remembers one. -/
def resumed (started connected : Bool) : List Bytes :=
  if started then request connected .startFftData else []

theorem sent_request (c : RadarClient) (type : MessageType) :
    (c.sendSimpleNetworkMessage (x := x) type).filterMap Output.sent =
      request c.connected type := by
  rw [sendSimpleNetworkMessage_eq]
  unfold request
  split
  · rfl
  · rfl

section Programs

variable {S O ε : Type} {handOut : S → Output x → Except ε (S × List O)} {send : Bytes → O}

/-- What the client sends, as the effect `send` of the program that has the client. -/
def sends (send : Bytes → O) (outputs : List (Output x)) : List O :=
  (outputs.filterMap Output.sent).map send

theorem sends_request (send : Bytes → O) (c : RadarClient) (type : MessageType) :
    sends send (c.sendSimpleNetworkMessage (x := x) type) =
      (request c.connected type).map send :=
  congrArg (List.map send) (sent_request c type)

/-- A program that passes on what its client sends is not changed by a request. -/
theorem run_simple (hsend : ∀ s data, handOut s (.send data) = .ok (s, [send data])) (s : S)
    (c : RadarClient) (type : MessageType) :
    Machine.run handOut s (c.sendSimpleNetworkMessage type) =
      .ok (s, (request c.connected type).map send) := by
  rw [sendSimpleNetworkMessage_eq]
  unfold request
  split
  · rw [Machine.run_one, hsend]
    rfl
  · rfl

/-- Nor by the start that comes before a configuration. -/
theorem run_resumed (hsend : ∀ s data, handOut s (.send data) = .ok (s, [send data])) (s : S)
    (c : RadarClient) :
    Machine.run handOut s
        (if c.sendRadarData then c.sendSimpleNetworkMessage .startFftData else []) =
      .ok (s, (resumed c.sendRadarData c.connected).map send) := by
  unfold resumed
  split
  · exact run_simple hsend s c .startFftData
  · rfl

end Programs

/-- A message with one appended buffer. -/
theorem relinquish_append (type : MessageType) (buffer : Bytes) :
    ((Message.default.setType type).append buffer).relinquish = frameBytes type buffer := by
  unfold Message.append
  rw [Message.default_eq, Message.setType_frameBytes, Message.appendBytes_frameBytes,
    Message.relinquish_frameBytes, List.nil_append]

theorem setNavigationThreshold_sent (hc : c.connected = true) (threshold : UInt16) :
    (c.setNavigationThreshold (x := x) threshold).2 =
      [.send (frameBytes .setNavThreshold (beBytes 2 threshold.toNat))] := by
  have hbuffer : store 2 (List.replicate 2 0) 0 (byteSwap 2 threshold.toNat) =
      beBytes 2 threshold.toNat := by
    have hlength : (List.replicate 2 (0 : UInt8)).length = (beBytes 2 threshold.toNat).length := by
      rw [List.length_replicate, length_beBytes]
    have h := copyTo_zero_append (c := []) hlength
    rw [List.append_nil, List.append_nil] at h
    unfold store
    rw [leBytes_byteSwap, h]
  unfold setNavigationThreshold
  dsimp only
  rw [if_pos hc, toNat_ntohs, hbuffer, relinquish_append]

/-- The object that the setters build. -/
theorem header_navConfig (scaling : FloatScaling) (cfg : NavigationConfig) :
    Network.MessageBase.header Network.NavigationConfig.size
      (Network.NavigationConfig.setMaxPeaksPerAzimuth
        (Network.NavigationConfig.setNavigationThreshold scaling
          (Network.NavigationConfig.setMinBinToOperateOn
            (Network.NavigationConfig.setBinsToOperateOn
              (Network.MessageBase.object Network.NavigationConfig.size) cfg.binsToOperateOn)
            cfg.minBin) cfg.navigationThreshold) cfg.maxPeaksPerAzimuth) =
      packed Network.NavigationConfig.layout
        (Network.NavigationConfig.words (Request.configValues scaling cfg)) :=
  Network.MessageClass.header_object (c := Network.NavigationConfig.messageClass scaling)
    [.binsToOperateOn cfg.binsToOperateOn, .minBinToOperateOn cfg.minBin,
      .navigationThreshold cfg.navigationThreshold, .maxPeaksPerAzimuth cfg.maxPeaksPerAzimuth]

theorem setNavigationConfiguration_sent (c : RadarClient) (cfg : NavigationConfig) :
    (c.setNavigationConfiguration (x := x) cfg).2 =
      [.send (frameBytes .setNavigationConfiguration (packed Network.NavigationConfig.layout
        (Network.NavigationConfig.words (Request.configValues x.scaling cfg))))] := by
  unfold setNavigationConfiguration
  dsimp only
  rw [header_navConfig, Message.default_eq, Message.setType_frameBytes,
    Message.appendHeader_of_empty, Message.relinquish_frameBytes]

theorem setBlankingSectors_sent (c : RadarClient) (sectorList : BlankingSectorList) :
    (c.setBlankingSectors (x := x) sectorList).2 =
      [.send (frameBytes .sectorBlankingUpdate sectorList.toVector)] :=
  congrArg (fun data => [Output.send data]) (relinquish_append _ _)

theorem updateContourMap_sent (undefined : ExtRat → UInt16) (hc : c.connected = true)
    (contourData : Bytes) :
    (c.updateContourMap (x := x) undefined contourData).2 =
      [.send (frameBytes .contourUpdate (if contourData.length = 720 then
        wordBytes ((mapWords contourData).map (scaledContour undefined c.binSize)) else []))] := by
  unfold updateContourMap
  dsimp only
  rw [if_pos hc, convertContour_eq, relinquish_append]

/-- **What a request hands to `Tcp_radar_client::send`**: its frame, unless it has looked at the
    connection state itself and there is no connection. -/
theorem issue_outputs (conv : Conversions) (c : RadarClient) (r : Request) :
    (c.issue (x := x) conv r).2 =
      if c.connected || !r.looks then [.send (r.bytes conv x.scaling c)] else [] := by
  cases hc : c.connected with
  | true =>
    rw [Bool.true_or, if_pos rfl]
    have hsimple (type : MessageType) :
        c.sendSimpleNetworkMessage (x := x) type = [.send (frameBytes type [])] := by
      rw [sendSimpleNetworkMessage_eq, if_pos hc]
    cases r with
    | setNavigationThreshold threshold => exact setNavigationThreshold_sent hc threshold
    | setNavigationGainAndOffset gain offset =>
      exact setNavigationGainAndOffset_sent conv.uint32 hc gain offset
    | setNavigationConfiguration cfg => exact setNavigationConfiguration_sent c cfg
    | setBlankingSectors sectorList => exact setBlankingSectors_sent c sectorList
    | updateContourMap contourData => exact updateContourMap_sent conv.uint16 hc contourData
    | _ => exact hsimple _
  | false =>
    have hnot : ¬ c.connected = true := by simp [hc]
    have hsimple (type : MessageType) : c.sendSimpleNetworkMessage (x := x) type = [] := by
      rw [sendSimpleNetworkMessage_eq, if_neg hnot]
    cases r with
    | setNavigationThreshold threshold => exact congrArg Prod.snd (if_neg hnot)
    | setNavigationGainAndOffset gain offset => exact congrArg Prod.snd (if_neg hnot)
    | setNavigationConfiguration cfg => exact setNavigationConfiguration_sent c cfg
    | setBlankingSectors sectorList => exact setBlankingSectors_sent c sectorList
    | updateContourMap contourData => exact congrArg Prod.snd (if_neg hnot)
    | _ => exact hsimple _

end Sent

/-! ## What is read from a frame -/

/-- What the reverse functions of the SDK read from the frame of a request: words, the values of a
    `Navigation_config`, and the loop of `from_vector` over the sectors. -/
def Understood (conv : Conversions) (scaling : FloatScaling) (c : RadarClient) (frame : Bytes) :
    Request → Prop
  | .setNavigationThreshold threshold =>
    ofBEBytes (slice frame Message.headerSize 2) = threshold.toNat
  | .setNavigationGainAndOffset gain offset =>
    ofBEBytes (slice frame Message.headerSize 4) = (scaledWord conv.uint32 gain).toNat ∧
      ofBEBytes (slice frame (Message.headerSize + 4) 4) = (scaledWord conv.uint32 offset).toNat
  | .setNavigationConfiguration cfg =>
    navigationConfig scaling frame = .ok { cfg with
      navigationThreshold := scaling.div10 (scaling.mul10 cfg.navigationThreshold) }
  | .setBlankingSectors sectorList =>
    (∀ s ∈ sectorList.sectors, s.InRange) →
      BlankingSectorList.readSectors 0 (frame.drop Message.headerSize) sectorList.sectors.length 1
        [] = some sectorList.sectors
  | .updateContourMap contourData =>
    contourData.length = 720 → mapWords (frame.drop Message.headerSize) =
      (mapWords contourData).map fun word => (scaledContour conv.uint16 c.binSize word).toNat
  | _ => frame.drop Message.headerSize = []

theorem mapWords_wordBytes (words : List UInt16) :
    mapWords (wordBytes words) = words.map UInt16.toNat := by
  induction words with
  | nil => rfl
  | cons word words ih =>
    have hword : ofBEBytes (beBytes 2 word.toNat) = word.toNat := by
      rw [ofBEBytes_beBytes]
      exact Nat.mod_eq_of_lt word.toNat_lt
    rw [wordBytes_cons, List.map_cons, ← ih]
    exact congrArg (· :: mapWords (wordBytes words)) hword

/-- A word of a payload, read where it was put. -/
theorem ofBEBytes_slice_frame (type : MessageType) (n : Nat) (pre post : Bytes) {off v : Nat}
    (hoff : pre.length = off) (hv : v < 256 ^ n) :
    ofBEBytes (slice (frameBytes type (pre ++ beBytes n v ++ post)) (Message.headerSize + off) n) =
      v := by
  have hframe : frameBytes type (pre ++ beBytes n v ++ post) =
      Network.headerBytes type (pre ++ beBytes n v ++ post).length ++ pre ++ beBytes n v ++ post := by
    simp [frameBytes]
  rw [hframe, slice_append _ (length_beBytes n v), ofBEBytes_beBytes, Nat.mod_eq_of_lt hv]
  rw [List.length_append, Network.length_headerBytes, hoff]

/-- The members of a configuration, as `handle_navigation_config_message` reads them. -/
theorem navigationConfig_image (scaling : FloatScaling) (m : Network.NavigationConfig.Values)
    {base payload : Bytes} (hbase : base.length = Network.MessageBase.beginOffset) :
    navigationConfig scaling (Network.image base Network.NavigationConfig.layout
      (Network.NavigationConfig.words m) payload) =
      .ok ⟨m.binsToOperateOn, m.minBinToOperateOn, scaling.div10 m.navigationThreshold,
        m.maxPeaksPerAzimuth⟩ := by
  unfold navigationConfig Network.NavigationConfig.binsToOperateOn
    Network.NavigationConfig.minBinToOperateOn Network.NavigationConfig.navigationThreshold
    Network.NavigationConfig.maxPeaksPerAzimuth
  rw [Network.uint16At_image hbase rfl rfl, Network.uint16At_image hbase rfl rfl,
    Network.floatAt_image hbase rfl rfl, Network.uint32At_image hbase rfl rfl]
  rfl

theorem Request.drop_bytes (conv : Conversions) (scaling : FloatScaling) (c : RadarClient)
    (r : Request) :
    (r.bytes conv scaling c).drop Message.headerSize = r.payload conv scaling c :=
  drop_frameBytes _ _

/-- **A request is understood** from its frame. -/
theorem understood (conv : Conversions) (scaling : FloatScaling) (c : RadarClient) (r : Request) :
    Understood conv scaling c (r.bytes conv scaling c) r := by
  cases r with
  | setNavigationThreshold threshold =>
    have h := ofBEBytes_slice_frame .setNavThreshold 2 [] [] rfl threshold.toNat_lt
    rw [List.append_nil, List.nil_append] at h
    exact h
  | setNavigationGainAndOffset gain offset =>
    have hgain := ofBEBytes_slice_frame .setNavRangeOffsetAndGain 4 []
      (beBytes 4 (scaledWord conv.uint32 offset).toNat) rfl (scaledWord conv.uint32 gain).toNat_lt
    have hoffset := ofBEBytes_slice_frame .setNavRangeOffsetAndGain 4
      (beBytes 4 (scaledWord conv.uint32 gain).toNat) [] (length_beBytes _ _)
      (scaledWord conv.uint32 offset).toNat_lt
    rw [List.append_nil] at hoffset
    exact ⟨hgain, hoffset⟩
  | setNavigationConfiguration cfg =>
    have hframe := Network.frameBytes_eq_image .setNavigationConfiguration
      Network.NavigationConfig.layout
      (Network.NavigationConfig.words (Request.configValues scaling cfg)) []
    rw [List.append_nil] at hframe
    exact (congrArg (navigationConfig scaling) hframe).trans
      (navigationConfig_image scaling _ (Network.length_headerBytes _ _))
  | setBlankingSectors sectorList =>
    intro hrange
    rw [Request.drop_bytes]
    exact BlankingSectorList.readSectors_image 0 hrange [UInt8.ofNat sectorList.sectors.length] rfl
      [] rfl
  | updateContourMap contourData =>
    intro hlength
    have hpayload : (Request.updateContourMap contourData).payload conv scaling c =
        wordBytes ((mapWords contourData).map (scaledContour conv.uint16 c.binSize)) :=
      if_pos hlength
    rw [Request.drop_bytes, hpayload, mapWords_wordBytes, List.map_map]
    rfl
  | _ => exact Request.drop_bytes conv scaling c _

end RadarClient

end Navtech
