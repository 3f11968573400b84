/-
  Do `RadarTcpClient` and the first C++ SDK's `RadarClient` send the same bytes for the same
  command?

  Each client builds a frame from a type and a payload (`csharp_eq`, `cpp_eq`), so two commands
  send the same bytes if the types and the payloads are the same. They are, for every
  command but the contour map, whose type differs. The payload of the contour map is the same
  too (`scaledContour_eq`).
-/
import Navtech.IASDK.RadarTcpClient
import Navtech.Legacy.RadarClient

namespace Navtech.IASDK

open ByteOrder ManagedArray Navtech.Utility TcpNetworkDataMessage
open Navtech.Network (Bytes frameBytes length_frameBytes)

/-- The commands that both clients have. -/
inductive Command where
  | startFftData
  | stopFftData
  | startNavigationData
  | stopNavigationData
  | setNavigationThreshold (threshold : UInt16)
  | setNavigationGainAndOffset (gain offset : Float32)
  | updateContourMap (ranges : Vector UInt16 360)

namespace Command

def csharp (ρ : Runtime) (c : RadarTcpClient) : Command → Except Exception (List Bytes)
  | startFftData => c.startFftData ρ
  | stopFftData => c.stopFftData ρ
  | startNavigationData => c.startNavigationData ρ
  | stopNavigationData => c.stopNavigationData ρ
  | setNavigationThreshold threshold => c.setNavigationThreshold ρ threshold
  | setNavigationGainAndOffset gain offset => c.setNavigationGainAndOffset ρ gain offset
  | updateContourMap ranges => c.updateContourMap ρ ranges.toList

/-- The ranges of a contour map are given as bytes, most significant first. -/
def cpp (c : Legacy.RadarClient) : Command → List Bytes
  | startFftData => c.startFFTData.2
  | stopFftData => c.stopFFTData.2
  | startNavigationData => c.startNavigationData.2
  | stopNavigationData => c.stopNavigationData.2
  | setNavigationThreshold threshold => (c.setNavigationThreshold threshold).2
  | setNavigationGainAndOffset gain offset => (c.setNavigationGainAndOffset gain offset).2
  | updateContourMap ranges =>
    (c.updateContourMap (ranges.toList.flatMap fun range => beBytes 2 range.toNat)).2

/-- The message type that the first C++ SDK sends. -/
def type : Command → UInt8
  | startFftData => 21
  | stopFftData => 22
  | startNavigationData => 120
  | stopNavigationData => 121
  | setNavigationThreshold _ => 122
  | setNavigationGainAndOffset _ _ => 124
  | updateContourMap _ => 50

/-- The message type that `RadarTcpClient` sends. -/
def csharpType : Command → UInt8
  | updateContourMap _ => 124
  | command => command.type

/-- The payload that both send. -/
def payload (binSize : UInt16) : Command → Bytes
  | setNavigationThreshold threshold => beBytes 2 threshold.toNat
  | setNavigationGainAndOffset gain offset =>
    beBytes 4 (gain * 1000000).toUInt32.toNat ++ beBytes 4 (offset * 1000000).toUInt32.toNat
  | updateContourMap ranges =>
    ranges.toList.flatMap (RadarTcpClient.contourBytes (Float.ofNat binSize.toNat / 10000))
  | _ => []

end Command

variable {ρ : Runtime} {c : RadarTcpClient}

/-! ## Frames of RadarTcpClient -/

/-- The frame of a message is that of its type and its payload. -/
theorem data_ofPayload (messageType : TcpNetworkDataMessageType) {payload : Bytes}
    (hlen : payload.length < 2 ^ 16) :
    (ofPayload messageType payload).data ρ = .ok (frameBytes messageType payload) := by
  have hroom := ρ.le_maxLength
  have hsize : (ofPayload messageType payload).payloadSize.toInt = payload.length :=
    Int32.toInt_ofNat_of_lt (by omega)
  have hword : (ofPayload messageType payload).payloadSize.toUInt32.toNat = payload.length := by
    have hof : (Int32.ofNat payload.length).toUInt32 = UInt32.ofNat payload.length :=
      Int32.toUInt32_ofNat'
    have hlt : payload.length < 2 ^ 32 := by omega
    have hn : (UInt32.ofNat payload.length).toNat = payload.length := UInt32.toNat_ofNat_of_lt hlt
    exact (congrArg UInt32.toNat hof).trans hn
  have hdata := data_eq_block (ρ := ρ) (m := ofPayload messageType payload) hsize (by
    show 22 + payload.length ≤ ρ.maxLength
    omega)
  rw [hdata, block, hword]
  rfl

theorem sendData_ofType (hc : c.currentConnectionState = .connected)
    (messageType : TcpNetworkDataMessageType) :
    c.sendData ρ (ofType messageType) = .ok [frameBytes messageType []] := by
  have hroom := ρ.le_maxLength
  have hdata := data_eq_block (ρ := ρ) (m := ofType messageType) rfl (by
    show 22 + 0 ≤ ρ.maxLength
    omega)
  rw [RadarTcpClient.sendData, if_pos hc, hdata]
  simp [block, body, ofType]
  rfl

theorem sendData_ofPayload (hc : c.currentConnectionState = .connected)
    (messageType : TcpNetworkDataMessageType) {payload : Bytes} (hlen : payload.length < 2 ^ 16) :
    c.sendData ρ (ofPayload messageType payload) = .ok [frameBytes messageType payload] := by
  rw [RadarTcpClient.sendData, if_pos hc, data_ofPayload messageType hlen]
  rfl

/-! ## Payloads -/

/-- Two bytes, most significant first, put together. -/
theorem shiftLeft_or_beBytes (v : UInt16) :
    ∃ high low : UInt8, beBytes 2 v.toNat = [high, low] ∧
      (high.toNat <<< 8) ||| low.toNat = v.toNat := by
  have hv : v.toNat < 65536 := v.toNat_lt
  refine ⟨UInt8.ofNat (v.toNat / 256), UInt8.ofNat v.toNat, rfl, ?_⟩
  rw [← Nat.shiftLeft_add_eq_or_of_lt (UInt8.toNat_lt _), Nat.shiftLeft_eq]
  simp
  omega

/-- The loops over the contour give the same bytes. -/
theorem scaledContour_eq (resolution : Float) (ranges : List UInt16) :
    Legacy.RadarClient.scaledContour resolution (ranges.flatMap fun range => beBytes 2 range.toNat) =
      ranges.flatMap (RadarTcpClient.contourBytes resolution) := by
  induction ranges with
  | nil => rfl
  | cons range ranges ih =>
    obtain ⟨high, low, hbytes, hvalue⟩ := shiftLeft_or_beBytes range
    rw [List.flatMap_cons, List.flatMap_cons, hbytes, ← ih]
    simp [Legacy.RadarClient.scaledContour, RadarTcpClient.contourBytes, hvalue]

/-- Two bytes for each range. -/
theorem length_pairs {f : UInt16 → Bytes} (hf : ∀ range, (f range).length = 2)
    (ranges : Vector UInt16 360) : (ranges.toList.flatMap f).length = 720 := by
  have hlen : ∀ l : List UInt16, (l.flatMap f).length = 2 * l.length := by
    intro l
    induction l with
    | nil => rfl
    | cons range l ih =>
      rw [List.flatMap_cons, List.length_append, hf, ih, List.length_cons]
      omega
  rw [hlen, Vector.length_toList]

/-- Two swapped numbers, copied one behind the other. -/
theorem copies_swapped (gain offset : UInt32) (f : Bytes → Except Exception (List Bytes)) :
    (do
      let buffer ← newArray ρ 8
      let buffer ← blockCopy (getBytesUInt32 (swapUInt32 gain)) 0 buffer 0 4
      let buffer ← blockCopy (getBytesUInt32 (swapUInt32 offset)) 0 buffer 4 4
      f buffer) = f (beBytes 4 gain.toNat ++ beBytes 4 offset.toNat) := by
  have hroom := ρ.le_maxLength
  have hbytes : ∀ v : UInt32, getBytesUInt32 (swapUInt32 v) = beBytes 4 v.toNat := by
    intro v
    rw [getBytesUInt32, toNat_swapUInt32, leBytes_byteSwap]
  have hnew : newArray ρ 8 = .ok (List.replicate 8 0) := newArray_of_le (n := 8) (by omega)
  have hfirst := blockCopy_append (a := []) (b := beBytes 4 gain.toNat) (c := []) (d := [])
    (e := List.replicate 4 0) (f := List.replicate 4 0) (i := 0) (j := 0)
    (n := 4) rfl (by simp) rfl (by simp)
  have hsecond := blockCopy_append (a := []) (b := beBytes 4 offset.toNat) (c := [])
    (d := beBytes 4 gain.toNat) (e := List.replicate 4 0) (f := []) (i := 0)
    (j := 4) (n := 4) rfl (by simp) (by simp) (by simp)
  have height : List.replicate 8 (0 : UInt8) = List.replicate 4 0 ++ List.replicate 4 0 := rfl
  simp only [List.nil_append, List.append_nil] at hfirst hsecond
  rw [hnew, ok_bind, hbytes, hbytes, height, hfirst, ok_bind, hsecond, ok_bind]

/-! ## Both clients -/

theorem csharp_eq (hc : c.currentConnectionState = .connected) (command : Command) :
    command.csharp ρ c = .ok [frameBytes command.csharpType (command.payload c.binSize)] := by
  cases command with
  | startFftData => exact sendData_ofType hc _
  | stopFftData => exact sendData_ofType hc _
  | startNavigationData => exact sendData_ofType hc _
  | stopNavigationData => exact sendData_ofType hc _
  | setNavigationThreshold threshold =>
    have hbytes : getBytesUInt16 (swapUInt16 threshold) = beBytes 2 threshold.toNat := by
      rw [getBytesUInt16, toNat_swapUInt16, leBytes_byteSwap]
    show c.sendData ρ (.ofPayload _ _) = _
    rw [hbytes]
    exact sendData_ofPayload hc _ (by simp)
  | setNavigationGainAndOffset gain offset =>
    exact (copies_swapped _ _ _).trans (sendData_ofPayload hc _ (by simp))
  | updateContourMap ranges =>
    have hlen : ¬ ranges.toList.length ≠ 360 := by simp
    exact (if_neg hlen).trans (sendData_ofPayload hc _ (by
      rw [length_pairs fun _ => rfl]
      decide))

theorem cpp_eq {l : Legacy.RadarClient} (hl : l.connected = true) (command : Command) :
    command.cpp l = [frameBytes command.type (command.payload l.binSize)] := by
  have hsimple := fun type =>
    (Legacy.RadarClient.sendSimpleNetworkMessage_eq l type).trans (if_pos hl)
  cases command with
  | startFftData => exact hsimple _
  | stopFftData => exact hsimple _
  | startNavigationData => exact hsimple _
  | stopNavigationData => exact hsimple _
  | setNavigationThreshold threshold =>
    exact (l.setNavigationThreshold_eq threshold).trans (if_pos hl)
  | setNavigationGainAndOffset gain offset =>
    exact (l.setNavigationGainAndOffset_eq gain offset).trans (if_pos hl)
  | updateContourMap ranges =>
    have hlen : (ranges.toList.flatMap fun range => beBytes 2 range.toNat).length = 720 :=
      length_pairs (fun _ => length_beBytes 2 _) ranges
    show (l.updateContourMap _).2 = _
    rw [l.updateContourMap_eq, if_pos hl, Legacy.RadarClient.contour, if_pos hlen,
      scaledContour_eq]
    rfl

theorem getElem?_frameBytes (type : UInt8) (payload : Bytes) :
    (frameBytes type payload)[17]? = some type := rfl

/-- **The same commands.** Connected, and with the same bin size, the clients send the same bytes
    for a command exactly if it is not the contour map. -/
theorem sameFrames_iff (ρ : Runtime) (c : RadarTcpClient) (l : Legacy.RadarClient)
    (hc : c.currentConnectionState = .connected) (hl : l.connected = true)
    (hbin : c.binSize = l.binSize) (command : Command) :
    command.csharp ρ c = .ok (command.cpp l) ↔ ∀ ranges, command ≠ .updateContourMap ranges := by
  rw [csharp_eq hc, cpp_eq hl, hbin]
  constructor
  · rintro h ranges rfl
    -- the types differ, and they are bytes of the frames
    have hbytes := (List.cons.inj (Except.ok.inj h)).1
    have htype := congrArg (fun bytes => bytes[17]?) hbytes
    simp only [getElem?_frameBytes] at htype
    exact absurd (Option.some.inj htype) (show ¬ (124 : UInt8) = 50 by decide)
  · intro h
    cases command with
    | updateContourMap ranges => exact absurd rfl (h ranges)
    | _ => rfl

/-- A threshold, at a bin size of 1750. -/
theorem sameFrames_iff_threshold :
    (Command.setNavigationThreshold 500).csharp .unlimited ⟨.connected, 1750⟩ =
        .ok ((Command.setNavigationThreshold 500).cpp ⟨true, false, 1750⟩) ↔
      ∀ ranges, Command.setNavigationThreshold 500 ≠ .updateContourMap ranges :=
  sameFrames_iff .unlimited ⟨.connected, 1750⟩ ⟨true, false, 1750⟩ rfl rfl rfl _

/-- The contour map of ranges that are all zero. -/
theorem contourMap_differs :
    ¬ ∀ (ρ : Runtime) (c : RadarTcpClient) (l : Legacy.RadarClient) (command : Command),
      c.currentConnectionState = .connected → l.connected = true → c.binSize = l.binSize →
      command.csharp ρ c = .ok (command.cpp l) := by
  intro h
  have hframes := h .unlimited ⟨.connected, 1750⟩ ⟨true, false, 1750⟩
    (.updateContourMap (Vector.replicate 360 0)) rfl rfl rfl
  rw [csharp_eq rfl, cpp_eq rfl] at hframes
  have hbytes := (List.cons.inj (Except.ok.inj hframes)).1
  have htype := congrArg (fun bytes => bytes[17]?) hbytes
  simp only [getElem?_frameBytes] at htype
  exact absurd htype (by decide)

end Navtech.IASDK
