/-
  Do the handlers of `Radar_client` and of `RadarTcpClient` give the same values for the same
  frame?

  `Same` compares two computations that may fail: both give the same value, or both fail. For
  FFT data the handlers agree exactly on the frames whose two time members read the same in
  either direction, because only the C# properties swap them (`sameFft_iff`). For navigation
  data two things keep them apart (`sameNavigation_iff`): with bytes behind the last record the
  C# loop goes on with what is left and its slice fails, upon which its reading thread
  disconnects; and a range is a `float` in C++ and a `double` in C#, so that of most words the
  two have different quotients.

  Both clients have their subscriber.
-/
import Navtech.IASDK.RadarTcpClient
import Navtech.Network.StoredRange

namespace Navtech.IASDK

open ByteOrder ManagedArray PackedRecord CheckedView TcpNetworkDataMessage Navtech.Utility
open Navtech.Network (Bytes Message frameBytes length_frameBytes length_headerBytes toVector_frame)
open Navtech.RadarClient (SameInBoth recordBytes recordsBytes recordsOf storedPeak)

/-- Both computations give the same value, or both fail. -/
def Same {ε ε' α : Type} : Except ε α → Except ε' α → Prop
  | .ok a, .ok b => a = b
  | .error _, .error _ => True
  | _, _ => False

/-- What both SDKs hand out of a sweep. -/
structure FftValues where
  azimuth : UInt16
  sweepCounter : UInt16
  seconds : UInt32
  splitSeconds : UInt32
  data : Bytes
deriving DecidableEq, Repr

/-- What both hand out of a sweep of navigation data. -/
structure NavigationValues where
  azimuth : UInt16
  seconds : UInt32
  splitSeconds : UInt32
  /-- The ranges as the members hold them. -/
  records : List (ℚ × UInt16)
deriving DecidableEq, Repr

variable {x : Externals} {ρ : Runtime}

/-- What an output of `Radar_client` says about FFT data. -/
def Output.fft : Output x → Option FftValues
  | .fftData d => some ⟨d.azimuth, d.sweepCounter, d.ntpSeconds, d.ntpSplitSeconds, d.data⟩
  | _ => none

/-- And about navigation data. -/
def Output.navigation : Output x → Option NavigationValues
  | .navigationData d => some ⟨d.azimuth, d.ntpSeconds, d.ntpSplitSeconds,
      d.peaks.map storedPeak⟩
  | _ => none

/-- What an event of `RadarTcpClient` says about FFT data. -/
def Event.fft : Event → Option FftValues
  | .fftData d => some ⟨d.message.azimuth, d.message.sweepCounter, d.message.seconds,
      d.message.splitSeconds, d.data⟩
  | _ => none

/-- And about navigation data. -/
def Event.navigation : Event → Option NavigationValues
  | .navigationData d => some ⟨d.message.azimuth, d.message.seconds, d.message.splitSeconds,
      d.navigationReturns.map fun r => (r.range, r.power)⟩
  | _ => none

/-- The handlers give the same FFT data for the frame with this payload. -/
def SameFft (x : Externals) (ρ : Runtime) (c : RadarClient) (payload : Bytes) : Prop :=
  Same ((c.handleFftDataMessage (x := x) (.ofBuffer (frameBytes .fftData payload))).map
      fun r => r.2.filterMap Output.fft)
    ((RadarTcpClient.handleFftMessage ρ (received .fftData payload)).map
      fun events => events.filterMap Event.fft)

/-- The handlers give the same navigation data for the frame with this payload. -/
def SameNavigation (x : Externals) (ρ : Runtime) (c : RadarClient) (payload : Bytes) : Prop :=
  Same ((c.handleNavigationDataMessage (x := x)
      (.ofBuffer (frameBytes .navigationData payload))).map fun r => r.2.filterMap Output.navigation)
    ((RadarTcpClient.handleNavigationMessage ρ (received .navigationData payload)).map
      fun events => events.filterMap Event.navigation)

/-! ## The bytes behind a header -/

theorem rest_received (messageType : TcpNetworkDataMessageType) {a b : Bytes}
    (hroom : (a ++ b).length ≤ ρ.maxLength) :
    RadarTcpClient.rest ρ a.length (received messageType (a ++ b)) = .ok b := by
  have hmax := ρ.maxLength_lt
  rw [List.length_append] at hroom
  have hlen : (Int32.ofNat (a ++ b).length - Int32.ofNat a.length).toInt =
      b.length := by
    rw [Int32.toInt_sub, Int32.toInt_ofNat_of_lt (by rw [List.length_append]; omega),
      Int32.toInt_ofNat_of_lt (by omega), List.length_append, Int.bmod_def]
    omega
  have hcopy := blockCopy_append (a := a) (b := b) (c := []) (d := [])
    (e := List.replicate b.length 0) (f := []) (i := a.length) (j := 0)
    (n := b.length) rfl rfl rfl (by simp)
  simp only [RadarTcpClient.rest, received, body, Option.getD_some, hlen,
    newArray_of_le (show b.length ≤ ρ.maxLength by omega), ok_bind]
  simpa using hcopy

/-! ## Members of the C++ overlays -/

section Members

variable (messageType : Network.MessageType) {payload : Bytes}

theorem read_frame {off n : Nat} (h : off + n ≤ payload.length) :
    read n (frameBytes messageType payload) (Network.MessageBase.beginOffset + off) =
      .ok (load n payload off) := by
  have hbegin : Network.MessageBase.beginOffset = Message.headerSize := rfl
  rw [hbegin, read_of_le (by rw [length_frameBytes]; omega), load, load, frameBytes, Buffer.slice,
    ← length_headerBytes messageType payload.length, ← List.drop_drop, List.drop_left]
  rfl

variable {l : Layout} {i : Nat}

theorem uint16At_frame (h : fieldOffset l i + 2 ≤ payload.length) :
    Network.uint16At l i (frameBytes messageType payload) =
      .ok (ntohs (uint16Member payload (fieldOffset l i))) := by
  rw [Network.uint16At, read_frame messageType h]
  rfl

theorem uint32At_frame (h : fieldOffset l i + 4 ≤ payload.length) :
    Network.uint32At l i (frameBytes messageType payload) =
      .ok (ntohl (uint32Member payload (fieldOffset l i))) := by
  rw [Network.uint32At, read_frame messageType h]
  rfl

theorem rawUint32At_frame (h : fieldOffset l i + 4 ≤ payload.length) :
    Network.rawUint32At l i (frameBytes messageType payload) =
      .ok (uint32Member payload (fieldOffset l i)) := by
  rw [Network.rawUint32At, read_frame messageType h]
  rfl

/-- What lies behind the header of the class. -/
theorem toVector_drop {n : Nat} (hlen : n ≤ payload.length) (hsmall : payload.length < 2 ^ 32) :
    Network.MessageBase.toVector n (frameBytes messageType payload) =
      .ok (payload.drop n) := by
  have htake : (payload.take n).length = n := by simp [hlen]
  have hdrop : n + (payload.drop n).length < 2 ^ 32 := by
    rw [List.length_drop]
    omega
  have h := (toVector_frame (t := messageType) htake (by omega)).mpr hdrop
  rwa [List.take_append_drop] at h

end Members

/-! ## FFT data -/

/-- A time member reads the same with and without the swap exactly if its bytes do. -/
theorem swapUInt32_eq_self {bs : Bytes} (h : bs.length = 4) :
    swapUInt32 (UInt32.ofNat (ofLEBytes bs)) = UInt32.ofNat (ofLEBytes bs) ↔ bs.reverse = bs := by
  have hlt : ofLEBytes bs < 2 ^ 32 := by simpa [h] using ofLEBytes_lt bs
  have hv : (UInt32.ofNat (ofLEBytes bs)).toNat = ofLEBytes bs := UInt32.toNat_ofNat_of_lt hlt
  have hswap := byteSwap_ofLEBytes bs
  rw [h] at hswap
  rw [← UInt32.toNat_inj, toNat_swapUInt32, hv, hswap, ofLEBytes_inj (List.length_reverse)]

/-- What `Radar_client` delivers. -/
theorem fft_cpp (c : RadarClient) (hcallback : c.fftDataCallback = true) {payload : Bytes}
    (hlen : 14 ≤ payload.length) (hsize : payload.length < 2 ^ 32) :
    (c.handleFftDataMessage (x := x) (.ofBuffer (frameBytes .fftData payload))).map
        (fun r => r.2.filterMap Output.fft) =
      .ok [⟨ntohs (uint16Member payload 4), ntohs (uint16Member payload 2), uint32Member payload 6,
        uint32Member payload 10, payload.drop 14⟩] := by
  have hazimuth : Network.FftData.azimuth (frameBytes .fftData payload) = _ :=
    uint16At_frame .fftData (show 4 + 2 ≤ _ by omega)
  have hsweep : Network.FftData.sweepCounter (frameBytes .fftData payload) = _ :=
    uint16At_frame .fftData (show 2 + 2 ≤ _ by omega)
  have hseconds : Network.FftData.ntpSeconds (frameBytes .fftData payload) = _ :=
    rawUint32At_frame .fftData (show 6 + 4 ≤ _ by omega)
  have hsplit : Network.FftData.ntpSplitSeconds (frameBytes .fftData payload) = _ :=
    rawUint32At_frame .fftData (show 10 + 4 ≤ _ by omega)
  have hvector := toVector_drop (n := Network.FftData.size) .fftData hlen hsize
  have hdata : RadarClient.fftData c.encoderSize (frameBytes .fftData payload) = .ok {
      angle := RadarClient.angle (ntohs (uint16Member payload 4)) c.encoderSize
      azimuth := ntohs (uint16Member payload 4)
      sweepCounter := ntohs (uint16Member payload 2)
      ntpSeconds := uint32Member payload 6
      ntpSplitSeconds := uint32Member payload 10
      data := payload.drop 14 } := by
    unfold RadarClient.fftData
    rw [hazimuth, hsweep, hseconds, hsplit, hvector]
    rfl
  unfold RadarClient.handleFftDataMessage
  rw [if_pos hcallback, Message.ofBuffer, hdata]
  cases c.rawFftDataCallback <;> rfl

/-- What `RadarTcpClient` raises. -/
theorem fft_csharp {payload : Bytes} (hlen : 14 ≤ payload.length)
    (hroom : payload.length ≤ ρ.maxLength) :
    (RadarTcpClient.handleFftMessage ρ (received .fftData payload)).map
        (fun events => events.filterMap Event.fft) =
      .ok [⟨swapUInt16 (uint16Member payload 4), swapUInt16 (uint16Member payload 2),
        swapUInt32 (uint32Member payload 6), swapUInt32 (uint32Member payload 10),
        payload.drop 14⟩] := by
  have hrest := rest_received (ρ := ρ) .fftData (a := payload.take 14)
    (b := payload.drop 14) (by rwa [List.take_append_drop])
  rw [List.take_append_drop, List.length_take, Nat.min_eq_left hlen] at hrest
  have hmarshal : TcpFftDataMessage.marshal (received .fftData payload).body =
      TcpFftDataMessage.ofMemory payload := if_neg (Nat.not_lt.mpr hlen)
  have hsize : TcpFftDataMessage.size = 14 := rfl
  rw [RadarTcpClient.handleFftMessage, hsize, hrest, hmarshal]
  rfl

/-- **FFT data.** The clients give the same values for a frame exactly if both time members read
    the same in either direction. -/
theorem sameFft_iff (c : RadarClient) (hcallback : c.fftDataCallback = true) {payload : Bytes}
    (hlen : 14 ≤ payload.length) (hroom : payload.length ≤ ρ.maxLength) :
    SameFft x ρ c payload ↔
      (Buffer.slice payload 6 4).reverse = Buffer.slice payload 6 4 ∧
        (Buffer.slice payload 10 4).reverse = Buffer.slice payload 10 4 := by
  have hmax := ρ.maxLength_lt
  have hslice : ∀ off, off + 4 ≤ 14 → (Buffer.slice payload off 4).length = 4 := by
    intro off hoff
    exact Buffer.length_slice (by omega)
  have hseconds : swapUInt32 (uint32Member payload 6) = uint32Member payload 6 ↔ _ :=
    swapUInt32_eq_self (hslice 6 (by decide))
  have hsplit : swapUInt32 (uint32Member payload 10) = uint32Member payload 10 ↔ _ :=
    swapUInt32_eq_self (hslice 10 (by decide))
  unfold SameFft
  rw [fft_cpp c hcallback hlen (by omega), fft_csharp hlen hroom, ← hseconds, ← hsplit]
  simp [Same, swapUInt16_eq_htons, htons, ntohs, eq_comm]

/-! ## Navigation data -/

/-- The record as `RadarTcpClient` adds it. -/
def navigationReturn (record : UInt32 × UInt16) : NavigationReturn where
  range := RadarClient.doubleRange record.1
  power := record.2

theorem slice_range (pre post : Bytes) (record : UInt32 × UInt16) :
    slice ρ (pre ++ recordBytes record ++ post) pre.length (pre.length + 4) =
      .ok (beBytes 4 record.1.toNat) := by
  have hroom := ρ.le_maxLength
  have h := slice_append (ρ := ρ) (a := pre) (b := beBytes 4 record.1.toNat)
    (c := beBytes 2 record.2.toNat ++ post) (i := pre.length) (j := pre.length + 4) rfl
    (by simp) (by rw [length_beBytes]; omega)
  simpa [recordBytes, packed] using h

theorem slice_power (pre post : Bytes) (record : UInt32 × UInt16) :
    slice ρ (pre ++ recordBytes record ++ post) (pre.length + 4) (pre.length + 6) =
      .ok (beBytes 2 record.2.toNat) := by
  have hroom := ρ.le_maxLength
  have h := slice_append (ρ := ρ) (a := pre ++ beBytes 4 record.1.toNat)
    (b := beBytes 2 record.2.toNat) (c := post) (i := pre.length + 4)
    (j := pre.length + 6) (by simp) (by simp; omega) (by rw [length_beBytes]; omega)
  simpa [recordBytes, packed] using h

/-- The loop over the records behind `pre`: it fails if bytes are left. -/
theorem navigationReturns_records (pre extra : Bytes) (records : List (UInt32 × UInt16))
    {n : Nat} (hextra : extra.length < navDataRecordLength)
    (hturns : records.length < n) :
    RadarTcpClient.navigationReturns ρ (pre ++ recordsBytes records ++ extra) n pre.length =
      if extra = [] then .ok (records.map navigationReturn) else .error .argument := by
  have hroom := ρ.le_maxLength
  have h6 : navDataRecordLength = 6 := rfl
  induction records generalizing pre n with
  | nil =>
    obtain ⟨n, rfl⟩ := Nat.exists_eq_succ_of_ne_zero (Nat.ne_zero_of_lt hturns)
    have hnil : pre ++ recordsBytes [] ++ extra = pre ++ extra := by simp [recordsBytes]
    rw [hnil, RadarTcpClient.navigationReturns]
    by_cases hempty : extra = []
    · simp [hempty]
    · have hpos : 0 < extra.length := List.length_pos_iff.mpr hempty
      rw [if_pos (by rw [List.length_append]; omega), if_neg hempty]
      -- the bytes that are left are fewer than a record
      rcases Nat.lt_or_ge extra.length 4 with hrange | hrange
      · have hslice : slice ρ (pre ++ extra) pre.length (pre.length + 4) = .error .argument :=
          slice_argument (j := pre.length + 4) (Nat.le_add_right _ _)
            (by rw [List.length_append]; omega) (by omega)
        rw [hslice]
        rfl
      · have hslice : slice ρ (pre ++ extra) (pre.length + 4) (pre.length + 6) =
            .error .argument :=
          slice_argument (i := pre.length + 4) (j := pre.length + 6) (by omega)
            (by rw [List.length_append]; omega) (by omega)
        have hfirst := slice_append (ρ := ρ) (a := pre) (b := extra.take 4) (c := extra.drop 4)
          (i := pre.length) (j := pre.length + 4) rfl
          (by rw [List.length_take, Nat.min_eq_left hrange]; rfl)
          (by rw [List.length_take]; omega)
        rw [List.append_assoc, List.take_append_drop] at hfirst
        rw [hfirst, ok_bind, hslice]
        rfl
  | cons record records ih =>
    obtain ⟨n, rfl⟩ := Nat.exists_eq_succ_of_ne_zero (Nat.ne_zero_of_lt hturns)
    have hnext := ih (pre ++ recordBytes record) (n := n) (by
      rw [List.length_cons] at hturns
      omega)
    have hsplit : pre ++ recordsBytes (record :: records) ++ extra =
        pre ++ recordBytes record ++ (recordsBytes records ++ extra) := by
      simp [RadarClient.recordsBytes_cons]
    rw [← List.append_assoc] at hsplit
    rw [List.length_append, RadarClient.length_recordBytes, h6] at hnext
    rw [RadarTcpClient.navigationReturns, hsplit, List.append_assoc (pre ++ _), slice_range,
      slice_power, ← List.append_assoc, if_pos (by simp [h6]), ok_bind, ok_bind, hnext,
      swapUInt32_toUInt32, swapUInt16_toUInt16]
    split <;> rfl

/-- What `Radar_client` delivers. -/
theorem navigation_cpp (c : RadarClient) (hcallback : c.navigationDataCallback = true)
    {payload extra : Bytes} {records : List (UInt32 × UInt16)} (hlen : 10 ≤ payload.length)
    (hsize : payload.length < 2 ^ 32) (htargets : payload.drop 10 = recordsBytes records ++ extra)
    (hextra : extra.length < navDataRecordLength) :
    (c.handleNavigationDataMessage (x := x) (.ofBuffer (frameBytes .navigationData payload))).map
        (fun r => r.2.filterMap Output.navigation) =
      .ok [⟨ntohs (uint16Member payload 0), ntohl (uint32Member payload 2),
        ntohl (uint32Member payload 6),
        records.map fun r => (RadarClient.floatRange r.1, r.2)⟩] := by
  have hazimuth : Network.NavigationData.azimuth (frameBytes .navigationData payload) = _ :=
    uint16At_frame .navigationData (show 0 + 2 ≤ _ by omega)
  have hseconds : Network.NavigationData.ntpSeconds (frameBytes .navigationData payload) = _ :=
    uint32At_frame .navigationData (show 2 + 4 ≤ _ by omega)
  have hsplit : Network.NavigationData.ntpSplitSeconds (frameBytes .navigationData payload) = _ :=
    uint32At_frame .navigationData (show 6 + 4 ≤ _ by omega)
  have hvector := toVector_drop (n := Network.NavigationData.size) .navigationData hlen hsize
  have hdata : RadarClient.navigationData c.encoderSize (frameBytes .navigationData payload) = .ok {
      angle := RadarClient.angle (ntohs (uint16Member payload 0)) c.encoderSize
      azimuth := ntohs (uint16Member payload 0)
      ntpSeconds := ntohl (uint32Member payload 2)
      ntpSplitSeconds := ntohl (uint32Member payload 6)
      peaks := records.map RadarClient.peak } := by
    have hsize : Network.NavigationData.size = 10 := rfl
    rw [hsize, htargets] at hvector
    unfold RadarClient.navigationData
    rw [hazimuth, hseconds, hsplit, hsize, hvector]
    simp only [bind, Except.bind, RadarClient.peaks_targets records hextra]
    rfl
  unfold RadarClient.handleNavigationDataMessage
  rw [if_pos hcallback, Message.ofBuffer, hdata, ← RadarClient.map_storedPeak]
  rfl

/-- What `RadarTcpClient` raises, if anything. -/
theorem navigation_csharp {payload extra : Bytes} {records : List (UInt32 × UInt16)}
    (hlen : 10 ≤ payload.length) (hroom : payload.length ≤ ρ.maxLength)
    (htargets : payload.drop 10 = recordsBytes records ++ extra)
    (hextra : extra.length < navDataRecordLength) :
    (RadarTcpClient.handleNavigationMessage ρ (received .navigationData payload)).map
        (fun events => events.filterMap Event.navigation) =
      if extra = [] then .ok [⟨swapUInt16 (uint16Member payload 0),
        swapUInt32 (uint32Member payload 2), swapUInt32 (uint32Member payload 6),
        records.map fun r => (RadarClient.doubleRange r.1, r.2)⟩]
      else .error .argument := by
  have hrest := rest_received (ρ := ρ) .navigationData (a := payload.take 10)
    (b := payload.drop 10) (by rwa [List.take_append_drop])
  rw [List.take_append_drop, List.length_take, Nat.min_eq_left hlen, htargets] at hrest
  have hmarshal : TcpNavigationDataMessage.marshal (received .navigationData payload).body =
      TcpNavigationDataMessage.ofMemory payload := if_neg (Nat.not_lt.mpr hlen)
  have hreturns := navigationReturns_records (ρ := ρ) [] extra records hextra
    (n := (recordsBytes records ++ extra).length + 1) (by
      have h6 : navDataRecordLength = 6 := rfl
      rw [List.length_append, RadarClient.length_recordsBytes, h6]
      omega)
  have hpairs : (records.map navigationReturn).map (fun r => (r.range, r.power)) =
      records.map fun r => (RadarClient.doubleRange r.1, r.2) := by
    rw [List.map_map]
    rfl
  have hsize : TcpNavigationDataMessage.size = 10 := rfl
  rw [List.nil_append, List.length_nil] at hreturns
  rw [RadarTcpClient.handleNavigationMessage, hsize, hrest, hmarshal, ok_bind, hreturns]
  split
  · simp only [ok_bind, pure_eq_ok, Except.map, List.filterMap_cons, Event.navigation, hpairs]
    rfl
  · rfl

/-- The quotients of a list of words. -/
theorem ranges_same_iff {records : List (UInt32 × UInt16)} :
    (records.map fun r => (RadarClient.floatRange r.1, r.2)) =
        (records.map fun r => (RadarClient.doubleRange r.1, r.2)) ↔
      ∀ record ∈ records, SameInBoth record.1 := by
  rw [List.map_inj_left]
  refine forall₂_congr fun record _ => ?_
  rw [Prod.mk.injEq, and_iff_left rfl]
  exact RadarClient.floatRange_eq_doubleRange_iff record.1

/-- **Navigation data.** The clients give the same values for a frame exactly if the bytes
    behind the header are whole records, and each has a range that a `float` and a `double` hold
    alike. -/
theorem sameNavigation_iff (c : RadarClient) (hcallback : c.navigationDataCallback = true)
    {payload : Bytes} (hlen : 10 ≤ payload.length) (hroom : payload.length ≤ ρ.maxLength) :
    SameNavigation x ρ c payload ↔ 6 ∣ payload.length - 10 ∧
      ∀ record ∈ recordsOf (payload.drop 10), SameInBoth record.1 := by
  have hmax := ρ.maxLength_lt
  obtain ⟨records, extra, htargets, hextra⟩ := RadarClient.exists_records (payload.drop 10)
  have h6 : navDataRecordLength = 6 := rfl
  have hcount := congrArg List.length htargets
  rw [List.length_drop, List.length_append, RadarClient.length_recordsBytes, h6] at hcount
  unfold SameNavigation
  rw [navigation_cpp c hcallback hlen (by omega) htargets hextra,
    navigation_csharp hlen hroom htargets hextra]
  split
  · have hzero : extra.length = 0 := List.length_eq_zero_iff.mpr ‹_›
    have hwhole : 6 ∣ payload.length - 10 := by omega
    rw [and_iff_right hwhole, htargets, RadarClient.recordsOf_append hextra, ← ranges_same_iff]
    simp [Same, swapUInt16_eq_htons, swapUInt32_eq_htonl, htons, ntohs, htonl, ntohl]
  · have hpos : 0 < extra.length := List.length_pos_iff.mpr ‹_›
    exact iff_of_false (fun h => h) fun h => absurd h.1 (by omega)

/-! ## Both -/

/-- **When the clients decode the same.** Of FFT data, the frames whose time members read the
    same in either direction; of navigation data, the frames of whole records with ranges that a
    `float` and a `double` hold alike. -/
theorem decodesSame_iff (x : Externals) (ρ : Runtime) (c : RadarClient)
    (hfft : c.fftDataCallback = true) (hnavigation : c.navigationDataCallback = true)
    (payload : Bytes) (hroom : payload.length ≤ ρ.maxLength) :
    (14 ≤ payload.length →
      (SameFft x ρ c payload ↔
        (Buffer.slice payload 6 4).reverse = Buffer.slice payload 6 4 ∧
          (Buffer.slice payload 10 4).reverse = Buffer.slice payload 10 4)) ∧
    (10 ≤ payload.length →
      (SameNavigation x ρ c payload ↔ 6 ∣ payload.length - 10 ∧
        ∀ record ∈ recordsOf (payload.drop 10), SameInBoth record.1)) :=
  ⟨fun hlen => sameFft_iff c hfft hlen hroom,
    fun hlen => sameNavigation_iff c hnavigation hlen hroom⟩

/-- A client with both callbacks. -/
def listening : RadarClient :=
  (RadarClient.new.setFftDataCallback true).setNavigationDataCallback true

/-- Sixteen bytes, whatever they are a frame of. -/
theorem decodesSame_iff_sixteen :
    (14 ≤ (List.replicate 16 5 : Bytes).length →
      (SameFft .unparsed .unlimited listening (List.replicate 16 5) ↔
        (Buffer.slice (List.replicate 16 5 : Bytes) 6 4).reverse =
            Buffer.slice (List.replicate 16 5) 6 4 ∧
          (Buffer.slice (List.replicate 16 5 : Bytes) 10 4).reverse =
            Buffer.slice (List.replicate 16 5) 10 4)) ∧
    (10 ≤ (List.replicate 16 5 : Bytes).length →
      (SameNavigation .unparsed .unlimited listening (List.replicate 16 5) ↔
        6 ∣ (List.replicate 16 5 : Bytes).length - 10 ∧
          ∀ record ∈ recordsOf ((List.replicate 16 5 : Bytes).drop 10), SameInBoth record.1)) :=
  decodesSame_iff .unparsed .unlimited listening rfl rfl (List.replicate 16 5) (by decide)

/-- A time stamp of one second is not delivered the same, and a byte behind the header of
    navigation data makes one client fail. -/
theorem decoding_differs :
    ¬ SameFft .unparsed .unlimited listening [0, 14, 0, 1, 0, 2, 0, 0, 0, 1, 0, 0, 0, 0] ∧
      ¬ SameNavigation .unparsed .unlimited listening [0, 2, 0, 0, 0, 1, 0, 0, 0, 0, 7] := by
  constructor
  · rw [sameFft_iff listening rfl (by decide) (by decide)]
    decide
  · rw [sameNavigation_iff listening rfl (by decide) (by decide)]
    exact fun h => absurd h.1 (by decide)

end Navtech.IASDK
