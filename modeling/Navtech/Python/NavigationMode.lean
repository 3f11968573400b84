/-
  `handle_received_message` of `pythonexamples/NavigationModeConfigAndAcquire.py`, which reads one
  message from the radar, and the lists of peaks that it makes.

  A call reads 16 bytes. Are they the signature, then it reads the rest of the header, and the
  payload if the type is one of three; otherwise the next call reads the next 16 bytes. So the
  payload of a message of another type is gone through 16 bytes at a time, and the script finds
  the next message if the payload consists of such pieces, none of them a signature
  (`Skippable`). In this case the script and the first SDK's `RadarClient`, two decoders written
  apart, take the same configurations, sweeps and records from a stream (`same_peaks`). `Told` is
  what a frame says to both. A range is a 64-bit number in the script and a `float` in the SDK,
  so it is the records they agree on: the client hands out the `float` of each, and the script
  keeps its own quotient of those between three bins and 200 metres.

  On the values of a message the script's comparisons are those of the exact numbers
  (`inRange_float`). What is only printed is left out.
-/
import Mathlib.Data.Rat.Cast.Order
import Mathlib.Tactic.Linarith
import Mathlib.Tactic.NormNum
import Navtech.Legacy.Resume
import Navtech.Python.FftData

namespace Navtech

namespace Python

namespace NavigationMode

open Buffer ByteOrder ExceptState
open Legacy (Frame wordAt)
open Network (Bytes)
open Navtech.RadarClient (floatRange recordBytes recordsBytes recordsOf)
open Navtech.Python.FftData (Exception float int divide fromBytesBig checkSignature messageHeader
  signatureLength)

/-! ## The script -/

/-- The globals, as for the other script. -/
structure Globals where
  radarSocket : List UInt8
  data : List UInt8
  messageType : Nat
  payloadSize : Nat
  version : Nat
  configRead : Bool
  navConfigRead : Bool
  encoderSize : Nat
  azimuthSamples : Nat
  rotationSpeed : Nat
  rangeResolution : Option Nat
  azimuth : Nat
  startingAzimuth : Nat
  timestamp : ℚ
  firstTimestamp : ℚ
  firstMessage : Bool
  navMessageCount : Nat
  rangeList : List ℚ
  bearingList : List ℚ
  powerList : List ℚ
deriving DecidableEq, Repr

/-- Before the first call, with what the radar will send. -/
def Globals.initial (radarSocket : List UInt8) : Globals where
  radarSocket := radarSocket
  data := []
  messageType := 0
  payloadSize := 0
  version := 0
  configRead := false
  navConfigRead := false
  encoderSize := 0
  azimuthSamples := 0
  rotationSpeed := 4000
  rangeResolution := none
  azimuth := 0
  startingAzimuth := 0
  timestamp := 0
  firstTimestamp := 0
  firstMessage := true
  navMessageCount := 0
  rangeList := []
  bearingList := []
  powerList := []

/-- In metres. -/
def maxRangeOfInterest : ℚ := 200

/-- Nearer returns are dropped. -/
def minBins : Nat := 3

/-- `np.pi` -/
def pi : ℚ := 884279719003555 / 2 ^ 48

/-- A call of a function of the script, which may raise an exception. -/
abbrev Script := ExceptT Exception (StateM Globals)

/-- What reading from the socket has to do with. -/
def Globals.reader (g : Globals) : FftData.Globals :=
  { FftData.Globals.initial g.radarSocket with
    data := g.data
    messageType := g.messageType
    payloadSize := g.payloadSize
    version := g.version }

/-- What the functions that both scripts have leave behind. -/
def Globals.setReader (g : Globals) (r : FftData.Globals) : Globals :=
  { g with
    radarSocket := r.radarSocket
    data := r.data
    messageType := r.messageType
    payloadSize := r.payloadSize
    version := r.version }

/-- `data = []` and the loop, which are those of the other script. -/
def receive (size : Nat) : Script Unit :=
  zoom Globals.reader Globals.setReader (FftData.receive size)

/-- The message header, also as there. -/
def readHeader : Script Unit := zoom Globals.reader Globals.setReader FftData.readHeader

/-- Configuration data from radar. -/
def readConfig : Script Unit := do
  receive (← get).payloadSize
  if (← get).data.length = (← get).payloadSize then
    modify fun g => { g with
      azimuthSamples := fromBytesBig g.data 0 2
      rangeResolution := some (fromBytesBig g.data 2 4)
      encoderSize := fromBytesBig g.data 6 8
      rotationSpeed := fromBytesBig g.data 8 10
      configRead := true }

/-- Navigation configuration data from radar. `unpack` raises for other than four bytes; the
    values are printed only. -/
def readNavConfig : Script Unit := do
  receive (← get).payloadSize
  if (← get).data.length = (← get).payloadSize then
    if (slice (← get).data 4 4).length = 4 then
      modify fun g => { g with navConfigRead := true }

/-- The body of the loop over the peaks. -/
def appendPeak (bearing : ℚ) (navData : List UInt8) (index : Nat) : Script Unit := do
  let byteOffset := index * 6
  let peakRange := fromBytesBig navData (0 + byteOffset) (4 + byteOffset)
  let peakPower := fromBytesBig navData (4 + byteOffset) (6 + byteOffset)
  let peakRangeMetres := float (peakRange / 1000000)
  let peakPowerDb := float (peakPower / 10)
  if peakRangeMetres ≤ maxRangeOfInterest then
    match (← get).rangeResolution with
    | none => throw .nameError
    | some rangeResolution =>
      if float ((minBins * rangeResolution : Nat) / 10000) ≤ peakRangeMetres then
        modify fun g => { g with
          rangeList := g.rangeList ++ [peakRangeMetres]
          bearingList := g.bearingList ++ [float (float (float (bearing / 360) * 2) * pi)]
          powerList := g.powerList ++ [peakPowerDb] }

/-- The first navigation data is where the rotation starts. -/
def noteStart : Script Unit := do
  if (← get).firstMessage then
    let turn ← divide (← get).azimuth (← get).encoderSize
    modify fun g => { g with
      startingAzimuth := int (float (turn * g.azimuthSamples))
      firstTimestamp := g.timestamp
      firstMessage := false }

/-- Navigation data from the radar, behind the first division. -/
def takePeaks (turn : ℚ) : Script Unit := do
  let bearing := float (360 * turn)
  modify fun g => { g with
    timestamp := float (fromBytesBig g.data 2 6 + float (fromBytesBig g.data 6 10 / 1000000000)) }
  let navData := (← get).data.drop 10
  (List.range (navData.length / 6)).forM (appendPeak bearing navData)
  noteStart
  modify fun g => { g with navMessageCount := g.navMessageCount + 1 }

/-- The branch for navigation data: the azimuth, and then its records. -/
def readNavData : Script Unit := do
  receive (← get).payloadSize
  if (← get).data.length = (← get).payloadSize then
    modify fun g => { g with azimuth := fromBytesBig g.data 0 2 }
    takePeaks (← divide (← get).azimuth (← get).encoderSize)

/-- The first `if` behind the header. -/
def handleConfig : Script Unit := do
  if (← get).messageType = 10 then tryCatch readConfig fun _ => pure ()

/-- The second one. -/
def handleNavigation : Script Unit := do
  if (← get).messageType = 204 then tryCatch readNavConfig fun _ => pure ()
  else if (← get).messageType = 123 then tryCatch readNavData fun _ => pure ()

/-- Read and process the message. -/
def handleReceivedMessage : Script Unit := do
  modify fun g => { g with messageType := 0 }
  tryCatch readHeader fun _ => pure ()
  handleConfig
  handleNavigation

/-- The globals behind a call. -/
def next (g : Globals) : Globals := (handleReceivedMessage.run g).2

/-! ## Floats -/

section Floats

variable {p q : ℚ}

/-- A whole number of micrometres, up to 8 kilometres, is less than half of one from its float. -/
theorem float_micrometres {n : Nat} (hn : n < 2 ^ 33) :
    |float (n / 1000000) - n / 1000000| < 1 / 2000000 := by
  have hnear := SignificantBits.nearest_near 53 (n / 1000000)
  have hcast : (n : ℚ) < 2 ^ 33 := by exact_mod_cast hn
  have hnonneg : (0 : ℚ) ≤ n / 1000000 := div_nonneg (Nat.cast_nonneg n) (by norm_num)
  rw [abs_of_nonneg hnonneg] at hnear
  calc |float (n / 1000000) - n / 1000000| ≤ n / 1000000 / 2 ^ 53 := hnear
    _ < 1 / 2000000 := by
      norm_num
      linarith

/-- The floats of whole numbers of micrometres are ordered as these. -/
theorem float_le_float {m n : Nat} (hm : m < 2 ^ 33) (hn : n < 2 ^ 33) :
    float (m / 1000000) ≤ float (n / 1000000) ↔ (m : ℚ) / 1000000 ≤ n / 1000000 := by
  have hlt {m n : Nat} (hm : m < 2 ^ 33) (hn : n < 2 ^ 33) (hmn : m < n) :
      float (m / 1000000) < float (n / 1000000) := by
    have hgap : (m : ℚ) + 1 ≤ n := by exact_mod_cast hmn
    have hbelow := (abs_lt.mp (float_micrometres hm)).2
    have habove := (abs_lt.mp (float_micrometres hn)).1
    linarith
  rw [div_le_div_iff_of_pos_right (by norm_num), Nat.cast_le]
  constructor
  · intro h
    by_contra hnot
    exact absurd h (not_le.mpr (hlt hn hm (Nat.lt_of_not_le hnot)))
  · intro h
    rcases Nat.lt_or_eq_of_le h with hless | rfl
    · exact (hlt hm hn hless).le
    · exact le_refl _

/-- Metres below 8 kilometres are floats as far as comparisons go. -/
theorem float_le_metres {n m : Nat} (hn : n < 2 ^ 33) (hm : float m = m) (hsmall : m ≤ 8000) :
    float (n / 1000000) ≤ m ↔ (n : ℚ) / 1000000 ≤ m := by
  have hm' : ((m * 1000000 : Nat) : ℚ) / 1000000 = m := by
    push_cast
    rw [mul_div_assoc, div_self (by norm_num), mul_one]
  have h := float_le_float hn (show m * 1000000 < 2 ^ 33 by omega)
  rwa [hm', hm] at h

end Floats

/-! ## One call -/

variable {g : Globals} {f : Frame} {rest : List UInt8}

theorem run_receive {size : Nat} {bytes : List UInt8} (h : g.radarSocket = bytes ++ rest)
    (hsize : bytes.length = size) :
    (receive size).run g = (.ok (), { g with radarSocket := rest, data := bytes }) :=
  run_zoom (FftData.run_receive (g := g.reader) h hsize)

/-- The globals behind the header of a frame. -/
def Globals.behindHeader (g : Globals) (f : Frame) (rest : List UInt8) : Globals :=
  { g with
    radarSocket := f.payload ++ rest
    data := Network.version :: f.type :: beBytes 4 f.payload.length
    version := Network.version.toNat
    messageType := f.type.toNat
    payloadSize := f.payload.length }

theorem run_readHeader (h : g.radarSocket = f.bytes ++ rest) :
    readHeader.run g = (.ok (), g.behindHeader f rest) := by
  have hbytes : g.radarSocket =
      messageHeader Network.version f.type f.payload.length ++ (f.payload ++ rest) := by
    rw [h, f.bytes_eq, List.append_assoc]
    rfl
  exact run_zoom (FftData.run_readHeader (g := g.reader) hbytes (Legacy.payload_lt f))

/-- Sixteen bytes that are no signature. -/
theorem run_readHeader_other {piece : List UInt8} (h : g.radarSocket = piece ++ rest)
    (hlen : piece.length = 16) (hpiece : piece ≠ checkSignature) :
    readHeader.run g = (.ok (), { g with radarSocket := rest, data := piece }) := by
  have hread : FftData.readHeader.run g.reader =
      (.ok (), { g.reader with radarSocket := rest, data := piece }) := by
    unfold FftData.readHeader
    rw [run_bind_of_ok (FftData.run_receive (g := g.reader) h (show _ = signatureLength from hlen)),
      run_bind_get, if_neg hpiece]
    rfl
  exact run_zoom hread

theorem run_handleConfig (g : Globals) :
    handleConfig.run g = (.ok (), if g.messageType = 10 then (readConfig.run g).2 else g) := by
  unfold handleConfig
  rw [run_bind_get]
  split
  · exact run_caught readConfig g
  · rfl

theorem run_handleNavigation (g : Globals) :
    handleNavigation.run g = (.ok (),
      if g.messageType = 204 then (readNavConfig.run g).2
      else if g.messageType = 123 then (readNavData.run g).2 else g) := by
  unfold handleNavigation
  rw [run_bind_get]
  split
  · exact run_caught readNavConfig g
  · rw [run_bind_get]
    split
    · exact run_caught readNavData g
    · rfl

/-- A call whose header makes these globals. -/
theorem next_of_header {g' : Globals}
    (h : readHeader.run { g with messageType := 0 } = (.ok (), g')) :
    next g = (handleNavigation.run (handleConfig.run g').2).2 := by
  have hcaught := run_caught readHeader { g with messageType := 0 }
  rw [h] at hcaught
  unfold next handleReceivedMessage
  rw [run_bind_modify, run_bind_of_ok hcaught,
    run_bind_of_ok (run_handleConfig g'), run_handleConfig]

/-- A call in the payload of a message of another type. -/
theorem next_piece {piece : List UInt8} (h : g.radarSocket = piece ++ rest)
    (hlen : piece.length = 16) (hpiece : piece ≠ checkSignature) :
    next g = { g with radarSocket := rest, data := piece, messageType := 0 } := by
  rw [next_of_header (run_readHeader_other (g := { g with messageType := 0 }) h hlen hpiece)]
  rfl

theorem next_of_frame (h : g.radarSocket = f.bytes ++ rest) :
    next g = (handleNavigation.run (handleConfig.run (g.behindHeader f rest)).2).2 :=
  next_of_header (run_readHeader (g := { g with messageType := 0 }) h)

/-- A frame that is not a configuration. -/
theorem next_of_ne (h : g.radarSocket = f.bytes ++ rest) (hconfiguration : f.type ≠ 10) :
    next g = if f.type = 204 then (readNavConfig.run (g.behindHeader f rest)).2
      else if f.type = 123 then (readNavData.run (g.behindHeader f rest)).2
      else g.behindHeader f rest := by
  have hsame (t : UInt8) : (g.behindHeader f rest).messageType = t.toNat ↔ f.type = t :=
    UInt8.toNat_inj
  have hconfig : (g.behindHeader f rest).messageType = 10 ↔ f.type = 10 := hsame 10
  have hnavConfig : (g.behindHeader f rest).messageType = 204 ↔ f.type = 204 := hsame 204
  have hnavigation : (g.behindHeader f rest).messageType = 123 ↔ f.type = 123 := hsame 123
  rw [next_of_frame h, run_handleConfig, if_neg (mt hconfig.mp hconfiguration),
    run_handleNavigation]
  simp only [hnavConfig, hnavigation]

/-! ## What a frame leaves -/

/-- The globals behind the payload of a frame. -/
def Globals.behindFrame (g : Globals) (f : Frame) (rest : List UInt8) : Globals :=
  { g.behindHeader f rest with radarSocket := rest, data := f.payload }

theorem all_received :
    (g.behindFrame f rest).data.length = (g.behindFrame f rest).payloadSize := rfl

theorem run_receive_payload :
    (receive (g.behindHeader f rest).payloadSize).run (g.behindHeader f rest) =
      (.ok (), g.behindFrame f rest) :=
  run_receive (g := g.behindHeader f rest) rfl rfl

theorem next_configuration (h : g.radarSocket = f.bytes ++ rest) (htype : f.type = 10) :
    next g = { g.behindFrame f rest with
      azimuthSamples := fromBytesBig f.payload 0 2
      rangeResolution := some (fromBytesBig f.payload 2 4)
      encoderSize := fromBytesBig f.payload 6 8
      rotationSpeed := fromBytesBig f.payload 8 10
      configRead := true } := by
  have hread : readConfig.run (g.behindHeader f rest) = (.ok (), { g.behindFrame f rest with
      azimuthSamples := fromBytesBig f.payload 0 2
      rangeResolution := some (fromBytesBig f.payload 2 4)
      encoderSize := fromBytesBig f.payload 6 8
      rotationSpeed := fromBytesBig f.payload 8 10
      configRead := true }) := by
    unfold readConfig
    rw [run_bind_get, run_bind_of_ok run_receive_payload, run_bind_get, run_bind_get,
      if_pos all_received]
    rfl
  have hten : (g.behindHeader f rest).messageType = 10 := congrArg UInt8.toNat htype
  rw [next_of_frame h, run_handleConfig, if_pos hten, run_handleNavigation, hread]
  have hbehind : (g.behindFrame f rest).messageType = 10 := hten
  dsimp only
  rw [hbehind, if_neg (by decide), if_neg (by decide)]

theorem next_navConfig (h : g.radarSocket = f.bytes ++ rest) (htype : f.type = 204) :
    ∃ read, next g = { g.behindFrame f rest with navConfigRead := read } := by
  rw [next_of_ne h (by rw [htype]; decide), if_pos htype]
  unfold readNavConfig
  rw [run_bind_get, run_bind_of_ok run_receive_payload, run_bind_get, run_bind_get,
      if_pos all_received,
    run_bind_get]
  split
  · exact ⟨true, rfl⟩
  · exact ⟨g.navConfigRead, rfl⟩

/-! ## The peaks of a frame -/

/-- An entry of the three lists. -/
structure Point where
  range : ℚ
  bearing : ℚ
  power : ℚ
deriving DecidableEq, Repr

/-- The bearing in radians. -/
def radians (bearing : ℚ) : ℚ := float (float (float (bearing / 360) * 2) * pi)

/-- What the lists have of a record, given in millionths of a metre and tenths of a decibel. -/
def pointOf (bearing : ℚ) (record : UInt32 × UInt16) : Point :=
  ⟨float (record.1.toNat / 1000000), radians bearing, float (record.2.toNat / 10)⟩

/-- From the third bin to 200 metres; a bin is given in tenths of a millimetre. -/
def InRange (binSize : Nat) (record : UInt32 × UInt16) : Prop :=
  (record.1.toNat : ℚ) / 1000000 ≤ maxRangeOfInterest ∧
    ((minBins * binSize : Nat) : ℚ) / 10000 ≤ record.1.toNat / 1000000

instance (binSize : Nat) : DecidablePred (InRange binSize) :=
  fun _ => inferInstanceAs (Decidable (_ ∧ _))

/-- The lists with more points. -/
def Globals.plus (g : Globals) (points : List Point) : Globals :=
  { g with
    rangeList := g.rangeList ++ points.map (·.range)
    bearingList := g.bearingList ++ points.map (·.bearing)
    powerList := g.powerList ++ points.map (·.power) }

theorem plus_nil (g : Globals) : g.plus [] = g := by
  unfold Globals.plus
  simp

theorem plus_plus (g : Globals) (points points' : List Point) :
    (g.plus points).plus points' = g.plus (points ++ points') := by
  unfold Globals.plus
  simp

/-- The script's comparisons are those of the exact numbers. -/
theorem inRange_float (binSize : UInt16) (record : UInt32 × UInt16) :
    InRange binSize.toNat record ↔
      float (record.1.toNat / 1000000) ≤ maxRangeOfInterest ∧
        float ((minBins * binSize.toNat : Nat) / 10000) ≤ float (record.1.toNat / 1000000) := by
  have hrecord := record.1.toNat_lt
  have hbin := binSize.toNat_lt
  have h200 : float ((200 : Nat) : ℚ) = (200 : Nat) := by decide +kernel
  have hfar := float_le_metres (n := record.1.toNat) (by omega) h200 (by decide)
  have hbins : ((minBins * binSize.toNat : Nat) : ℚ) / 10000 =
      ((minBins * binSize.toNat * 100 : Nat) : ℚ) / 1000000 := by
    push_cast
    ring
  have hnear := float_le_float (m := minBins * binSize.toNat * 100) (n := record.1.toNat)
    (by unfold minBins; omega) (by omega)
  rw [← hbins] at hnear
  unfold InRange
  rw [hnear]
  exact and_congr hfar.symm Iff.rfl

/-- The values of a record, as the loop takes them. -/
theorem fromBytesBig_record {pre : List UInt8} (post : List UInt8) {index : Nat}
    (record : UInt32 × UInt16) (hpre : pre.length = index * 6) :
    fromBytesBig (pre ++ recordBytes record ++ post) (0 + index * 6)
        (4 + index * 6) = record.1.toNat ∧
      fromBytesBig (pre ++ recordBytes record ++ post) (4 + index * 6)
        (6 + index * 6) = record.2.toNat := by
  have hbytes : recordBytes record =
      beBytes 4 record.1.toNat ++ beBytes 2 record.2.toNat := by
    simp [recordBytes, PackedRecord.packed]
  have hrange := record.1.toNat_lt
  have hpower := record.2.toNat_lt
  unfold fromBytesBig
  rw [hbytes]
  constructor
  · have hslice : slice (pre ++ (beBytes 4 record.1.toNat ++ beBytes 2 record.2.toNat) ++ post)
        (0 + index * 6) (4 + index * 6 - (0 + index * 6)) = beBytes 4 record.1.toNat := by
      rw [← List.append_assoc, List.append_assoc _ _ post]
      exact slice_append (by omega) (by rw [length_beBytes]; omega)
    rw [hslice, ofBEBytes_beBytes]
    exact Nat.mod_eq_of_lt hrange
  · have hslice : slice (pre ++ (beBytes 4 record.1.toNat ++ beBytes 2 record.2.toNat) ++ post)
        (4 + index * 6) (6 + index * 6 - (4 + index * 6)) = beBytes 2 record.2.toNat := by
      rw [← List.append_assoc]
      exact slice_append (by rw [List.length_append, length_beBytes]; omega)
        (by rw [length_beBytes]; omega)
    rw [hslice, ofBEBytes_beBytes]
    exact Nat.mod_eq_of_lt hpower

/-- The points of the records. -/
def pointsOf (bearing : ℚ) (binSize : UInt16) (records : List (UInt32 × UInt16)) : List Point :=
  (records.filter (InRange binSize.toNat)).map (pointOf bearing)

theorem run_appendPeak {pre : List UInt8} (post : List UInt8) {index : Nat} {binSize : UInt16}
    (bearing : ℚ) (record : UInt32 × UInt16) (hpre : pre.length = index * 6)
    (hresolution : g.rangeResolution = some binSize.toNat) :
    (appendPeak bearing (pre ++ recordBytes record ++ post) index).run g =
      (.ok (), g.plus (pointsOf bearing binSize [record])) := by
  obtain ⟨hrange, hpower⟩ := fromBytesBig_record post record hpre
  have hinRange := inRange_float binSize record
  unfold appendPeak
  dsimp only
  rw [hrange, hpower]
  by_cases hin : InRange binSize.toNat record
  · obtain ⟨hfar, hnear⟩ := hinRange.mp hin
    have hpoints : pointsOf bearing binSize [record] =
        [pointOf bearing record] := by
      simp [pointsOf, hin]
    rw [if_pos hfar, run_bind_get, hresolution, hpoints]
    dsimp only
    rw [if_pos hnear]
    rfl
  · have hpoints : pointsOf bearing binSize [record] = [] := by
      simp [pointsOf, hin]
    rw [hpoints, plus_nil]
    by_cases hfar : float (record.1.toNat / 1000000) ≤ maxRangeOfInterest
    · rw [if_pos hfar, run_bind_get, hresolution]
      dsimp only
      rw [if_neg fun hnear => hin (hinRange.mpr ⟨hfar, hnear⟩)]
      rfl
    · rw [if_neg hfar]
      rfl

/-- The loop over the records that are left. -/
theorem run_appendPeaks {navData extra : List UInt8} {binSize : UInt16} (bearing : ℚ)
    {records : List (UInt32 × UInt16)} {pre : List UInt8} {index : Nat}
    (hpre : pre.length = index * 6)
    (hdata : navData = pre ++ recordsBytes records ++ extra)
    (hresolution : g.rangeResolution = some binSize.toNat) :
    ((List.range' index records.length).forM (appendPeak bearing navData)).run g =
      (.ok (), g.plus (pointsOf bearing binSize records)) := by
  induction records generalizing g pre index with
  | nil => exact congrArg (fun g => (Except.ok (), g)) (plus_nil g).symm
  | cons record records ih =>
    rw [RadarClient.recordsBytes_cons] at hdata
    have hone : navData = pre ++ recordBytes record ++
        (recordsBytes records ++ extra) := by
      rw [hdata]
      simp
    have hfirst := run_appendPeak (recordsBytes records ++ extra) bearing record
      hpre hresolution
    rw [← hone] at hfirst
    have hlength : (pre ++ recordBytes record).length = (index + 1) * 6 := by
      rw [List.length_append, hpre, Navtech.RadarClient.length_recordBytes]
      change index * 6 + 6 = (index + 1) * 6
      omega
    have hothers := ih (g := g.plus (pointsOf bearing binSize [record]))
      hlength (by rw [hdata]; simp) hresolution
    rw [List.length_cons, List.range'_succ, List.forM_eq_forM, List.forM_cons,
      run_bind_of_ok hfirst]
    rw [List.forM_eq_forM] at hothers
    rw [hothers, plus_plus]
    unfold pointsOf
    rw [← List.map_append, ← List.filter_append]
    rfl

/-! ## Navigation data -/

/-- The globals behind `noteStart`, with an encoder size. -/
def Globals.noted (g : Globals) : Globals :=
  if g.firstMessage then
    { g with
      startingAzimuth := int (float (float (g.azimuth / g.encoderSize) * g.azimuthSamples))
      firstTimestamp := g.timestamp
      firstMessage := false }
  else g

theorem run_noteStart (hencoder : g.encoderSize ≠ 0) : noteStart.run g = (.ok (), g.noted) := by
  have hturn : divide g.azimuth g.encoderSize = .ok (float (g.azimuth / g.encoderSize)) :=
    if_neg hencoder
  unfold noteStart Globals.noted
  rw [run_bind_get]
  split
  · rw [run_bind_get, run_bind_get, run_bind_liftM hturn]
    rfl
  · rfl

/-- Without the size of the encoder nothing is decoded. -/
theorem next_navigation_zero (h : g.radarSocket = f.bytes ++ rest) (htype : f.type = 123)
    (hencoder : g.encoderSize = 0) :
    next g = { g.behindFrame f rest with azimuth := fromBytesBig f.payload 0 2 } := by
  have hturn : divide (fromBytesBig f.payload 0 2) g.encoderSize = .error .zeroDivisionError :=
    if_pos hencoder
  rw [next_of_ne h (by rw [htype]; decide), if_neg (by rw [htype]; decide), if_pos htype]
  unfold readNavData
  rw [run_bind_get, run_bind_of_ok run_receive_payload, run_bind_get, run_bind_get,
    if_pos all_received, run_bind_modify, run_bind_get, run_bind_get]
  exact congrArg Prod.snd (run_bind_liftM_error hturn)

/-- The bearing in degrees. -/
def bearingOf (azimuth encoderSize : Nat) : ℚ := float (360 * float (azimuth / encoderSize))

/-- The globals behind the peaks of the payload, with these points. -/
def Globals.swept (g : Globals) (points : List Point) : Globals :=
  let g := (Globals.plus { g with
    timestamp := float (fromBytesBig g.data 2 6 +
      float (fromBytesBig g.data 6 10 / 1000000000)) } points).noted
  { g with navMessageCount := g.navMessageCount + 1 }

theorem run_takePeaks (hencoder : g.encoderSize ≠ 0) {binSize : UInt16}
    (hresolution : g.rangeResolution = some binSize.toNat)
    {records : List (UInt32 × UInt16)} {extra : List UInt8}
    (htargets : g.data.drop 10 = recordsBytes records ++ extra)
    (hextra : extra.length < navDataRecordLength) (turn : ℚ) :
    (takePeaks turn).run g = (.ok (), g.swept
      (pointsOf (float (360 * turn)) binSize records)) := by
  have hcount : (g.data.drop 10).length / 6 = records.length := by
    have hsix : extra.length < 6 := hextra
    rw [htargets, List.length_append, Navtech.RadarClient.length_recordsBytes]
    change (records.length * 6 + extra.length) / 6 = records.length
    omega
  set g₁ : Globals := { g with
    timestamp := float (fromBytesBig g.data 2 6 + float (fromBytesBig g.data 6 10 / 1000000000)) }
  have hempty : ([] : List UInt8).length = 0 * 6 := rfl
  have hloop := run_appendPeaks (g := g₁) (float (360 * turn)) hempty htargets hresolution
  rw [← hcount, ← List.range_eq_range'] at hloop
  have hrest : (noteStart >>= fun _ =>
      modify fun g => { g with navMessageCount := g.navMessageCount + 1 }).run (g₁.plus
        (pointsOf (float (360 * turn)) binSize records)) = _ :=
    run_bind_of_ok (run_noteStart hencoder)
  unfold takePeaks
  rw [run_bind_modify, run_bind_get]
  exact (run_bind_of_ok hloop).trans (hrest.trans rfl)

theorem next_navigation (h : g.radarSocket = f.bytes ++ rest) (htype : f.type = 123)
    (hencoder : g.encoderSize ≠ 0) {binSize : UInt16}
    (hresolution : g.rangeResolution = some binSize.toNat)
    {records : List (UInt32 × UInt16)} {extra : List UInt8}
    (htargets : f.payload.drop 10 = recordsBytes records ++ extra)
    (hextra : extra.length < navDataRecordLength) :
    next g = Globals.swept { g.behindFrame f rest with azimuth := fromBytesBig f.payload 0 2 }
      (pointsOf (bearingOf (fromBytesBig f.payload 0 2) g.encoderSize) binSize
        records) := by
  have hturn : divide (fromBytesBig f.payload 0 2) g.encoderSize =
      .ok (float (fromBytesBig f.payload 0 2 / g.encoderSize)) := if_neg hencoder
  have hpeaks := run_takePeaks
    (g := { g.behindFrame f rest with azimuth := fromBytesBig f.payload 0 2 }) hencoder
    hresolution htargets hextra (float (fromBytesBig f.payload 0 2 / g.encoderSize))
  rw [next_of_ne h (by rw [htype]; decide), if_neg (by rw [htype]; decide), if_pos htype]
  unfold readNavData
  rw [run_bind_get, run_bind_of_ok run_receive_payload, run_bind_get, run_bind_get,
    if_pos all_received, run_bind_modify, run_bind_get, run_bind_get]
  exact congrArg Prod.snd ((run_bind_liftM hturn).trans hpeaks)

/-! ## The frames of a stream -/

/-- The script reads the payload of a message of this type. -/
def Handled (f : Frame) : Prop := f.type = 10 ∨ f.type = 204 ∨ f.type = 123

instance : DecidablePred Handled := fun _ => inferInstanceAs (Decidable (_ ∨ _))

/-- The payload consists of pieces of 16 bytes that are no signature. -/
def Skippable (f : Frame) : Prop :=
  ∃ pieces : List (List UInt8), f.payload = pieces.flatten ∧
    ∀ piece ∈ pieces, piece.length = 16 ∧ piece ≠ checkSignature

/-- How many calls a frame takes. -/
def calls (f : Frame) : Nat := if Handled f then 1 else f.payload.length / 16 + 1

theorem iterate_pieces {pieces : List (List UInt8)} (h : g.radarSocket = pieces.flatten ++ rest)
    (hpieces : ∀ piece ∈ pieces, piece.length = 16 ∧ piece ≠ checkSignature) :
    ∃ data messageType, next^[pieces.length] g =
      { g with radarSocket := rest, data := data, messageType := messageType } := by
  induction pieces generalizing g with
  | nil =>
    rw [List.flatten_nil, List.nil_append] at h
    subst h
    exact ⟨g.data, g.messageType, rfl⟩
  | cons piece pieces ih =>
    obtain ⟨hlen, hpiece⟩ := hpieces piece List.mem_cons_self
    rw [List.flatten_cons, List.append_assoc] at h
    have hfirst := next_piece h hlen hpiece
    obtain ⟨data, messageType, hothers⟩ := ih (g := next g) (by rw [hfirst])
      fun p hp => hpieces p (List.mem_cons_of_mem piece hp)
    refine ⟨data, messageType, ?_⟩
    rw [List.length_cons, Function.iterate_succ_apply, hothers, hfirst]

/-- A frame of another type leaves everything that the lists depend on. -/
theorem iterate_other (h : g.radarSocket = f.bytes ++ rest) (hother : ¬ Handled f)
    (hskip : Skippable f) :
    ∃ data messageType payloadSize, next^[calls f] g =
      { g with
        radarSocket := rest
        data := data
        version := Network.version.toNat
        messageType := messageType
        payloadSize := payloadSize } := by
  obtain ⟨pieces, hpayload, hpieces⟩ := hskip
  have hlength : f.payload.length / 16 = pieces.length := by
    have hflat : pieces.flatten.length = pieces.length * 16 := by
      rw [List.length_flatten, List.map_congr_left fun piece hp => (hpieces piece hp).1]
      simp
    rw [hpayload, hflat, Nat.mul_div_cancel _ (by decide)]
  have hheader : next g = g.behindHeader f rest := by
    rw [next_of_ne h fun h10 => hother (.inl h10), if_neg fun h204 => hother (.inr (.inl h204)),
      if_neg fun h123 => hother (.inr (.inr h123))]
  obtain ⟨data, messageType, hrest⟩ := iterate_pieces (g := g.behindHeader f rest)
    (show f.payload ++ rest = _ by rw [hpayload]) hpieces
  refine ⟨data, messageType, f.payload.length, ?_⟩
  unfold calls
  rw [if_neg hother, hlength, Function.iterate_succ_apply, hheader, hrest]
  rfl

/-! ## What the frames say -/

/-- What a frame says to both decoders. -/
inductive Told where
  | configuration (encoderSize binSize : UInt16)
  | sweep (azimuth : UInt16) (records : List (UInt32 × UInt16))
deriving DecidableEq

/-- A configuration is its encoder size and bin size, a sweep its azimuth and its records. -/
def told (f : Frame) : Option Told :=
  if f.type = 10 then some (.configuration (wordAt f.payload 6) (wordAt f.payload 2))
  else if f.type = 123 then some (.sweep (wordAt f.payload 0) (recordsOf (f.payload.drop 10)))
  else none

/-- What the first SDK's client hands out for it: of the records, the ranges as `float`. -/
def HandsOut : Legacy.Output → Told → Prop
  | .configurationData data, .configuration encoderSize binSize =>
    data.encoderSize = encoderSize ∧ data.binSize = binSize
  | .navigationData data, .sweep azimuth records =>
    data.azimuth = azimuth ∧ data.peaks = records.map fun r => (floatRange r.1, r.2)
  | _, _ => False

/-- What the script makes of it. -/
structure Plot where
  /-- The encoder size and the bin size of the last configuration. -/
  configuration : Option (UInt16 × UInt16)
  sweeps : Nat
  points : List Point

namespace Plot

/-- Nothing has been told. -/
def empty : Plot := ⟨none, 0, []⟩

/-- A sweep is plotted if the encoder size is known. -/
def add (p : Plot) : Told → Plot
  | .configuration encoderSize binSize => { p with configuration := some (encoderSize, binSize) }
  | .sweep azimuth records =>
    match p.configuration with
    | some (encoderSize, binSize) =>
      if encoderSize = 0 then p
      else
        { p with
          sweeps := p.sweeps + 1
          points := p.points ++
            pointsOf (bearingOf azimuth.toNat encoderSize.toNat) binSize records }
    | none => p

end Plot

/-- The globals have what is plotted. -/
structure Shows (g : Globals) (p : Plot) : Prop where
  configRead : g.configRead = p.configuration.isSome
  encoderSize : g.encoderSize = (p.configuration.map (·.1.toNat)).getD 0
  rangeResolution : g.rangeResolution = p.configuration.map (·.2.toNat)
  sweeps : g.navMessageCount = p.sweeps
  ranges : g.rangeList = p.points.map (·.range)
  bearings : g.bearingList = p.points.map (·.bearing)
  powers : g.powerList = p.points.map (·.power)

theorem shows_initial (stream : List UInt8) : Shows (.initial stream) .empty :=
  ⟨rfl, rfl, rfl, rfl, rfl, rfl, rfl⟩

/-- The number in two bytes of a payload, for the script. -/
theorem toNat_wordAt (payload : Bytes) (first : Nat) (h : first + 2 ≤ payload.length) :
    (wordAt payload first).toNat = fromBytesBig payload first (first + 2) := by
  have hbound := ofBEBytes_lt (slice payload first 2)
  rw [length_slice h] at hbound
  unfold wordAt fromBytesBig
  rw [Nat.add_sub_cancel_left]
  exact UInt16.toNat_ofNat_of_lt hbound

theorem shows_swept {p : Plot} {points : List Point} (hg : Shows g p) :
    Shows (g.swept points) { p with sweeps := p.sweeps + 1, points := p.points ++ points } := by
  have hranges : (p.points ++ points).map (·.range) = g.rangeList ++ points.map (·.range) := by
    rw [List.map_append, hg.ranges]
  have hbearings : (p.points ++ points).map (·.bearing) =
      g.bearingList ++ points.map (·.bearing) := by
    rw [List.map_append, hg.bearings]
  have hpowers : (p.points ++ points).map (·.power) = g.powerList ++ points.map (·.power) := by
    rw [List.map_append, hg.powers]
  unfold Globals.swept Globals.noted
  dsimp only
  split
  · exact ⟨hg.configRead, hg.encoderSize, hg.rangeResolution, congrArg (· + 1) hg.sweeps,
      hranges.symm, hbearings.symm, hpowers.symm⟩
  · exact ⟨hg.configRead, hg.encoderSize, hg.rangeResolution, congrArg (· + 1) hg.sweeps,
      hranges.symm, hbearings.symm, hpowers.symm⟩

/-- The client hands out navigation data and configurations, and nobody has asked for data. -/
structure Listening (c : Legacy.Client) : Prop where
  navigation : c.navigationDataCallback = true
  configuration : c.configurationDataCallback = true
  noFft : c.fftDataCallback = false
  quiet : c.sendRadarData = false

variable {c : Legacy.Client} {p : Plot} {r : Legacy.Client × List Legacy.Output}

/-- What both decoders make of a frame, with what is left for the script. -/
structure Agree (g : Globals) (p : Plot) (f : Frame) (rest : List UInt8)
    (r : Legacy.Client × List Legacy.Output) : Prop where
  rest : (next^[calls f] g).radarSocket = rest
  shown : Shows (next^[calls f] g) ((told f).toList.foldl Plot.add p)
  handsOut : List.Forall₂ HandsOut r.2 (told f).toList
  listening : Listening r.1

theorem calls_handled (hf : Handled f) : next^[calls f] g = next g := by
  unfold calls
  rw [if_pos hf]
  rfl

theorem agree_configuration (h : g.radarSocket = f.bytes ++ rest) (hg : Shows g p)
    (hc : Listening c) (htype : f.type = 10)
    (hdata : c.handleData (Legacy.messageOf f) = .ok r) : Agree g p f rest r := by
  obtain ⟨rfl, hlen⟩ := Legacy.Client.configuration_ok htype hdata
  have hlen' : 20 ≤ f.payload.length := hlen
  have htold : told f = some (.configuration (wordAt f.payload 6) (wordAt f.payload 2)) :=
    if_pos htype
  have hanswers : c.answers f.payload =
      [.configurationData (c.keeping f.payload).configurationData] := by
    unfold Legacy.Client.answers
    rw [hc.quiet, hc.configuration]
    rfl
  have hencoder := toNat_wordAt f.payload 6 (by omega)
  have hbin := toNat_wordAt f.payload 2 (by omega)
  have hnext : next^[calls f] g = _ :=
    (calls_handled (.inl htype)).trans (next_configuration h htype)
  refine ⟨?_, ?_, ?_, ⟨hc.navigation, hc.configuration, hc.noFft, hc.quiet⟩⟩
  · rw [hnext]
    rfl
  · rw [hnext, htold]
    exact ⟨rfl, hencoder.symm, congrArg some hbin.symm, hg.sweeps, hg.ranges, hg.bearings,
      hg.powers⟩
  · rw [htold, hanswers]
    exact .cons ⟨Legacy.ntohs_uint16Member (by omega), Legacy.ntohs_uint16Member (by omega)⟩ .nil

/-- The script at navigation data: without a configuration, or with an encoder size of 0, it
    keeps none of it. -/
theorem shows_navigation (h : g.radarSocket = f.bytes ++ rest) (hg : Shows g p)
    (htype : f.type = 123) (hlen : 10 ≤ f.payload.length) {records : List (UInt32 × UInt16)}
    {extra : Bytes} (htargets : f.payload.drop 10 = recordsBytes records ++ extra)
    (hextra : extra.length < navDataRecordLength) :
    (next g).radarSocket = rest ∧
      Shows (next g) (p.add (.sweep (wordAt f.payload 0) records)) := by
  have hazimuth := toNat_wordAt f.payload 0 (by omega)
  have hencoder := hg.encoderSize
  have hresolution := hg.rangeResolution
  unfold Plot.add
  cases hconfiguration : p.configuration with
  | none =>
    rw [hconfiguration] at hencoder
    rw [next_navigation_zero h htype hencoder]
    exact ⟨rfl, ⟨hg.configRead, hg.encoderSize, hg.rangeResolution, hg.sweeps, hg.ranges,
      hg.bearings, hg.powers⟩⟩
  | some configuration =>
    obtain ⟨encoderSize, binSize⟩ := configuration
    rw [hconfiguration] at hencoder hresolution
    have hencoder' : g.encoderSize = encoderSize.toNat := hencoder
    have hresolution' : g.rangeResolution = some binSize.toNat := hresolution
    dsimp only
    by_cases hzero : encoderSize = 0
    · have hg0 : g.encoderSize = 0 := by
        rw [hencoder', hzero]
        rfl
      rw [if_pos hzero, next_navigation_zero h htype hg0]
      exact ⟨rfl, ⟨hg.configRead, hg.encoderSize, hg.rangeResolution, hg.sweeps, hg.ranges,
        hg.bearings, hg.powers⟩⟩
    · have hg0 : g.encoderSize ≠ 0 :=
        fun heq => hzero (UInt16.toNat_inj.mp (hencoder'.symm.trans heq))
      rw [if_neg hzero, next_navigation h htype hg0 hresolution' htargets hextra, hazimuth,
        ← hencoder', ← hconfiguration]
      refine ⟨?_, shows_swept ⟨hg.configRead, hg.encoderSize, hg.rangeResolution, hg.sweeps,
        hg.ranges, hg.bearings, hg.powers⟩⟩
      unfold Globals.swept Globals.noted
      dsimp only
      split
      · rfl
      · rfl

theorem agree_navigation (h : g.radarSocket = f.bytes ++ rest) (hg : Shows g p)
    (hc : Listening c) (htype : f.type = 123)
    (hdata : c.handleData (Legacy.messageOf f) = .ok r) : Agree g p f rest r := by
  have hnot : ¬ f.type = 10 := by
    rw [htype]
    decide
  have hfirst : c.handleData (Legacy.messageOf f) =
      c.handleNavigationDataMessage (Legacy.messageOf f) := by
    unfold Legacy.Client.handleData
    rw [Legacy.messageId_messageOf, htype]
    rfl
  rw [hfirst] at hdata
  have hlen : 10 ≤ f.payload.length := by
    by_contra hshort
    exact c.received_navigation_short (f := f) hc.navigation hshort ⟨r, hdata⟩
  obtain ⟨records, extra, htargets, hextra⟩ :=
    Navtech.RadarClient.exists_records (f.payload.drop 10)
  rw [c.received_navigation hc.navigation hlen htargets hextra] at hdata
  obtain rfl := Except.ok.inj hdata
  have htold : told f = some (.sweep (wordAt f.payload 0) records) := by
    unfold told
    rw [if_neg hnot, if_pos htype, htargets, Navtech.RadarClient.recordsOf_append hextra]
  obtain ⟨hrest, hshows⟩ := shows_navigation h hg htype hlen htargets hextra
  rw [← calls_handled (g := g) (.inr (.inr htype))] at hrest hshows
  refine ⟨hrest, ?_, ?_, hc⟩
  · rw [htold]
    exact hshows
  · rw [htold]
    exact .cons ⟨Legacy.ntohs_uint16Member (by omega), rfl⟩ .nil

/-- A frame that the client does nothing with. -/
theorem handleData_other (hc : Listening c) (hconfiguration : f.type ≠ 10)
    (hnavigation : f.type ≠ 123) : c.handleData (Legacy.messageOf f) = .ok (c, []) := by
  have hquiet : c.handleFFTDataMessage (Legacy.messageOf f) = .ok (c, []) :=
    if_pos (by rw [hc.noFft]; exact Bool.false_ne_true)
  refine (if_neg hconfiguration).trans ?_
  split
  · exact hquiet
  · exact if_neg hnavigation

theorem agree_frame (h : g.radarSocket = f.bytes ++ rest) (hg : Shows g p) (hc : Listening c)
    (hskip : ¬ Handled f → Skippable f) (hdata : c.handleData (Legacy.messageOf f) = .ok r) :
    Agree g p f rest r := by
  by_cases hconfiguration : f.type = 10
  · exact agree_configuration h hg hc hconfiguration hdata
  by_cases hnavigation : f.type = 123
  · exact agree_navigation h hg hc hnavigation hdata
  rw [handleData_other hc hconfiguration hnavigation] at hdata
  obtain rfl := Except.ok.inj hdata
  have htold : told f = none := (if_neg hconfiguration).trans (if_neg hnavigation)
  have hnothing : List.Forall₂ HandsOut [] (told f).toList := by
    rw [htold]
    exact .nil
  by_cases hnavConfig : f.type = 204
  · obtain ⟨read, hread⟩ := next_navConfig h hnavConfig
    have hnext : next^[calls f] g = _ := (calls_handled (.inr (.inl hnavConfig))).trans hread
    refine ⟨?_, ?_, hnothing, hc⟩
    · rw [hnext]
      rfl
    · rw [hnext, htold]
      exact ⟨hg.configRead, hg.encoderSize, hg.rangeResolution, hg.sweeps, hg.ranges,
        hg.bearings, hg.powers⟩
  · have hother : ¬ Handled f := by
      rintro (h10 | h204 | h123)
      · exact hconfiguration h10
      · exact hnavConfig h204
      · exact hnavigation h123
    obtain ⟨data, messageType, payloadSize, hall⟩ := iterate_other h hother (hskip hother)
    refine ⟨?_, ?_, hnothing, hc⟩
    · rw [hall]
    · rw [hall, htold]
      exact ⟨hg.configRead, hg.encoderSize, hg.rangeResolution, hg.sweeps, hg.ranges,
        hg.bearings, hg.powers⟩

/-! ## Streams -/

/-- The first SDK's client, with the callbacks for what the script reads. -/
def listening : Legacy.Client :=
  { Legacy.Client.new with navigationDataCallback := true, configurationDataCallback := true }

theorem agree_stream {frames : List Frame} {r : Legacy.Client × List Legacy.Output}
    (h : g.radarSocket = frames.flatMap Frame.bytes ++ rest) (hg : Shows g p) (hc : Listening c)
    (hskip : ∀ f ∈ frames, ¬ Handled f → Skippable f)
    (hrun : Machine.run Legacy.Client.step c (frames.map .received) = .ok r) :
    List.Forall₂ HandsOut r.2 (frames.filterMap told) ∧
    (next^[(frames.map calls).sum] g).radarSocket = rest ∧
      Shows (next^[(frames.map calls).sum] g) ((frames.filterMap told).foldl Plot.add p) := by
  induction frames generalizing g p c r with
  | nil =>
    obtain rfl := Except.ok.inj hrun
    exact ⟨.nil, h, hg⟩
  | cons f frames ih =>
    obtain ⟨r₁, r₂, hstep, hrest, rfl⟩ := Machine.run_cons_ok hrun
    rw [List.flatMap_cons, List.append_assoc] at h
    have hfirst := agree_frame h hg hc (hskip f List.mem_cons_self) hstep
    obtain ⟨hothers, hsocket, hshows⟩ := ih hfirst.rest hfirst.shown hfirst.listening
      (fun f' hf' => hskip f' (List.mem_cons_of_mem f hf')) hrest
    have htold : (f :: frames).filterMap told = (told f).toList ++ frames.filterMap told := by
      rw [List.filterMap_cons]
      cases told f with
      | none => rfl
      | some t => rfl
    rw [htold, List.map_cons, List.sum_cons, Nat.add_comm, Function.iterate_add_apply,
      List.foldl_append]
    exact ⟨List.rel_append hfirst.handsOut hothers, hsocket, hshows⟩

/-- **Two decoders.** If the payload of every frame that the script does not read can be gone
    through 16 bytes at a time, then both decoders take from a stream what its frames say: the
    first SDK's client hands out each configuration and each sweep, the ranges of its records as
    `float`; and after as many calls as the frames take, the script is at the end of them, and
    its lists hold exactly the records of these sweeps that lie between three bins and 200
    metres, in order, with the bearings for the encoder size of the latest configuration. -/
theorem same_peaks {frames : List Frame} {rest : List UInt8}
    {r : Legacy.Client × List Legacy.Output}
    (hskip : ∀ f ∈ frames, ¬ Handled f → Skippable f)
    (hrun : Machine.run Legacy.Client.step listening (frames.map .received) = .ok r) :
    List.Forall₂ HandsOut r.2 (frames.filterMap told) ∧
    (next^[(frames.map calls).sum] (.initial (frames.flatMap Frame.bytes ++ rest))).radarSocket =
        rest ∧
      Shows (next^[(frames.map calls).sum] (.initial (frames.flatMap Frame.bytes ++ rest)))
        ((frames.filterMap told).foldl Plot.add .empty) :=
  agree_stream rfl (shows_initial _) ⟨rfl, rfl, rfl, rfl⟩ hskip hrun

/-- FFT data of two bytes, which the script does not read. -/
def otherFrame : Frame := ⟨30, List.replicate 16 0, by decide⟩

/-- Navigation data with a peak at 100 metres. -/
def peakFrame : Frame := ⟨123, List.replicate 10 0 ++ [5, 245, 225, 0, 1, 0], by decide⟩

/-- A configuration, a frame that is gone through, and a sweep. -/
def threeFrames : List Frame := [.of RadarClient.configurationFrame, otherFrame, peakFrame]

theorem same_peaks_three :
    ∃ r, Machine.run Legacy.Client.step listening (threeFrames.map .received) = .ok r ∧
      List.Forall₂ HandsOut r.2 (threeFrames.filterMap told) ∧
      (next^[(threeFrames.map calls).sum]
        (.initial (threeFrames.flatMap Frame.bytes ++ []))).radarSocket = [] ∧
      Shows (next^[(threeFrames.map calls).sum] (.initial (threeFrames.flatMap Frame.bytes ++ [])))
        ((threeFrames.filterMap told).foldl Plot.add .empty) := by
  have hskip : ∀ f ∈ threeFrames, ¬ Handled f → Skippable f := by
    intro f hf hother
    simp only [threeFrames, List.mem_cons, List.not_mem_nil, or_false] at hf
    rcases hf with rfl | rfl | rfl
    · exact absurd (.inl rfl) hother
    · refine ⟨[List.replicate 16 0], rfl, ?_⟩
      intro piece hpiece
      obtain rfl := List.mem_singleton.mp hpiece
      exact ⟨rfl, by decide⟩
    · exact absurd (.inr (.inr rfl)) hother
  obtain ⟨r, hr⟩ : ∃ r, Machine.run Legacy.Client.step listening
      (threeFrames.map .received) = .ok r := ⟨_, rfl⟩
  exact ⟨r, hr, same_peaks hskip hr⟩

end NavigationMode

end Python

end Navtech
