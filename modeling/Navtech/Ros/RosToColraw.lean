/-
  `RosToColraw` of `ros1/src`: the frames of a radar's image as records of a colraw file.

  The first frame starts the clock, and is not written. Every other frame is one record a row, with
  the ticks at the row, a time of 64 bits in two words, and its azimuth in counts of the encoder.
  Two things are lost on the way. The mask for the upper word leaves the lower half of the swapped
  ticks zero, and it is the lower half that is kept: the upper word is always zero (`timeOf_record`).
  And the azimuth is the row times 14, whatever the size of the encoder is (`azimuthOf_record`).

  `cv_bridge` and the arithmetic of `ros::Time` are not part of the repository; what they return,
  or that they throw, is a parameter.
-/
import Navtech.Lib.Buffer
import Navtech.Utility.NetConversion

namespace Navtech

namespace Ros

namespace RosToColraw

open Buffer ByteOrder
open Utility

/-- What ends the program. -/
inductive Fault where
  /-- The product of two `uint16_t` does not fit an `int`. -/
  | overflow
  | exception
deriving DecidableEq, Repr

/-- A `ros::Time`, and a `ros::Duration`. -/
structure Stamp where
  sec : UInt32
  nsec : UInt32
deriving DecidableEq, Repr

/-- What `SetParams` has set. -/
structure Config where
  rangeRes : Binary32
  rangeInBins : UInt16
  azimuths : UInt16
  encoderSize : UInt16
  rotationSpeed : UInt16
  packetRate : UInt16
  rangeGain : Binary32
  rangeOffset : Binary32
  azimuths_ne : azimuths ≠ 0
  encoderSize_ne : encoderSize ≠ 0
  rotationSpeed_ne : rotationSpeed ≠ 0

/-- The library's calls. `none` is an exception. -/
structure Library where
  /-- `(stamp - begin).toSec() > durationOfSplitFile.toSec()`. -/
  splits : Stamp → Stamp → Option Bool
  /-- `currenttime`, from the stamps of the frame and of the one before, the number of azimuths and
      the row. -/
  currenttime : Stamp → Stamp → Nat → Nat → Option Stamp
  /-- `range_res * 10000`, in floats, as an integer. -/
  binSize : Binary32 → UInt16

/-- A message, with what the clocks say when it is handled. -/
structure Frame where
  stamp : Stamp
  now : Stamp
  /-- What `Set_FileName` makes of the time. -/
  filename : String
  /-- The copy of the image, by bin and azimuth. -/
  image : Option (Nat → Nat → UInt8)

/-- A record of a file, and beside it the row and the ticks that it is for. -/
structure Written where
  filename : String
  az : Nat
  ticks : UInt64
  record : List UInt8
deriving DecidableEq, Repr

/-- A file is begun with the record of the configuration, and then only grows. -/
inductive FileOperation where
  | create (filename : String) (config : List UInt8)
  | append (written : Written)
deriving DecidableEq, Repr

/-- The globals of the program, and what has been done to its files. -/
structure State where
  firstpass : Bool
  begin : Stamp
  previousticks : UInt64
  previoustime : Stamp
  sweepCounter : UInt16
  filename : String
  operations : List FileOperation
deriving DecidableEq, Repr

def globalUseRosTime : Bool := false

def networkVersion : UInt8 := 1

/-- The bytes that every record begins with. -/
def footprint : List UInt8 :=
  [0x00, 0x01, 0x03, 0x03, 0x07, 0x07, 0x0f, 0x0f, 0x1f, 0x1f, 0x3f, 0x3f, 0x7f, 0x7f, 0xfe, 0xfe]

/-- `_byteswap_uint64`, all eight bytes. -/
def byteswapUint64 (x : UInt64) : UInt64 := UInt64.ofNat (byteSwap 8 x.toNat)

/-- What a record begins with: its length, its type and its time, and then the header of the
    message. -/
def recordHeader (length : UInt32) (type : UInt8) (top bottom payloadSize : UInt32) : List UInt8 :=
  leBytes 4 length.toNat ++ [type] ++ leBytes 4 top.toNat ++ leBytes 4 bottom.toNat ++ footprint ++
    [networkVersion, type] ++ leBytes 4 (htonl payloadSize).toNat

/-- `WriteConfigToFile`: what is written. -/
def configRecord (lib : Library) (c : Config) : List UInt8 :=
  recordHeader 42 10 (htonl 0) 25903964 20 ++ leBytes 2 (htons c.azimuths).toNat ++
    leBytes 2 (htons (lib.binSize c.rangeRes)).toNat ++ leBytes 2 (htons c.rangeInBins).toNat ++
    leBytes 2 (htons c.encoderSize).toNat ++ leBytes 2 (htons c.rotationSpeed).toNat ++
    leBytes 2 (htons c.packetRate).toNat ++ leBytes 4 (htonl c.rangeGain.bits).toNat ++
    leBytes 4 (htonl c.rangeOffset.bits).toNat

/-- `(azimuths*rotation_speed)`. -/
def turn (c : Config) : Except Fault UInt64 :=
  if c.azimuths.toNat * c.rotationSpeed.toNat < 2 ^ 31 then
    .ok (UInt64.ofNat (c.azimuths.toNat * c.rotationSpeed.toNat))
  else .error .overflow

/-- A call of the library that may throw. -/
def thrown {α : Type} : Option α → Except Fault α
  | none => .error .exception
  | some a => .ok a

/-- The buffer of one row. -/
def record (c : Config) (image : Nat → Nat → UInt8) (az : Nat) (ticks : UInt64)
    (sweepCounter : UInt16) (currenttime : Stamp) : List UInt8 :=
  let azimuthForWriting : UInt16 := UInt16.ofNat (az * 14)
  let payloadSize : UInt32 := c.rangeInBins.toUInt32 + 14
  let length : UInt32 := 14 + c.rangeInBins.toUInt32 + 22
  let netTicks := byteswapUint64 ticks
  let lowbits := (netTicks >>> 32).toUInt32
  let highbits := (netTicks &&& 0xFFFFFFFF00000000).toUInt32
  recordHeader length 30 (htonl highbits) (htonl lowbits) payloadSize ++ leBytes 2 (htons 14).toNat ++
    leBytes 2 (htons sweepCounter).toNat ++ leBytes 2 (htons azimuthForWriting).toNat ++
    leBytes 4 currenttime.sec.toNat ++ leBytes 4 currenttime.nsec.toNat ++
    (List.range c.rangeInBins.toNat).map fun bin => image bin az

section Handler

variable (lib : Library) (c : Config)

/-- `WriteConfigToFile` begins the file. -/
def writeConfigToFile (s : State) : State :=
  { s with operations := s.operations ++ [.create s.filename (configRecord lib c)] }

/-- The record of a row is appended to the file, and the sweep counter goes on. -/
def State.append (s : State) (az : Nat) (ticks : UInt64) (record : List UInt8) : State :=
  { s with
    operations := s.operations ++ [.append ⟨s.filename, az, ticks, record⟩]
    sweepCounter := if s.sweepCounter < 65535 then s.sweepCounter + 1 else 0 }

/-- The loop over the azimuths, with `turns` turns left. -/
def writeRows (turn currenttick : UInt64) (image : Nat → Nat → UInt8) (stamp : Stamp) :
    Nat → Nat → State → UInt64 → Except Fault (State × UInt64)
  | 0, _, s, ticks => .ok (s, ticks)
  | turns + 1, az, s, _ => do
    let ticks := currenttick + UInt64.ofNat az * 10 * 1000000000 / turn
    let currenttime ← thrown (lib.currenttime stamp s.previoustime c.azimuths.toNat az)
    let record := record c image az ticks s.sweepCounter currenttime
    writeRows turn currenttick image stamp turns (az + 1) (s.append az ticks record) ticks

/-- The header's stamp, or the clock where there is none. -/
def stampOf (f : Frame) : Stamp :=
  if f.stamp.sec = 0 ∨ globalUseRosTime then f.now else f.stamp

/-- The first image is not written: it sets the clock and the ticks. -/
def firstPass (s : State) (f : Frame) : Except Fault State := do
  let turn ← turn c
  let previousticks := 36530730 - 1 * 10 * 100000000 / turn
  let _ ← thrown f.image
  return { s with
    firstpass := false
    begin := stampOf f
    previousticks := previousticks
    previoustime := stampOf f }

/-- A new file for what comes after `durationOfSplitFile`. -/
def splitFile (s : State) (f : Frame) : Except Fault State := do
  if ← thrown (lib.splits (stampOf f) s.begin) then
    return writeConfigToFile lib c { s with begin := stampOf f, filename := f.filename }
  else return s

/-- Every later image is written row by row, with ticks that go on from the image before. -/
def laterPass (s : State) (f : Frame) : Except Fault State := do
  let image ← thrown f.image
  let s ← splitFile lib c s f
  let turn ← turn c
  let ticks := s.previousticks + 1 * 10 * 1000000000 / turn
  let (s, ticks) ← writeRows lib c turn ticks image (stampOf f) c.azimuths.toNat 0 s ticks
  return { s with previousticks := ticks, previoustime := stampOf f }

/-- `DataHandler`, by the flag of the first pass. -/
def dataHandler (s : State) (f : Frame) : Except Fault State :=
  if s.firstpass then firstPass c s f else laterPass lib c s f

/-- The globals before `main`. -/
def State.initial (filename : String) : State where
  firstpass := true
  begin := ⟨0, 0⟩
  previousticks := 0
  previoustime := ⟨0, 0⟩
  sweepCounter := 0
  filename := filename
  operations := []

/-- `main`: the first file, and then the frames. -/
def main (filename : String) (frames : List Frame) : Except Fault State :=
  frames.foldlM (dataHandler lib c) (writeConfigToFile lib c (State.initial filename))

end Handler

/-! ## What a record says -/

/-- The time of a record, whose words are in the order of the host. -/
def timeOf (record : List UInt8) : Nat :=
  ofLEBytes (slice record 5 4) * 2 ^ 32 + ofLEBytes (slice record 9 4)

/-- The azimuth in a record. -/
def azimuthOf (record : List UInt8) : Nat := ofBEBytes (slice record 39 2)

/-- The size of the encoder in a configuration record. -/
def encoderSizeOf (config : List UInt8) : Nat := ofBEBytes (slice config 41 2)

theorem slice_of_eq {r a b : List UInt8} {off n : Nat} (h : ∃ rest, r = a ++ b ++ rest)
    (ha : a.length = off) (hb : b.length = n) : slice r off n = b := by
  obtain ⟨rest, rfl⟩ := h
  exact slice_append ha hb

section Records

variable {length top bottom payloadSize : UInt32} {type : UInt8}

theorem length_recordHeader : (recordHeader length type top bottom payloadSize).length = 35 := by
  simp only [recordHeader, List.length_append, length_leBytes, List.length_cons, List.length_nil]
  rfl

theorem timeOf_recordHeader (body : List UInt8) :
    timeOf (recordHeader length type top bottom payloadSize ++ body) =
      top.toNat * 2 ^ 32 + bottom.toNat := by
  have htop : slice (recordHeader length type top bottom payloadSize ++ body) 5 4 =
      leBytes 4 top.toNat := by
    refine slice_of_eq (a := leBytes 4 length.toNat ++ [type]) ?_ ?_ (length_leBytes 4 _)
    · apply Exists.intro
      simp only [recordHeader, List.append_assoc]
      rfl
    · rw [List.length_append, length_leBytes]
      rfl
  have hbottom : slice (recordHeader length type top bottom payloadSize ++ body) 9 4 =
      leBytes 4 bottom.toNat := by
    refine slice_of_eq (a := leBytes 4 length.toNat ++ [type] ++ leBytes 4 top.toNat) ?_ ?_
      (length_leBytes 4 _)
    · apply Exists.intro
      simp only [recordHeader, List.append_assoc]
      rfl
    · rw [List.length_append, List.length_append, length_leBytes, length_leBytes]
      rfl
  rw [timeOf, htop, hbottom, ofLEBytes_leBytes, ofLEBytes_leBytes,
    Nat.mod_eq_of_lt (show top.toNat < 256 ^ 4 from top.toNat_lt),
    Nat.mod_eq_of_lt (show bottom.toNat < 256 ^ 4 from bottom.toNat_lt)]

/-- A field of two bytes in network order, behind `pre`. -/
theorem ofBEBytes_slice_htons (pre : List UInt8) {r : List UInt8} {off : Nat} {v : UInt16}
    (h : ∃ rest, r = pre ++ leBytes 2 (htons v).toNat ++ rest) (hpre : pre.length = off) :
    ofBEBytes (slice r off 2) = v.toNat := by
  rw [slice_of_eq h hpre (length_leBytes 2 _), toNat_htons, leBytes_byteSwap,
    ofBEBytes_beBytes]
  exact Nat.mod_eq_of_lt v.toNat_lt

theorem encoderSizeOf_configRecord (lib : Library) (c : Config) :
    encoderSizeOf (configRecord lib c) = c.encoderSize.toNat := by
  refine ofBEBytes_slice_htons (recordHeader 42 10 (htonl 0) 25903964 20 ++
    leBytes 2 (htons c.azimuths).toNat ++ leBytes 2 (htons (lib.binSize c.rangeRes)).toNat ++
    leBytes 2 (htons c.rangeInBins).toNat) ?_ ?_
  · apply Exists.intro
    simp only [configRecord, List.append_assoc]
    rfl
  · simp only [List.length_append, length_recordHeader, length_leBytes]

end Records

theorem toUInt32_and_upper (x : UInt64) : (x &&& 0xFFFFFFFF00000000).toUInt32 = 0 := by
  rw [← UInt32.toNat_inj, UInt64.toNat_toUInt32, UInt64.toNat_and, Nat.and_mod_two_pow]
  exact Nat.and_zero _

/-- Swapped twice, the lower half of the ticks is in its place. -/
theorem toNat_lowbits (ticks : UInt64) :
    (htonl (byteswapUint64 ticks >>> 32).toUInt32).toNat = ticks.toNat % 2 ^ 32 := by
  have hlt : byteSwap 8 ticks.toNat < 2 ^ 64 := byteSwap_lt 8 ticks.toNat
  have hhalves := byteSwap_add 4 4 ticks.toNat
  have hlow := byteSwap_lt 4 (ticks.toNat / 256 ^ 4)
  have hhigh := byteSwap_lt 4 ticks.toNat
  have hshift : (byteswapUint64 ticks >>> 32).toUInt32.toNat = byteSwap 4 ticks.toNat := by
    rw [UInt64.toNat_toUInt32, UInt64.toNat_shiftRight, byteswapUint64, UInt64.toNat_ofNat',
      Nat.mod_eq_of_lt hlt, Nat.shiftRight_eq_div_pow]
    change byteSwap (4 + 4) ticks.toNat / 2 ^ 32 % 2 ^ 32 = _
    omega
  rw [toNat_htonl, hshift, byteSwap_byteSwap]
  rfl

section Record

variable {c : Config} {image : Nat → Nat → UInt8} {az : Nat} {ticks : UInt64}
  {sweepCounter : UInt16} {currenttime : Stamp}

/-- The upper word of the time is zero. -/
theorem timeOf_record :
    timeOf (record c image az ticks sweepCounter currenttime) = ticks.toNat % 2 ^ 32 := by
  simp only [record, List.append_assoc]
  have hzero : (htonl 0).toNat = 0 := rfl
  rw [timeOf_recordHeader, toUInt32_and_upper, toNat_lowbits, hzero, Nat.zero_mul, Nat.zero_add]

theorem azimuthOf_record :
    azimuthOf (record c image az ticks sweepCounter currenttime) = az * 14 % 2 ^ 16 := by
  have h : azimuthOf (record c image az ticks sweepCounter currenttime) =
      (UInt16.ofNat (az * 14)).toNat := by
    refine ofBEBytes_slice_htons (recordHeader (14 + c.rangeInBins.toUInt32 + 22) 30
      (htonl (byteswapUint64 ticks &&& 0xFFFFFFFF00000000).toUInt32)
      (htonl (byteswapUint64 ticks >>> 32).toUInt32) (c.rangeInBins.toUInt32 + 14) ++
      leBytes 2 (htons 14).toNat ++ leBytes 2 (htons sweepCounter).toNat) ?_ ?_
    · apply Exists.intro
      simp only [record, List.append_assoc]
      rfl
    · simp only [List.length_append, length_recordHeader, length_leBytes]
  rw [h, UInt16.toNat_ofNat']

end Record

end RosToColraw

end Ros

end Navtech
