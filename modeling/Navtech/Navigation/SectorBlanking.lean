/-
  `Blanking_sector_list` of `cpp_17/navigation/sector_blanking.cpp`.

  The image of a list is a count byte, and eight bytes for each sector. `from_vector` means to
  reject an image with part of a sector at its end, but takes the remainder of the number of
  sectors by 4 instead: it accepts an image only where this number is a multiple of 4, with as
  much as seven bytes too many. Of the lists of up to eight sectors, those of 0, 4 and 8 survive
  the way through their image (`sectors_roundTrip_iff`).

  It neither limits the number of sectors nor removes those the list has. The first overload of
  `add` returns `false` whether it has added the sector or not.
-/
import Navtech.Lib.Buffer
import Navtech.Utility.Angle

namespace Navtech

open Buffer
open Navtech.Utility

/-- `Sector`: its two angles are kept normalised. -/
structure Sector where
  start : Angle
  finish : Angle
deriving DecidableEq

/-- Both angles are numbers in `[0, 360)`. -/
def Sector.InRange (s : Sector) : Prop := s.start.toFloat.InRange ∧ s.finish.toFloat.InRange

/-- `Blanking_sector_list`. Adding to it stops at eight sectors, reading bytes does not. -/
structure BlankingSectorList where
  sectors : List Sector
deriving DecidableEq

/-- A `std::length_error`. -/
structure LengthError where
  what : String
deriving DecidableEq, Repr

namespace BlankingSectorList

def maxSectors : Nat := 8

def empty : BlankingSectorList := ⟨[]⟩

/-- `Blanking_sector_list(std::initializer_list<Sector>)`. -/
def ofInitializerList (init : List Sector) : BlankingSectorList :=
  ⟨init.take (if init.length < maxSectors then init.length else maxSectors)⟩

/-- `add(const Sector&)`. -/
def add (l : BlankingSectorList) (sector : Sector) : Bool × BlankingSectorList :=
  if maxSectors ≤ l.sectors.length then (false, l) else (false, ⟨l.sectors ++ [sector]⟩)

/-- `add(Sector&&)`. -/
def addMoved (l : BlankingSectorList) (sector : Sector) : Bool × BlankingSectorList :=
  if maxSectors ≤ l.sectors.length then (false, l) else (true, ⟨l.sectors ++ [sector]⟩)

/-! ## To bytes and back -/

/-- Four bytes in network order. -/
def angleToBytes (a : Angle) : List UInt8 := toByteArray (floatToUint32Network a.toFloat)

/-- Start before stop. -/
def sectorToBytes (s : Sector) : List UInt8 := angleToBytes s.start ++ angleToBytes s.finish

/-- `to_vector`: the number of sectors in one byte, then the sectors. -/
def toVector (l : BlankingSectorList) : List UInt8 :=
  UInt8.ofNat l.sectors.length :: l.sectors.flatMap sectorToBytes

/-- `(buffer.size() - 1) / 8`. The subtraction wraps where there is nothing to subtract from. -/
def numSectors : List UInt8 → Nat
  | [] => (2 ^ 64 - 1) / 8
  | _ :: sectors => sectors.length / 8

/-- The two tests of `from_vector`. The second is not made for an empty buffer, which the first
    rejects. -/
def checkSize (buffer : List UInt8) : Except LengthError Unit :=
  if numSectors buffer % 4 ≠ 0 then .error ⟨"Not enough bytess for valid sector"⟩
  else if (buffer.headD 0).toNat ≠ numSectors buffer then
    .error ⟨"Number of sectors does not match"⟩
  else .ok ()

/-- `Angle { from_uint32_network(from_byte_array(bytes)) }`, of the four bytes from `it` on. -/
def angleAt (turns : Nat) (buffer : List UInt8) (it : Nat) : Option Angle :=
  Angle.ofFloat turns (fromUint32Network (fromByteArray (slice buffer it 4)))

/-- The two angles from `it` on. Normalising one may take more turns than there are. -/
def sectorAt (turns : Nat) (buffer : List UInt8) (it : Nat) : Option Sector := do
  let start ← angleAt turns buffer it
  let finish ← angleAt turns buffer (it + 4)
  return ⟨start, finish⟩

/-- The loop of `from_vector`, with `n` sectors to go. -/
def readSectors (turns : Nat) (buffer : List UInt8) :
    Nat → Nat → List Sector → Option (List Sector)
  | 0, _, sectors => some sectors
  | n + 1, it, sectors => do
    let sector ← sectorAt turns buffer it
    readSectors turns buffer n (it + 8) (sectors ++ [sector])

/-- `from_vector`: what it throws, if anything, and the list after it. It has no result where
    `turns` turns of its loop are not enough for an angle. -/
def fromVector (turns : Nat) (buffer : List UInt8) (l : BlankingSectorList) :
    Option (Except LengthError Unit × BlankingSectorList) :=
  match checkSize buffer with
  | .error e => some (.error e, l)
  | .ok _ => (readSectors turns buffer (numSectors buffer) 1 l.sectors).map fun s => (.ok (), ⟨s⟩)

theorem fromVector_error {buffer : List UInt8} {e : LengthError}
    (h : checkSize buffer = .error e) (turns : Nat) (l : BlankingSectorList) :
    fromVector turns buffer l = some (.error e, l) := by
  unfold fromVector
  rw [h]

theorem fromVector_ok {buffer : List UInt8} (h : checkSize buffer = .ok ()) (turns : Nat)
    (l : BlankingSectorList) :
    fromVector turns buffer l =
      (readSectors turns buffer (numSectors buffer) 1 l.sectors).map fun s => (.ok (), ⟨s⟩) := by
  unfold fromVector
  rw [h]

/-! ## Reading sectors -/

/-- The sectors that `n` turns of the loop read. -/
theorem readSectors_eq {turns n it : Nat} {buffer : List UInt8} {sectors read : List Sector}
    (h : readSectors turns buffer n it sectors = some read) :
    ∃ new, read = sectors ++ new ∧
      new.map some = (List.range' it n 8).map (sectorAt turns buffer) := by
  induction n generalizing it sectors with
  | zero =>
    obtain rfl := Option.some.inj h
    exact ⟨[], (List.append_nil _).symm, rfl⟩
  | succ n ih =>
    obtain ⟨sector, hsector, hrest⟩ := Option.bind_eq_some_iff.mp h
    obtain ⟨new, rfl, hnew⟩ := ih hrest
    refine ⟨sector :: new, List.append_assoc _ _ _, ?_⟩
    rw [List.range'_succ, List.map_cons, List.map_cons, hnew, hsector]

/-- An angle is read back from its image, wherever it stands. -/
theorem angleAt_image {a : Angle} (h : a.toFloat.InRange) (turns : Nat) {buffer : List UInt8}
    (pre post : List UInt8) {it : Nat} (hbuffer : buffer = pre ++ angleToBytes a ++ post)
    (hit : pre.length = it) : angleAt turns buffer it = some a := by
  have hlength : (angleToBytes a).length = 4 := length_toByteArray _
  unfold angleAt
  rw [hbuffer, slice_append hit hlength]
  unfold angleToBytes
  rw [fromByteArray_toByteArray, fromUint32Network_floatToUint32Network, Angle.ofFloat_toFloat h]

theorem length_sectorToBytes (s : Sector) : (sectorToBytes s).length = 8 := by
  unfold sectorToBytes angleToBytes
  rw [List.length_append, length_toByteArray, length_toByteArray]

theorem sectorAt_image {s : Sector} (h : s.InRange) (turns : Nat) {buffer : List UInt8}
    (pre post : List UInt8) {it : Nat} (hbuffer : buffer = pre ++ sectorToBytes s ++ post)
    (hit : pre.length = it) :
    sectorAt turns buffer it = some s := by
  unfold sectorToBytes at hbuffer
  have hstart : angleAt turns buffer it = some s.start := by
    refine angleAt_image h.1 turns pre (angleToBytes s.finish ++ post) ?_ hit
    rw [hbuffer]
    simp
  have hfinish : angleAt turns buffer (it + 4) = some s.finish := by
    refine angleAt_image h.2 turns (pre ++ angleToBytes s.start) post ?_ ?_
    · rw [hbuffer]
      simp
    · rw [List.length_append, hit]
      exact congrArg (it + ·) (length_toByteArray _)
  unfold sectorAt
  rw [hstart, hfinish]
  rfl

/-- The loop reads the sectors back from their image. -/
theorem readSectors_image (turns : Nat) {sectors : List Sector} (h : ∀ s ∈ sectors, s.InRange)
    {buffer : List UInt8} (pre : List UInt8)
    (hbuffer : buffer = pre ++ sectors.flatMap sectorToBytes)
    (before : List Sector) {it : Nat} (hit : pre.length = it) :
    readSectors turns buffer sectors.length it before = some (before ++ sectors) := by
  induction sectors generalizing pre before it with
  | nil => exact congrArg some (List.append_nil before).symm
  | cons s rest ih =>
    rw [List.flatMap_cons] at hbuffer
    have hsector : sectorAt turns buffer it = some s :=
      sectorAt_image (h s List.mem_cons_self) turns pre _
        (hbuffer.trans (List.append_assoc _ _ _).symm) hit
    have hrest := ih (fun s' hs' => h s' (List.mem_cons_of_mem s hs'))
      (pre ++ sectorToBytes s) (hbuffer.trans (List.append_assoc _ _ _).symm) (before ++ [s])
      (by rw [List.length_append, hit, length_sectorToBytes])
    rw [List.append_assoc] at hrest
    show (sectorAt turns buffer it).bind _ = _
    rw [hsector]
    exact hrest

/-! ## The round trip -/

/-- Reading the image of the list into an empty list gives the list back. -/
def RoundTrip (l : BlankingSectorList) : Prop :=
  ∃ turns, fromVector turns l.toVector empty = some (.ok (), l)

theorem length_flatMap (sectors : List Sector) :
    (sectors.flatMap sectorToBytes).length = 8 * sectors.length := by
  induction sectors with
  | nil => rfl
  | cons s rest ih =>
    rw [List.flatMap_cons, List.length_append, ih, length_sectorToBytes, List.length_cons]
    omega

theorem numSectors_toVector (l : BlankingSectorList) :
    numSectors l.toVector = l.sectors.length := by
  show (l.sectors.flatMap sectorToBytes).length / 8 = _
  rw [length_flatMap]
  omega

theorem checkSize_toVector {l : BlankingSectorList} (hsize : l.sectors.length ≤ 8) :
    checkSize l.toVector = if l.sectors.length % 4 ≠ 0 then
      .error ⟨"Not enough bytess for valid sector"⟩ else .ok () := by
  have hcount : (l.toVector.headD 0).toNat = l.sectors.length := by
    show (UInt8.ofNat l.sectors.length).toNat = _
    rw [UInt8.toNat_ofNat']
    omega
  unfold checkSize
  rw [numSectors_toVector l, hcount]
  simp

/-- **The round trip.** A list of at most eight sectors, with angles in the range, comes back
    from its image exactly if the number of sectors is a multiple of 4. -/
theorem sectors_roundTrip_iff {l : BlankingSectorList} (hsize : l.sectors.length ≤ 8)
    (hrange : ∀ s ∈ l.sectors, s.InRange) : RoundTrip l ↔ l.sectors.length % 4 = 0 := by
  have hcheck := checkSize_toVector hsize
  by_cases hcount : l.sectors.length % 4 = 0
  · rw [if_neg (not_not.mpr hcount)] at hcheck
    have hread : readSectors 0 l.toVector l.sectors.length 1 [] = some ([] ++ l.sectors) :=
      readSectors_image 0 hrange [UInt8.ofNat l.sectors.length] rfl [] rfl
    refine iff_of_true ⟨0, ?_⟩ hcount
    rw [fromVector_ok hcheck, numSectors_toVector l]
    unfold empty
    rw [hread]
    rfl
  · rw [if_pos hcount] at hcheck
    refine iff_of_false ?_ hcount
    intro h
    obtain ⟨turns, h⟩ := h
    rw [fromVector_error hcheck] at h
    exact nomatch (Prod.mk.inj (Option.some.inj h)).1

/-- From 10 to 20 degrees. -/
def exampleSector : Sector := ⟨⟨⟨0x41200000⟩, by decide⟩, ⟨⟨0x41A00000⟩, by decide⟩⟩

theorem exampleSector_inRange : exampleSector.InRange :=
  ⟨⟨Binary32.units 10, by decide, by decide, by decide⟩,
    ⟨Binary32.units 20, by decide, by decide, by decide⟩⟩

theorem roundTrip_four : RoundTrip ⟨List.replicate 4 exampleSector⟩ := by
  refine (sectors_roundTrip_iff (by decide) ?_).mpr (by decide)
  intro s hs
  rw [List.eq_of_mem_replicate hs]
  exact exampleSector_inRange

/-- The image of a list with one sector is rejected. -/
theorem not_roundTrip_one :
    exampleSector.InRange ∧ ¬ RoundTrip ⟨[exampleSector]⟩ ∧
      ∀ turns, fromVector turns (toVector ⟨[exampleSector]⟩) empty =
        some (.error ⟨"Not enough bytess for valid sector"⟩, empty) := by
  have hrejected : ∀ turns, fromVector turns (toVector ⟨[exampleSector]⟩) empty =
      some (.error ⟨"Not enough bytess for valid sector"⟩, empty) :=
    fun turns => fromVector_error rfl turns empty
  refine ⟨exampleSector_inRange, fun h => ?_, hrejected⟩
  obtain ⟨turns, h⟩ := h
  rw [hrejected] at h
  exact nomatch (Prod.mk.inj (Option.some.inj h)).1

end BlankingSectorList

end Navtech
