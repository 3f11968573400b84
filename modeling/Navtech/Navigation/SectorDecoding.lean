/-
  When `Blanking_sector_list::from_vector` ends.

  It throws, or reads as many sectors as the buffer has, with two angles each. The loop in
  `Angle::normalise` ends for an angle exactly if its pattern is not a number or stands for one
  that is not above 2^33, and nothing looks at the patterns before. So the call ends exactly if
  it throws, or all patterns are of this kind (`fromVector_ends_iff`).
-/
import Navtech.Navigation.SectorBlanking
import Navtech.Utility.AngleLoop

namespace Navtech

open Buffer
open Navtech.Utility

namespace BlankingSectorList

variable {turns more n it : Nat} {buffer : List UInt8} {sectors : List Sector}

/-- The pattern of the angle at the place `it`. -/
def patternAt (buffer : List UInt8) (it : Nat) : Binary32 :=
  fromUint32Network (fromByteArray (slice buffer it 4))

/-! ## More turns -/

theorem angleAt_mono {a : Angle} (h : angleAt turns buffer it = some a) (hle : turns ≤ more) :
    angleAt more buffer it = some a := by
  obtain ⟨value, hvalue, rfl⟩ := Option.map_eq_some_iff.mp h
  exact Option.map_eq_some_iff.mpr ⟨value, Binary32.wrap_mono hvalue hle, rfl⟩

theorem sectorAt_mono {s : Sector} (h : sectorAt turns buffer it = some s) (hle : turns ≤ more) :
    sectorAt more buffer it = some s := by
  obtain ⟨start, hstart, h⟩ := Option.bind_eq_some_iff.mp h
  obtain ⟨finish, hfinish, h⟩ := Option.bind_eq_some_iff.mp h
  unfold sectorAt
  rw [angleAt_mono hstart hle, angleAt_mono hfinish hle]
  exact h

theorem readSectors_mono {read : List Sector}
    (h : readSectors turns buffer n it sectors = some read) (hle : turns ≤ more) :
    readSectors more buffer n it sectors = some read := by
  induction n generalizing it sectors with
  | zero => exact h
  | succ n ih =>
    obtain ⟨sector, hsector, hrest⟩ := Option.bind_eq_some_iff.mp h
    exact Option.bind_eq_some_iff.mpr ⟨sector, sectorAt_mono hsector hle, ih hrest⟩

/-! ## When the loops end -/

theorem angleAt_ends_iff (buffer : List UInt8) (it : Nat) :
    (∃ turns a, angleAt turns buffer it = some a) ↔ (patternAt buffer it).Wraps := by
  rw [← Binary32.wrap_ends_iff]
  refine exists_congr fun turns => ?_
  rw [Option.ne_none_iff_exists']
  constructor
  · rintro ⟨a, ha⟩
    obtain ⟨value, hvalue, -⟩ := Option.map_eq_some_iff.mp ha
    exact ⟨value, hvalue⟩
  · rintro ⟨value, hvalue⟩
    exact ⟨_, Option.map_eq_some_iff.mpr ⟨value, hvalue, rfl⟩⟩

theorem sectorAt_ends_iff (buffer : List UInt8) (it : Nat) :
    (∃ turns s, sectorAt turns buffer it = some s) ↔
      (patternAt buffer it).Wraps ∧ (patternAt buffer (it + 4)).Wraps := by
  rw [← angleAt_ends_iff, ← angleAt_ends_iff]
  constructor
  · rintro ⟨turns, s, hs⟩
    obtain ⟨start, hstart, h⟩ := Option.bind_eq_some_iff.mp hs
    obtain ⟨finish, hfinish, -⟩ := Option.bind_eq_some_iff.mp h
    exact ⟨⟨turns, start, hstart⟩, turns, finish, hfinish⟩
  · rintro ⟨⟨t, start, hstart⟩, t', finish, hfinish⟩
    refine ⟨max t t', ⟨start, finish⟩, ?_⟩
    unfold sectorAt
    rw [angleAt_mono hstart (Nat.le_max_left t t'), angleAt_mono hfinish (Nat.le_max_right t t')]
    rfl

/-- The loop over the sectors ends if it does for each of their angles. -/
theorem readSectors_ends_iff (buffer : List UInt8) (n it : Nat) (sectors : List Sector) :
    (∃ turns read, readSectors turns buffer n it sectors = some read) ↔
      ∀ i < 2 * n, (patternAt buffer (it + 4 * i)).Wraps := by
  induction n generalizing it sectors with
  | zero => exact iff_of_true ⟨0, sectors, rfl⟩ fun i hi => absurd hi (Nat.not_lt_zero i)
  | succ n ih =>
    have hsplit : (∀ i < 2 * (n + 1), (patternAt buffer (it + 4 * i)).Wraps) ↔
        ((patternAt buffer it).Wraps ∧ (patternAt buffer (it + 4)).Wraps) ∧
          ∀ i < 2 * n, (patternAt buffer (it + 8 + 4 * i)).Wraps := by
      constructor
      · intro h
        refine ⟨⟨h 0 (by omega), h 1 (by omega)⟩, fun i hi => ?_⟩
        rw [show it + 8 + 4 * i = it + 4 * (i + 2) by omega]
        exact h (i + 2) (by omega)
      · rintro ⟨⟨hstart, hfinish⟩, hrest⟩ i hi
        obtain _ | _ | i := i
        · exact hstart
        · exact hfinish
        · rw [show it + 4 * (i + 1 + 1) = it + 8 + 4 * i by omega]
          exact hrest i (by omega)
    rw [hsplit, ← sectorAt_ends_iff]
    constructor
    · rintro ⟨turns, read, hread⟩
      obtain ⟨sector, hsector, hrest⟩ := Option.bind_eq_some_iff.mp hread
      exact ⟨⟨turns, sector, hsector⟩, (ih (it + 8) _).mp ⟨turns, read, hrest⟩⟩
    · rintro ⟨⟨t, sector, hsector⟩, hrest⟩
      obtain ⟨t', read, hread⟩ := (ih (it + 8) (sectors ++ [sector])).mpr hrest
      exact ⟨max t t', read, Option.bind_eq_some_iff.mpr ⟨sector,
        sectorAt_mono hsector (Nat.le_max_left t t'),
        readSectors_mono hread (Nat.le_max_right t t')⟩⟩

/-- **The call ends** exactly if it throws, or none of the angles in the buffer is above 2^33. -/
theorem fromVector_ends_iff (buffer : List UInt8) (l : BlankingSectorList) :
    (∃ turns, fromVector turns buffer l ≠ none) ↔
      (∃ e, checkSize buffer = .error e) ∨
        ∀ i < 2 * numSectors buffer, (patternAt buffer (1 + 4 * i)).Wraps := by
  cases hcheck : checkSize buffer with
  | error e =>
    refine iff_of_true ⟨0, ?_⟩ (.inl ⟨e, rfl⟩)
    rw [fromVector_error hcheck]
    exact Option.some_ne_none _
  | ok _ =>
    have hreturns : ¬ ∃ e, Except.ok () = (Except.error e : Except LengthError Unit) := by
      rintro ⟨e, he⟩
      cases he
    rw [or_iff_right hreturns, ← readSectors_ends_iff buffer _ 1 l.sectors]
    refine exists_congr fun turns => ?_
    rw [fromVector_ok hcheck, Option.ne_none_iff_exists']
    constructor
    · rintro ⟨r, hr⟩
      obtain ⟨read, hread, -⟩ := Option.map_eq_some_iff.mp hr
      exact ⟨read, hread⟩
    · rintro ⟨read, hread⟩
      exact ⟨_, Option.map_eq_some_iff.mpr ⟨read, hread, rfl⟩⟩

/-- Four sectors, the first of which starts at infinity. -/
def fromInfinity : List UInt8 := [4, 0x7F, 0x80, 0, 0] ++ List.replicate 28 0

theorem fromVector_fromInfinity (turns : Nat) (l : BlankingSectorList) :
    fromVector turns fromInfinity l = none := by
  have hfirst : angleAt turns fromInfinity 1 = none := by
    have hwrap := Binary32.wrap_none_of_infinite
      (show (patternAt fromInfinity 1).value = .infinite false by decide) turns
    exact Option.map_eq_none_iff.mpr hwrap
  have hread : readSectors turns fromInfinity (numSectors fromInfinity) 1 l.sectors = none := by
    change (sectorAt turns fromInfinity 1).bind _ = none
    unfold sectorAt
    rw [hfirst]
    rfl
  rw [fromVector_ok (by decide), hread]
  rfl

theorem not_fromVector_ends : ¬ ∀ buffer l, ∃ turns, fromVector turns buffer l ≠ none := by
  intro h
  obtain ⟨turns, hturns⟩ := h fromInfinity empty
  exact hturns (fromVector_fromInfinity turns empty)

end BlankingSectorList

end Navtech
