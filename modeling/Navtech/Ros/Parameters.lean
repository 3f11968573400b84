/-
  What the publishers of `ros2/src/nav_ros` share: the azimuth of a sweep, the window of
  azimuths and bins a publisher looks at, and the parameters this window is refreshed from.

  The azimuth is a quotient of `double`s that is cut off. Of an angle of the circle it is one of
  the radar's, or one too high: the greatest angle below 360 is so close to the end that for some
  numbers of azimuths its quotient is rounded up to the end (`azimuthIndex_eq_size_iff`).

  A parameter is a 64-bit number that the user may set to anything. Every few rotations a
  publisher reads it into an `int`, and takes it over if it lies in bounds; otherwise it sets
  the parameter to a value that does (`refreshWith_valid`). The point cloud publisher of the
  navigation mode has a refresh of its own: it takes the end bin from the end azimuth
  (`refreshNavigation_eq_iff`).
-/
import Mathlib.Data.Rat.Floor
import Navtech.Network.RadarClient

namespace Navtech

namespace Ros

open SignificantBits (Representable nearest)

/-! ## Conversions -/

/-- `static_cast<int>` of a floating-point number: the fraction is cut off. It is not defined
    for a number that does not fit, so that `undefined` says what the machine makes of it. -/
def castInt (undefined : ExtRat → Int) : ExtRat → Int
  | .finite q =>
    let n := q.num.tdiv q.den
    if -2 ^ 31 ≤ n ∧ n < 2 ^ 31 then n else undefined (.finite q)
  | x => undefined x

/-- `360.0 / azimuth_samples`, a `double`. -/
def azimuthWidth (azimuthSamples : UInt16) : ℚ := nearest 53 (360 / azimuthSamples.toNat)

/-- `angle / (360.0 / azimuth_samples)`, a `double`. A division by zero gives an infinity here,
    and one by an infinity gives zero. -/
def azimuthQuotient (angle : ExtRat) (azimuthSamples : UInt16) : ExtRat :=
  if azimuthSamples = 0 then
    match angle with
    | .finite _ => .finite 0
    | _ => .nan
  else (angle.scale (azimuthWidth azimuthSamples)⁻¹).nearest 53

/-- The quotient, cast to an `int`. -/
def azimuthIndex (undefined : ExtRat → Int) (angle : ExtRat) (azimuthSamples : UInt16) : Int :=
  castInt undefined (azimuthQuotient angle azimuthSamples)

/-- The index in the image or the cloud, from which the radar's own start is shifted. -/
def adjustedAzimuthIndex (azimuthIndex : Int) (azimuthOffset azimuthSamples : UInt16) : Int :=
  let adjusted := azimuthIndex + azimuthOffset.toNat
  if adjusted ≥ azimuthSamples.toNat then adjusted - azimuthSamples.toNat else adjusted

/-- An angle of the circle, as a `double` has it. -/
structure InCircle (angle : ℚ) : Prop where
  double : Representable 53 angle
  nonneg : 0 ≤ angle
  lt : angle < 360

instance (angle : ℚ) : Decidable (InCircle angle) :=
  decidable_of_iff (Representable 53 angle ∧ 0 ≤ angle ∧ angle < 360)
    ⟨fun h => ⟨h.1, h.2.1, h.2.2⟩, fun h => ⟨h.double, h.nonneg, h.lt⟩⟩

/-- The greatest `double` below 360. -/
def lastAngle : ℚ := 360 - 1 / 2 ^ 44

/-- The quotient of the greatest angle is rounded up to the number of azimuths, so that its index
    is one too high. -/
def ReachesEnd (azimuthSamples : UInt16) : Prop :=
  azimuthSamples ≠ 0 ∧ azimuthSamples.toNat ≤ nearest 53 (lastAngle / azimuthWidth azimuthSamples)

instance (azimuthSamples : UInt16) : Decidable (ReachesEnd azimuthSamples) :=
  inferInstanceAs (Decidable (_ ∧ _))

theorem tdiv_of_nonneg {q : ℚ} (h : 0 ≤ q) : q.num.tdiv q.den = ⌊q⌋ := by
  rw [Rat.floor_def', Int.tdiv_eq_ediv_of_nonneg (Rat.num_nonneg.mpr h)]

theorem azimuthIndex_zero (undefined : ExtRat → Int) (q : ℚ) :
    azimuthIndex undefined (.finite q) 0 = 0 := rfl

/-! ## The azimuth of a sweep -/

section AzimuthIndex

variable {q : ℚ} {azimuthSamples : UInt16}

theorem lastAngle_eq : lastAngle = (360 * 2 ^ 44 - 1 : Int) * 2 ^ (8 + 1 - 53 : Int) := by
  rw [lastAngle]
  norm_num

theorem inCircle_lastAngle : InCircle lastAngle where
  double := by
    have h := SignificantBits.nearest_of_multiple (p := 53) (s := 360 * 2 ^ 44 - 1)
      (e := 8 + 1 - 53) (by decide)
    rwa [← lastAngle_eq] at h
  nonneg := by
    rw [lastAngle]
    norm_num
  lt := by
    rw [lastAngle]
    norm_num

theorem InCircle.le_lastAngle (h : InCircle q) : q ≤ lastAngle := by
  rw [lastAngle_eq]
  refine h.double.le_of_lt (by norm_num) ?_
  have hlt := h.lt
  norm_num
  exact hlt

/-- The greatest angle but one. -/
theorem InCircle.le_of_lt_lastAngle (h : InCircle q) (hlt : q < lastAngle) :
    q ≤ 360 - 1 / 2 ^ 43 := by
  rw [lastAngle_eq] at hlt
  refine (h.double.le_of_lt (by norm_num) hlt).trans ?_
  norm_num

theorem samples_pos (h : azimuthSamples ≠ 0) : (0 : ℚ) < azimuthSamples.toNat := by
  exact_mod_cast Nat.pos_of_ne_zero fun hzero => h (UInt16.toNat.inj hzero)

theorem azimuthWidth_pos (h : azimuthSamples ≠ 0) : 0 < azimuthWidth azimuthSamples := by
  have hpos := samples_pos h
  have hlow := SignificantBits.le_nearest 53 (div_nonneg (by norm_num) hpos.le :
    (0 : ℚ) ≤ 360 / azimuthSamples.toNat)
  refine lt_of_lt_of_le (mul_pos (div_pos (by norm_num) hpos) (by norm_num)) hlow

/-- The quotient is hardly greater than the exact one. -/
theorem quotient_le (hsamples : azimuthSamples ≠ 0) (h0 : 0 ≤ q) :
    nearest 53 (q / azimuthWidth azimuthSamples) * (1 - 1 / 2 ^ 53) ≤
      q / 360 * azimuthSamples.toNat * (1 + 1 / 2 ^ 53) := by
  have hpos := samples_pos hsamples
  have hwidth := azimuthWidth_pos hsamples
  have hlow : 360 / azimuthSamples.toNat * (1 - 1 / 2 ^ 53) ≤ azimuthWidth azimuthSamples :=
    SignificantBits.le_nearest 53 (div_nonneg (by norm_num) hpos.le)
  have hexact : q / azimuthWidth azimuthSamples * (1 - 1 / 2 ^ 53) ≤
      q / 360 * azimuthSamples.toNat := by
    rw [div_mul_eq_mul_div, div_le_iff₀ hwidth]
    calc q * (1 - 1 / 2 ^ 53)
        = q / 360 * azimuthSamples.toNat * (360 / azimuthSamples.toNat * (1 - 1 / 2 ^ 53)) := by
          field_simp
      _ ≤ _ := mul_le_mul_of_nonneg_left hlow
          (mul_nonneg (div_nonneg h0 (by norm_num)) hpos.le)
  calc nearest 53 (q / azimuthWidth azimuthSamples) * (1 - 1 / 2 ^ 53)
      ≤ q / azimuthWidth azimuthSamples * (1 + 1 / 2 ^ 53) * (1 - 1 / 2 ^ 53) :=
        mul_le_mul_of_nonneg_right (SignificantBits.nearest_le 53 (div_nonneg h0 hwidth.le))
          (by norm_num)
    _ = q / azimuthWidth azimuthSamples * (1 - 1 / 2 ^ 53) * (1 + 1 / 2 ^ 53) := by ring
    _ ≤ _ := mul_le_mul_of_nonneg_right hexact (by norm_num)

/-- Nor is it hardly less. -/
theorem le_quotient (hsamples : azimuthSamples ≠ 0) (h0 : 0 ≤ q) :
    q / 360 * azimuthSamples.toNat * (1 - 1 / 2 ^ 53) ≤
      nearest 53 (q / azimuthWidth azimuthSamples) * (1 + 1 / 2 ^ 53) := by
  have hpos := samples_pos hsamples
  have hwidth := azimuthWidth_pos hsamples
  have hhigh : azimuthWidth azimuthSamples ≤ 360 / azimuthSamples.toNat * (1 + 1 / 2 ^ 53) :=
    SignificantBits.nearest_le 53 (div_nonneg (by norm_num) hpos.le)
  have hexact : q / 360 * azimuthSamples.toNat ≤
      q / azimuthWidth azimuthSamples * (1 + 1 / 2 ^ 53) := by
    rw [div_mul_eq_mul_div q (azimuthWidth azimuthSamples), le_div_iff₀ hwidth]
    calc q / 360 * azimuthSamples.toNat * azimuthWidth azimuthSamples
        ≤ q / 360 * azimuthSamples.toNat * (360 / azimuthSamples.toNat * (1 + 1 / 2 ^ 53)) :=
          mul_le_mul_of_nonneg_left hhigh (mul_nonneg (div_nonneg h0 (by norm_num)) hpos.le)
      _ = _ := by field_simp
  calc q / 360 * azimuthSamples.toNat * (1 - 1 / 2 ^ 53)
      ≤ q / azimuthWidth azimuthSamples * (1 + 1 / 2 ^ 53) * (1 - 1 / 2 ^ 53) :=
        mul_le_mul_of_nonneg_right hexact (by norm_num)
    _ = q / azimuthWidth azimuthSamples * (1 - 1 / 2 ^ 53) * (1 + 1 / 2 ^ 53) := by ring
    _ ≤ _ := mul_le_mul_of_nonneg_right
        (SignificantBits.le_nearest 53 (div_nonneg h0 hwidth.le)) (by norm_num)

theorem quotient_lt (hsamples : azimuthSamples ≠ 0) (h : InCircle q) :
    nearest 53 (q / azimuthWidth azimuthSamples) < azimuthSamples.toNat + 1 := by
  have hle := quotient_le hsamples h.nonneg
  have hbound : (azimuthSamples.toNat : ℚ) < 65536 := by exact_mod_cast azimuthSamples.toNat_lt
  have hcircle : q / 360 * azimuthSamples.toNat ≤ azimuthSamples.toNat :=
    mul_le_of_le_one_left (Nat.cast_nonneg _) ((div_le_one (by norm_num)).mpr h.lt.le)
  by_contra hge
  have hge' : ((azimuthSamples.toNat : ℚ) + 1) * (1 - 1 / 2 ^ 53) ≤
      nearest 53 (q / azimuthWidth azimuthSamples) * (1 - 1 / 2 ^ 53) :=
    mul_le_mul_of_nonneg_right (not_lt.mp hge) (by norm_num)
  norm_num at hle hge'
  linarith

theorem azimuthIndex_eq (undefined : ExtRat → Int) (hsamples : azimuthSamples ≠ 0)
    (h : InCircle q) : azimuthIndex undefined (.finite q) azimuthSamples =
      ⌊nearest 53 (q / azimuthWidth azimuthSamples)⌋ := by
  have hquotient : 0 ≤ nearest 53 (q / azimuthWidth azimuthSamples) :=
    SignificantBits.nearest_nonneg (div_nonneg h.nonneg (azimuthWidth_pos hsamples).le)
  have hfloor : 0 ≤ ⌊nearest 53 (q / azimuthWidth azimuthSamples)⌋ := Int.floor_nonneg.mpr hquotient
  have hlt : ⌊nearest 53 (q / azimuthWidth azimuthSamples)⌋ < (azimuthSamples.toNat : ℤ) + 1 := by
    rw [Int.floor_lt]
    push_cast
    exact quotient_lt hsamples h
  have hbound := azimuthSamples.toNat_lt
  rw [azimuthIndex, azimuthQuotient, if_neg hsamples, ExtRat.scale, ExtRat.nearest, castInt,
    ← div_eq_mul_inv, tdiv_of_nonneg hquotient, if_pos ⟨by omega, by omega⟩]

/-- The index may be one too high. -/
theorem azimuthIndex_bounds (undefined : ExtRat → Int) (hsamples : azimuthSamples ≠ 0)
    (h : InCircle q) : 0 ≤ azimuthIndex undefined (.finite q) azimuthSamples ∧
      azimuthIndex undefined (.finite q) azimuthSamples ≤ azimuthSamples.toNat := by
  rw [azimuthIndex_eq undefined hsamples h]
  constructor
  · exact Int.floor_nonneg.mpr
      (SignificantBits.nearest_nonneg (div_nonneg h.nonneg (azimuthWidth_pos hsamples).le))
  · refine Int.lt_add_one_iff.mp (Int.floor_lt.mpr ?_)
    push_cast
    exact quotient_lt hsamples h

/-- It is so for the greatest angle only, and for the numbers of azimuths at which the quotient
    is rounded up. -/
theorem azimuthIndex_eq_size_iff (undefined : ExtRat → Int) (hsamples : azimuthSamples ≠ 0)
    (h : InCircle q) : azimuthIndex undefined (.finite q) azimuthSamples = azimuthSamples.toNat ↔
      q = lastAngle ∧ ReachesEnd azimuthSamples := by
  have hreaches : azimuthIndex undefined (.finite q) azimuthSamples = azimuthSamples.toNat ↔
      azimuthSamples.toNat ≤ nearest 53 (q / azimuthWidth azimuthSamples) := by
    have hle := (azimuthIndex_bounds undefined hsamples h).2
    rw [azimuthIndex_eq undefined hsamples h] at hle ⊢
    rw [le_antisymm_iff, and_iff_right hle, Int.le_floor]
    push_cast
    exact Iff.rfl
  rw [hreaches]
  constructor
  · intro hge
    rcases lt_or_eq_of_le h.le_lastAngle with hlt | rfl
    · -- the next angle below is too far from the end
      have hpos := samples_pos hsamples
      have hle := quotient_le hsamples h.nonneg
      have hnext : q / 360 * azimuthSamples.toNat ≤
          (360 - 1 / 2 ^ 43) / 360 * azimuthSamples.toNat :=
        mul_le_mul_of_nonneg_right
          (div_le_div_of_nonneg_right (h.le_of_lt_lastAngle hlt) (by norm_num)) hpos.le
      have hge' : azimuthSamples.toNat * (1 - 1 / 2 ^ 53) ≤
          nearest 53 (q / azimuthWidth azimuthSamples) * (1 - 1 / 2 ^ 53) :=
        mul_le_mul_of_nonneg_right hge (by norm_num)
      norm_num at hle hge' hnext
      linarith
    · exact ⟨rfl, hsamples, hge⟩
  · rintro ⟨rfl, -, hge⟩
    exact hge

/-- The greatest angle is at the last azimuth, or reaches the end. -/
theorem azimuthIndex_lastAngle (undefined : ExtRat → Int) (hsamples : azimuthSamples ≠ 0) :
    azimuthSamples.toNat ≤ azimuthIndex undefined (.finite lastAngle) azimuthSamples + 1 := by
  have hle := le_quotient hsamples inCircle_lastAngle.nonneg
  have hpos := samples_pos hsamples
  have hbound : (azimuthSamples.toNat : ℚ) < 65536 := by exact_mod_cast azimuthSamples.toNat_lt
  rw [azimuthIndex_eq undefined hsamples inCircle_lastAngle, ← sub_le_iff_le_add, Int.le_floor]
  push_cast
  by_contra hlt
  have hlt' := mul_lt_mul_of_pos_right (not_le.mp hlt)
    (by norm_num : (0 : ℚ) < 1 + 1 / 2 ^ 53)
  rw [lastAngle] at hle hlt'
  norm_num at hle hlt'
  linarith

end AzimuthIndex

/-- The index that is turned is one of the azimuths, unless it passes the end a second time. -/
theorem adjustedAzimuthIndex_bounds {index : Int} {azimuthOffset azimuthSamples : UInt16}
    (h0 : 0 ≤ index) :
    (0 ≤ adjustedAzimuthIndex index azimuthOffset azimuthSamples ∧
        adjustedAzimuthIndex index azimuthOffset azimuthSamples < azimuthSamples.toNat) ↔
      index + azimuthOffset.toNat < 2 * azimuthSamples.toNat := by
  simp only [adjustedAzimuthIndex]
  split <;> omega

/-- An offset that the index of every sweep may be turned by. -/
def OffsetFits (azimuthOffset azimuthSamples : UInt16) : Prop :=
  azimuthOffset.toNat ≤ azimuthSamples.toNat ∧
    (ReachesEnd azimuthSamples → azimuthOffset.toNat < azimuthSamples.toNat)

/-! ## The window and its parameters -/

/-- The parameters of a publisher, as the user has set them. -/
structure WindowParameters where
  startAzimuth : Int64
  endAzimuth : Int64
  startBin : Int64
  endBin : Int64
  azimuthOffset : Int64
deriving DecidableEq, Repr

/-- The members of a publisher that go by the names of the parameters. -/
structure Window where
  startAzimuth : UInt16
  endAzimuth : UInt16
  startBin : UInt16
  endBin : UInt16
  azimuthOffset : UInt16
deriving DecidableEq, Repr

/-- `as_int`, stored in a member. -/
def memberOf (parameter : Int64) : UInt16 := UInt16.ofInt parameter.toInt

/-- `as_int`, stored in an `int`. -/
def temp (parameter : Int64) : Int := parameter.toInt32.toInt

/-- What the constructors store. -/
def WindowParameters.window (p : WindowParameters) : Window where
  startAzimuth := memberOf p.startAzimuth
  endAzimuth := memberOf p.endAzimuth
  startBin := memberOf p.startBin
  endBin := memberOf p.endBin
  azimuthOffset := memberOf p.azimuthOffset

/-- The end is not in the window. -/
def Window.holdsAzimuth (w : Window) (azimuthIndex : Int) : Bool :=
  decide (azimuthIndex ≥ w.startAzimuth.toNat) && decide (azimuthIndex < w.endAzimuth.toNat)

/-- Nor is the last bin. -/
def Window.holdsBin (w : Window) (bin : Int) : Bool :=
  decide (bin ≥ w.startBin.toNat) && decide (bin < w.endBin.toNat)

theorem Window.startBin_le_of_holdsBin {w : Window} {bin : Nat} (h : w.holdsBin bin = true) :
    w.startBin.toNat ≤ bin := by
  simp only [holdsBin, Bool.and_eq_true, decide_eq_true_eq] at h
  exact Int.ofNat_le.mp h.1

/-! ## The refresh -/

/-- How many rotations there are between two refreshes. -/
def configPublishCount : Nat := 4

/-- A parameter is read: the member takes the value `taken` if the parameter is valid, and the
    parameter is set to `fallback` if it is not. -/
def refreshed (valid : Int → Bool) (fallback : Int64) (parameter : Int64) (taken : Int)
    (member : UInt16) : UInt16 × Int64 :=
  if valid (temp parameter) then (UInt16.ofInt taken, parameter) else (member, fallback)

/-- `!(temp < 0 || temp > bound)`. -/
def within (bound : UInt16) (n : Int) : Bool := !(decide (n < 0) || decide (n > bound.toNat))

/-- There is no test for a negative offset. -/
def notAbove (bound : UInt16) (n : Int) : Bool := !decide (n > bound.toNat)

/-- A member as the value of a parameter. -/
def ofMember (member : UInt16) : Int64 := Int64.ofNat member.toNat

/-- A refresh, where `endBinTaken` is what a valid end bin is stored as. -/
def refreshWith (endBinTaken : Int) (azimuthSamples rangeInBins : UInt16)
    (p : WindowParameters) (w : Window) : WindowParameters × Window :=
  let azimuthOffset := refreshed (notAbove azimuthSamples) (ofMember azimuthSamples)
    p.azimuthOffset (temp p.azimuthOffset) w.azimuthOffset
  let startAzimuth := refreshed (within azimuthSamples) 0
    p.startAzimuth (temp p.startAzimuth) w.startAzimuth
  let endAzimuth := refreshed (within azimuthSamples) (ofMember azimuthSamples)
    p.endAzimuth (temp p.endAzimuth) w.endAzimuth
  let startBin := refreshed (within rangeInBins) 0 p.startBin (temp p.startBin) w.startBin
  let endBin := refreshed (within rangeInBins) (ofMember rangeInBins)
    p.endBin endBinTaken w.endBin
  (⟨startAzimuth.2, endAzimuth.2, startBin.2, endBin.2, azimuthOffset.2⟩,
    ⟨startAzimuth.1, endAzimuth.1, startBin.1, endBin.1, azimuthOffset.1⟩)

/-- The refresh of `Point_cloud_publisher` and of `B_scan_colossus_publisher`. -/
def refresh (azimuthSamples rangeInBins : UInt16) (p : WindowParameters) (w : Window) :
    WindowParameters × Window :=
  refreshWith (temp p.endBin) azimuthSamples rangeInBins p w

/-- The refresh of `Navigation_mode_point_cloud_publisher`: `end_bin = temp_end_azimuth`. -/
def refreshNavigation (azimuthSamples rangeInBins : UInt16) (p : WindowParameters) (w : Window) :
    WindowParameters × Window :=
  refreshWith (temp p.endAzimuth) azimuthSamples rangeInBins p w

/-- All parameters are such that a refresh takes them over. -/
structure WindowParameters.Valid (azimuthSamples rangeInBins : UInt16) (p : WindowParameters) :
    Prop where
  startAzimuth : within azimuthSamples (temp p.startAzimuth) = true
  endAzimuth : within azimuthSamples (temp p.endAzimuth) = true
  startBin : within rangeInBins (temp p.startBin) = true
  endBin : within rangeInBins (temp p.endBin) = true
  azimuthOffset : notAbove azimuthSamples (temp p.azimuthOffset) = true

variable {valid : Int → Bool} {fallback parameter : Int64} {taken : Int} {member : UInt16}
  {azimuthSamples rangeInBins bound : UInt16} {p : WindowParameters} {w : Window} {n : Int}

theorem within_iff : within bound n = true ↔ 0 ≤ n ∧ n ≤ bound.toNat := by
  simp [within]

theorem notAbove_iff : notAbove bound n = true ↔ n ≤ bound.toNat := by
  simp [notAbove]

theorem temp_ofMember (member : UInt16) : temp (ofMember member) = member.toNat := by
  have h := member.toNat_lt
  have h64 : (ofMember member).toInt = member.toNat := Int64.toInt_ofNat_of_lt (by omega)
  rw [temp, Int64.toInt_toInt32, h64]
  exact Int.bmod_eq_of_le (by omega) (by omega)

/-- A number in bounds is stored as it is. -/
theorem toNat_ofInt_of_within {n : Int} (h : within bound n = true) :
    ((UInt16.ofInt n).toNat : Int) = n := by
  obtain ⟨hpos, hle⟩ := within_iff.mp h
  have hlt := bound.toNat_lt
  have hmod : n % 2 ^ 16 = n := Int.emod_eq_of_lt hpos (by omega)
  have hsize : n.toNat < UInt16.size := by
    rw [UInt16.size]
    omega
  rw [UInt16.ofInt, hmod, UInt16.toNat_ofNat_of_lt' hsize, Int.toNat_of_nonneg hpos]

theorem within_zero (bound : UInt16) : within bound (temp 0) = true :=
  within_iff.mpr ⟨le_refl 0, Int.natCast_nonneg _⟩

theorem within_ofMember (bound : UInt16) : within bound (temp (ofMember bound)) = true := by
  rw [temp_ofMember, within_iff]
  exact ⟨Int.natCast_nonneg _, le_refl _⟩

theorem notAbove_ofMember (bound : UInt16) : notAbove bound (temp (ofMember bound)) = true := by
  rw [temp_ofMember, notAbove_iff]

theorem refreshed_of_valid (h : valid (temp parameter) = true) :
    refreshed valid fallback parameter taken member = (UInt16.ofInt taken, parameter) :=
  if_pos h

theorem refreshed_of_not_valid (h : ¬ valid (temp parameter) = true) :
    refreshed valid fallback parameter taken member = (member, fallback) :=
  if_neg h

/-- A refresh leaves a parameter valid, if what it falls back to is. -/
theorem refreshed_valid (hfallback : valid (temp fallback) = true) :
    valid (temp (refreshed valid fallback parameter taken member).2) = true := by
  by_cases h : valid (temp parameter) = true
  · rw [refreshed_of_valid h]
    exact h
  · rw [refreshed_of_not_valid h]
    exact hfallback

/-- A refresh leaves all parameters valid. -/
theorem refreshWith_valid (endBinTaken : Int) (azimuthSamples rangeInBins : UInt16)
    (p : WindowParameters) (w : Window) :
    (refreshWith endBinTaken azimuthSamples rangeInBins p w).1.Valid azimuthSamples
      rangeInBins where
  startAzimuth := refreshed_valid (within_zero _)
  endAzimuth := refreshed_valid (within_ofMember _)
  startBin := refreshed_valid (within_zero _)
  endBin := refreshed_valid (within_ofMember _)
  azimuthOffset := refreshed_valid (notAbove_ofMember _)

/-- The two refreshes agree exactly if the end bin is not valid, or is the end azimuth. -/
theorem refreshNavigation_eq_iff :
    refreshNavigation azimuthSamples rangeInBins p w = refresh azimuthSamples rangeInBins p w ↔
      (within rangeInBins (temp p.endBin) = true →
        UInt16.ofInt (temp p.endAzimuth) = UInt16.ofInt (temp p.endBin)) := by
  by_cases h : within rangeInBins (temp p.endBin) = true
  · simp [refreshNavigation, refresh, refreshWith, refreshed_of_valid h, h]
  · simp [refreshNavigation, refresh, refreshWith, refreshed_of_not_valid h, h]

/-! ## A radar with four azimuths and two bins -/

/-- All azimuths and bins are in the window. -/
def wideOpen : WindowParameters where
  startAzimuth := 0
  endAzimuth := 4
  startBin := 0
  endBin := 2
  azimuthOffset := 0

/-- Four azimuths of two bins. -/
def fourByTwo : ConfigurationData where
  azimuthSamples := 4
  encoderSize := 5600
  binSize := .finite 1
  rangeInBins := 2
  expectedRotationRate := 4
  rangeGain := ⟨0⟩
  rangeOffset := ⟨0⟩

/-- The sweep before the end of a rotation of four. -/
def lastSweep : FftData where
  angle := .finite 270
  azimuth := 4200
  sweepCounter := 3
  ntpSeconds := 10
  ntpSplitSeconds := 0
  data := [0, 8]

/-- The one behind it, at azimuth 0. -/
def firstSweep : FftData where
  angle := .finite 0
  azimuth := 0
  sweepCounter := 4
  ntpSeconds := 11
  ntpSplitSeconds := 0
  data := [9, 0]

end Ros

end Navtech
